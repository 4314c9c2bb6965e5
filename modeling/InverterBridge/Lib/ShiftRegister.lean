import Mathlib.Algebra.BigOperators.Fin
import Mathlib.Algebra.Field.ZMod
import Mathlib.Logic.Function.Iterate
import Mathlib.Tactic.Ring

/-! The shift register of a reflected cyclic redundancy check, of any width and
for any polynomial: it is linear, its shift loses nothing, and it keeps parity. -/

namespace ShiftRegister

variable {w : Nat}

/-- A register that holds one bit, in the lowest place. -/
def low_bit (w : Nat) (b : Bool) : BitVec w := (BitVec.ofBool b).setWidth w

/-- One shift: the lowest bit falls out, and feeds the polynomial back. -/
def shift (poly r : BitVec w) : BitVec w :=
  if r.getLsbD 0 then (r >>> 1) ^^^ poly else r >>> 1

/-- The register after one more input bit. -/
def feed (poly r : BitVec w) (b : Bool) : BitVec w := shift poly (r ^^^ low_bit w b)

/-- The register after all of `bits`. -/
def remainder (poly r : BitVec w) (bits : List Bool) : BitVec w := bits.foldl (feed poly) r

theorem getLsbD_low_bit (b : Bool) (i : Nat) :
    (low_bit w b).getLsbD i = (decide (i < w) && decide (i = 0) && b) := by
  simp [low_bit, BitVec.getLsbD_ofBool, Bool.and_assoc]

@[simp] theorem low_bit_false : low_bit w false = 0#w := by
  apply BitVec.eq_of_getLsbD_eq
  simp [getLsbD_low_bit]

theorem low_bit_xor (b c : Bool) : low_bit w (b ^^ c) = low_bit w b ^^^ low_bit w c := by
  apply BitVec.eq_of_getLsbD_eq
  intro i hi
  rw [BitVec.getLsbD_xor, getLsbD_low_bit, getLsbD_low_bit, getLsbD_low_bit]
  cases decide (i < w) <;> cases decide (i = 0) <;> cases b <;> cases c <;> rfl

section linear

variable (poly : BitVec w)

@[simp] theorem shift_zero : shift poly 0#w = 0#w := by simp [shift]

theorem shift_xor (r s : BitVec w) : shift poly (r ^^^ s) = shift poly r ^^^ shift poly s := by
  apply BitVec.eq_of_getLsbD_eq
  intro i _
  unfold shift
  rw [BitVec.getLsbD_xor, BitVec.ushiftRight_xor_distrib]
  cases hr : r.getLsbD 0 <;> cases hs : s.getLsbD 0 <;> simp
  · cases poly.getLsbD i <;> simp
  · cases poly.getLsbD i <;> simp

theorem iterate_shift_zero (n : Nat) : (shift poly)^[n] 0#w = 0#w :=
  Function.iterate_fixed (shift_zero poly) n

theorem feed_xor (r s : BitVec w) (b c : Bool) :
    feed poly (r ^^^ s) (b ^^ c) = feed poly r b ^^^ feed poly s c := by
  unfold feed
  rw [low_bit_xor, ← shift_xor]
  congr 1
  ac_rfl

/-- An error pattern changes the register by what it alone would leave there. -/
theorem remainder_xor {bits errors : List Bool} (hlen : bits.length = errors.length)
    (r s : BitVec w) :
    remainder poly (r ^^^ s) (List.zipWith (· ^^ ·) bits errors) =
      remainder poly r bits ^^^ remainder poly s errors := by
  induction bits generalizing errors r s with
  | nil =>
    cases errors with
    | nil => rfl
    | cons e errors => cases hlen
  | cons b bits ih =>
    cases errors with
    | nil => cases hlen
    | cons e errors =>
      have htail := ih (Nat.succ.inj hlen) (feed poly r b) (feed poly s e)
      rw [← feed_xor] at htail
      exact htail

theorem remainder_append (r : BitVec w) (bits rest : List Bool) :
    remainder poly r (bits ++ rest) = remainder poly (remainder poly r bits) rest :=
  List.foldl_append

/-- Cleared bits only shift the register. -/
theorem remainder_of_clear {bits : List Bool} (hclear : true ∉ bits) (r : BitVec w) :
    remainder poly r bits = (shift poly)^[bits.length] r := by
  induction bits generalizing r with
  | nil => rfl
  | cons b bits ih =>
    cases b with
    | true => exact absurd List.mem_cons_self hclear
    | false =>
      have hbits : true ∉ bits := fun hmem => hclear (List.mem_cons_of_mem _ hmem)
      rw [List.length_cons, Function.iterate_succ_apply, ← ih hbits]
      simp [remainder, feed]

end linear

section word

/-- The bits of a list as one word, the first bit lowest. -/
def word (w : Nat) : List Bool → BitVec w
  | [] => 0#w
  | b :: bits => low_bit w b ^^^ (word w bits <<< 1)

theorem getLsbD_word (bits : List Bool) (i : Nat) :
    (word w bits).getLsbD i = (decide (i < w) && bits.getD i false) := by
  induction bits generalizing i with
  | nil => simp [word]
  | cons b bits ih =>
    rw [word, BitVec.getLsbD_xor, getLsbD_low_bit, BitVec.getLsbD_shiftLeft]
    cases i with
    | zero => simp
    | succ i =>
      rw [ih]
      by_cases hi : i + 1 < w
      · have hlt : i < w := by omega
        simp [hi, hlt]
      · simp [hi]

/-- A word that stops short of the top is shifted up without loss. -/
theorem shift_shiftLeft (poly : BitVec w) {bits : List Bool} (hlen : bits.length < w) :
    shift poly (word w bits <<< 1) = word w bits := by
  have hlow : (word w bits <<< 1).getLsbD 0 = false := by simp
  rw [shift, if_neg (by simp [hlow])]
  apply BitVec.eq_of_getLsbD_eq
  intro i hi
  rw [BitVec.getLsbD_ushiftRight, BitVec.getLsbD_shiftLeft, getLsbD_word, getLsbD_word,
    Nat.add_sub_cancel_left]
  by_cases htop : 1 + i < w
  · simp [htop]
  · have hout : bits.length ≤ i := by omega
    simp [List.getElem?_eq_none hout]

/-- Up to `w` bits can be fed one by one or put into the register at once. -/
theorem remainder_eq_iterate (poly : BitVec w) {bits : List Bool} (hlen : bits.length ≤ w)
    (r : BitVec w) :
    remainder poly r bits = (shift poly)^[bits.length] (r ^^^ word w bits) := by
  induction bits generalizing r with
  | nil => simp [remainder, word]
  | cons b bits ih =>
    rw [List.length_cons] at hlen
    have hstep : shift poly (r ^^^ word w (b :: bits)) = feed poly r b ^^^ word w bits := by
      rw [word, ← BitVec.xor_assoc, shift_xor, shift_shiftLeft poly (by omega)]
      rfl
    rw [List.length_cons, Function.iterate_succ_apply, hstep, ← ih (by omega)]
    rfl

end word

section burst

variable {poly : BitVec w}

/-- With the top bit of the polynomial set the shift loses nothing. -/
theorem shift_eq_zero (hpoly : poly.getLsbD (w - 1) = true) {r : BitVec w}
    (hzero : shift poly r = 0#w) : r = 0#w := by
  have hbit (i : Nat) : (shift poly r).getLsbD i = false := by rw [hzero, BitVec.getLsbD_zero]
  have hlow : r.getLsbD 0 = false := by
    by_contra hset
    have htop := hbit (w - 1)
    rw [shift, if_pos (by simpa using hset), BitVec.getLsbD_xor, hpoly,
      BitVec.getLsbD_ushiftRight, BitVec.getLsbD_of_ge r _ (by omega)] at htop
    cases htop
  apply BitVec.eq_of_getLsbD_eq
  intro i hi
  rw [BitVec.getLsbD_zero]
  cases i with
  | zero => exact hlow
  | succ i =>
    have hnext := hbit i
    rw [shift, if_neg (by simp [hlow]), BitVec.getLsbD_ushiftRight, Nat.add_comm] at hnext
    exact hnext

theorem iterate_shift_eq_zero (hpoly : poly.getLsbD (w - 1) = true) {n : Nat} {r : BitVec w}
    (hzero : (shift poly)^[n] r = 0#w) : r = 0#w := by
  induction n generalizing r with
  | zero => exact hzero
  | succ n ih => exact shift_eq_zero hpoly (ih hzero)

/-- An error burst no longer than the register leaves a trace in it: set bits
that all lie within `w` consecutive ones are never cancelled. -/
theorem remainder_burst_ne_zero (hpoly : poly.getLsbD (w - 1) = true) {errors : List Bool}
    {start : Nat} (hset : true ∈ errors)
    (hburst : ∀ i, errors[i]? = some true → start ≤ i ∧ i < start + w) :
    remainder poly 0#w errors ≠ 0#w := by
  induction errors generalizing start with
  | nil => cases hset
  | cons e errors ih =>
    cases e with
    | false =>
      have hrest : true ∈ errors := by simpa using hset
      have hskip : remainder poly 0#w (false :: errors) = remainder poly 0#w errors := by
        simp [remainder, feed]
      rw [hskip]
      refine @ih (start - 1) hrest fun i hi => ?_
      have hnext := hburst (i + 1) (by simpa using hi)
      omega
    | true =>
      have hstart : start = 0 := Nat.le_zero.mp (hburst 0 (by simp)).1
      have hclear : true ∉ (true :: errors).drop w := by
        intro hmem
        obtain ⟨i, hi⟩ := List.mem_iff_getElem?.mp hmem
        rw [List.getElem?_drop] at hi
        have hlast := (hburst _ hi).2
        omega
      have hhead : (word w ((true :: errors).take w)).getLsbD 0 = true := by
        have hw : 0 < w := by
          have hfirst := (hburst 0 (by simp)).2
          omega
        rw [getLsbD_word, List.getD_eq_getElem?_getD, List.getElem?_take_of_lt hw]
        simpa using hw
      rw [← List.take_append_drop w (true :: errors), remainder_append,
        remainder_of_clear poly hclear, remainder_eq_iterate poly (by simp)]
      intro hzero
      have hword := iterate_shift_eq_zero hpoly (iterate_shift_eq_zero hpoly hzero)
      rw [BitVec.zero_xor] at hword
      rw [hword, BitVec.getLsbD_zero] at hhead
      cases hhead

end burst

section parity

/-- A bit as a number modulo two. -/
def bit (b : Bool) : ZMod 2 := if b then 1 else 0

theorem bit_xor (b c : Bool) : bit (b ^^ c) = bit b + bit c := by
  cases b <;> cases c <;> decide

/-- How many bits of a register are set, modulo two. -/
def parity (r : BitVec w) : ZMod 2 := ∑ i : Fin w, bit (r.getLsbD i)

theorem parity_xor (r s : BitVec w) : parity (r ^^^ s) = parity r + parity s := by
  simp only [parity, BitVec.getLsbD_xor, bit_xor, Finset.sum_add_distrib]

/-- The bit that falls out is what the parity loses. -/
theorem parity_eq_add_ushiftRight (r : BitVec w) :
    parity r = bit (r.getLsbD 0) + parity (r >>> 1) := by
  cases w with
  | zero => simp [parity, bit]
  | succ n =>
    have htop : bit ((r >>> 1).getLsbD n) = 0 := by
      rw [BitVec.getLsbD_ushiftRight, BitVec.getLsbD_of_ge r _ (by omega)]
      rfl
    have hnext (i : Fin n) : bit ((r >>> 1).getLsbD i) = bit (r.getLsbD (i + 1)) := by
      rw [BitVec.getLsbD_ushiftRight, Nat.add_comm 1]
    rw [parity, parity, Fin.sum_univ_succ,
      Fin.sum_univ_castSucc (f := fun i => bit ((r >>> 1).getLsbD i))]
    simp only [Fin.val_castSucc, Fin.val_last, Fin.val_zero, Fin.val_succ, hnext, htop, add_zero]

/-- With an odd polynomial the shift keeps the parity. -/
theorem parity_shift {poly : BitVec w} (hpoly : parity poly = 1) (r : BitVec w) :
    parity (shift poly r) = parity r := by
  rw [parity_eq_add_ushiftRight r, shift]
  cases h : r.getLsbD 0 with
  | false => simp [bit]
  | true => simp [bit, parity_xor, hpoly, add_comm]

theorem parity_low_bit (hw : 0 < w) (b : Bool) : parity (low_bit w b) = bit b := by
  obtain ⟨n, rfl⟩ := Nat.exists_eq_succ_of_ne_zero (Nat.pos_iff_ne_zero.mp hw)
  rw [parity, Fin.sum_univ_succ, Finset.sum_eq_zero, add_zero, getLsbD_low_bit]
  · simp
  · intro i _
    rw [getLsbD_low_bit]
    simp [bit]

theorem parity_remainder {poly : BitVec w} (hw : 0 < w) (hpoly : parity poly = 1)
    (r : BitVec w) (bits : List Bool) :
    parity (remainder poly r bits) = parity r + (bits.count true : Nat) := by
  induction bits generalizing r with
  | nil => simp [remainder]
  | cons b bits ih =>
    have hfeed : parity (feed poly r b) = parity r + bit b := by
      rw [feed, parity_shift hpoly, parity_xor, parity_low_bit hw]
    rw [show remainder poly r (b :: bits) = remainder poly (feed poly r b) bits from rfl, ih, hfeed]
    cases b with
    | false => simp [bit]
    | true =>
      simp only [bit, List.count_cons_self, Nat.cast_add, Nat.cast_one, if_true]
      ring

/-- An odd number of errors leaves a trace in the register. -/
theorem remainder_odd_ne_zero {poly : BitVec w} (hw : 0 < w) (hpoly : parity poly = 1)
    {errors : List Bool} (hodd : Odd (errors.count true)) :
    remainder poly 0#w errors ≠ 0#w := by
  intro hzero
  have hparity := parity_remainder hw hpoly 0#w errors
  rw [hzero, left_eq_add, ZMod.natCast_eq_zero_iff] at hparity
  exact Nat.not_even_iff_odd.mpr hodd (even_iff_two_dvd.mpr hparity)

end parity

end ShiftRegister
