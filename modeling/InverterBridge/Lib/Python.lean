import Mathlib.Data.Rat.Floor
import Mathlib.Algebra.Order.Floor.Ring

/-! The built-in exceptions, number formatting and rounding of Python that a
translated program uses. -/

namespace Python

/-- A raised built-in exception, with its message (the key, for `KeyError`). -/
inductive PyError where
  | ValueError (message : String)
  | KeyError (key : String)
  | IndexError (message : String)
  | TypeError (message : String)
  | AttributeError (message : String)
  | OverflowError (message : String)
  | OSError (message : String)
  deriving DecidableEq

/-- A sequence of two computations succeeds when both do. -/
theorem bind_eq_ok_iff {ε α β : Type} {x : Except ε α} {f : α → Except ε β} {b : β} :
    x >>= f = .ok b ↔ ∃ a, x = .ok a ∧ f a = .ok b := by
  cases x with
  | error e => simp [bind, Except.bind]
  | ok a => simp [bind, Except.bind]

/-- A mapped computation succeeds when the computation does. -/
theorem map_eq_ok_iff {ε α β : Type} {x : Except ε α} {f : α → β} {b : β} :
    x.map f = .ok b ↔ ∃ a, x = .ok a ∧ f a = b := by
  cases x with
  | error e => simp [Except.map]
  | ok a => simp [Except.map]

/-- A comprehension succeeds when its body does for each element. -/
theorem forall₂_of_mapM_ok {α β : Type} {f : α → Except PyError β} {xs : List α} {ys : List β}
    (h : xs.mapM f = .ok ys) : List.Forall₂ (fun x y => f x = .ok y) xs ys := by
  induction xs generalizing ys with
  | nil =>
    rw [List.mapM_nil] at h
    cases h
    exact .nil
  | cons x xs ih =>
    rw [List.mapM_cons] at h
    obtain ⟨y, hy, h⟩ := bind_eq_ok_iff.mp h
    obtain ⟨rest, hrest, h⟩ := bind_eq_ok_iff.mp h
    cases h
    exact .cons hy (ih hrest)

/-- `s.zfill(width)` for a string without a sign. -/
def zfill (width : Nat) (s : String) : String :=
  String.ofList (List.replicate (width - s.length) '0') ++ s

/-- `format(n, "x")` for a non-negative integer. -/
def hex (n : Nat) : String := String.ofList (Nat.toDigits 16 n)

/-- `format(n, "0<width>x")`: the sign counts towards the width. -/
def hex_padded (width : Nat) (n : Int) : String :=
  if n < 0 then "-" ++ zfill (width - 1) (hex n.natAbs) else zfill width (hex n.natAbs)

/-- `format(n, "0<width>X")` for a non-negative integer. -/
def hex_padded_upper (width n : Nat) : String := (zfill width (hex n)).toUpper

/-- `int(x)` of a number: truncation towards zero. -/
def int_of (x : ℚ) : Int := if 0 ≤ x then ⌊x⌋ else ⌈x⌉

/-- The nearest integer, a tie going to the even one. -/
def round_half_even (x : ℚ) : Int :=
  if x - ⌊x⌋ < 1 / 2 then ⌊x⌋
  else if 1 / 2 < x - ⌊x⌋ then ⌊x⌋ + 1
  else if ⌊x⌋ % 2 = 0 then ⌊x⌋ else ⌊x⌋ + 1

/-- `round(x, digits)` in exact arithmetic. -/
def py_round (x : ℚ) (digits : Nat) : ℚ := round_half_even (x * 10 ^ digits) / 10 ^ digits

theorem floor_le_round_half_even (x : ℚ) : ⌊x⌋ ≤ round_half_even x := by
  unfold round_half_even
  split_ifs <;> omega

theorem round_half_even_le_floor_add_one (x : ℚ) : round_half_even x ≤ ⌊x⌋ + 1 := by
  unfold round_half_even
  split_ifs <;> omega

theorem round_half_even_mono {x y : ℚ} (hle : x ≤ y) : round_half_even x ≤ round_half_even y := by
  have hfloor : ⌊x⌋ ≤ ⌊y⌋ := Int.floor_mono hle
  by_cases hsame : ⌊x⌋ = ⌊y⌋
  · unfold round_half_even
    rw [hsame]
    split_ifs <;> first | omega | (exfalso; linarith)
  · have hx := round_half_even_le_floor_add_one x
    have hy := floor_le_round_half_even y
    omega

@[simp] theorem round_half_even_intCast (n : Int) : round_half_even n = n := by
  simp [round_half_even]

theorem py_round_mono {x y : ℚ} (digits : Nat) (hle : x ≤ y) :
    py_round x digits ≤ py_round y digits := by
  have hpos : (0 : ℚ) < 10 ^ digits := by positivity
  have hscaled : x * 10 ^ digits ≤ y * 10 ^ digits := by gcongr
  unfold py_round
  gcongr
  exact_mod_cast round_half_even_mono hscaled

theorem py_round_nonneg {x : ℚ} (digits : Nat) (hx : 0 ≤ x) : 0 ≤ py_round x digits := by
  have hzero : py_round 0 digits = 0 := by simp [py_round, round_half_even]
  rw [← hzero]
  exact py_round_mono digits hx

/-- Numbers with no more than `digits` decimals are not changed by rounding. -/
theorem py_round_eq_self {x : ℚ} {digits : Nat} {n : Int} (hx : x * 10 ^ digits = n) :
    py_round x digits = x := by
  have hpos : (10 : ℚ) ^ digits ≠ 0 := by positivity
  rw [py_round, hx, round_half_even_intCast, ← hx, mul_div_assoc, div_self hpos, mul_one]

/-- `x` has no more than `digits` decimals. -/
def Decimals (digits : Nat) (x : ℚ) : Prop := ∃ n : Int, x * 10 ^ digits = n

namespace Decimals

variable {digits : Nat} {x y : ℚ}

theorem py_round_eq (h : Decimals digits x) : py_round x digits = x := by
  obtain ⟨n, hn⟩ := h
  exact py_round_eq_self hn

theorem zero : Decimals digits 0 := ⟨0, by simp⟩

theorem add (hx : Decimals digits x) (hy : Decimals digits y) : Decimals digits (x + y) := by
  obtain ⟨n, hn⟩ := hx
  obtain ⟨m, hm⟩ := hy
  exact ⟨n + m, by rw [add_mul, hn, hm]; push_cast; rfl⟩

theorem sum {xs : List ℚ} (h : ∀ x ∈ xs, Decimals digits x) : Decimals digits xs.sum := by
  induction xs with
  | nil => exact zero
  | cons x xs ih =>
    rw [List.forall_mem_cons] at h
    rw [List.sum_cons]
    exact h.1.add (ih h.2)

theorem mono (h : Decimals digits x) {more : Nat} (hle : digits ≤ more) : Decimals more x := by
  obtain ⟨n, hn⟩ := h
  obtain ⟨k, rfl⟩ := Nat.exists_eq_add_of_le hle
  exact ⟨n * 10 ^ k, by rw [pow_add, ← mul_assoc, hn]; push_cast; rfl⟩

theorem intCast_mul (h : Decimals digits x) (n : Int) : Decimals digits (n * x) := by
  obtain ⟨m, hm⟩ := h
  exact ⟨n * m, by rw [mul_assoc, hm]; push_cast; rfl⟩

end Decimals

end Python
