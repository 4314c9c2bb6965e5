import Mathlib.Data.Int.Log
import InverterBridge.Lib.PyValue

/-! Arithmetic on floats whose finite values are exact rationals. -/

namespace Python.PyFloat

instance : Add PyFloat where
  add
    | .finite x, .finite y => .finite (x + y)
    | .finite _, y => y
    | x, .finite _ => x
    | .inf, .inf => .inf
    | .neg_inf, .neg_inf => .neg_inf
    | _, _ => .nan

/-- `x <= y`: nothing compares with a NaN. -/
def le : PyFloat → PyFloat → Bool
  | .finite x, .finite y => x ≤ y
  | .nan, _ | _, .nan => false
  | .neg_inf, _ | _, .inf => true
  | _, _ => false

instance : LE PyFloat := ⟨fun x y => x.le y = true⟩

instance : DecidableLE PyFloat := fun x y => inferInstanceAs (Decidable (x.le y = true))

/-- A smaller number stays below a bound. -/
theorem finite_le_of_le {x y : ℚ} {bound : PyFloat} (hxy : x ≤ y)
    (hy : PyFloat.finite y ≤ bound) : PyFloat.finite x ≤ bound := by
  cases bound with
  | finite z =>
    have hyz : y ≤ z := of_decide_eq_true hy
    exact decide_eq_true (hxy.trans hyz)
  | inf => rfl
  | neg_inf => cases hy
  | nan => cases hy

/-- `x < y`. -/
instance : LT PyFloat := ⟨fun x y => x ≤ y ∧ ¬ y ≤ x⟩

instance : DecidableLT PyFloat := fun x y => inferInstanceAs (Decidable (x ≤ y ∧ ¬ y ≤ x))

/-- `x / c` for a positive number `c`. -/
def div (x : PyFloat) (c : ℚ) : PyFloat :=
  match x with
  | .finite x => .finite (x / c)
  | x => x

/-- `x * c` for a positive number `c`. -/
def times (x : PyFloat) (c : ℚ) : PyFloat :=
  match x with
  | .finite x => .finite (x * c)
  | x => x

/-- `round(x, digits)`. -/
def round (x : PyFloat) (digits : Nat) : PyFloat :=
  match x with
  | .finite x => .finite (py_round x digits)
  | x => x

/-- The gap between the doubles around `x`. -/
def double_unit (x : ℚ) : ℚ := 2 ^ max (Int.log 2 |x| - 52) (-1074)

/-- The double nearest to `x`, a tie going to the even one. -/
def nearest_double (x : ℚ) : PyFloat :=
  let rounded := round_half_even (x / double_unit x) * double_unit x
  if 2 ^ 1024 ≤ rounded then .inf else if rounded ≤ -2 ^ 1024 then .neg_inf else .finite rounded

theorem double_overflow_bounds :
    (2 : ℚ) ^ 1023 < double_overflow ∧ double_overflow ≤ 2 ^ 1024 := by
  decide +kernel

/-- The powers of two that are floats. -/
theorem float_of_int_two_pow (n : Nat) :
    float_of_int (2 ^ n) =
      if n < 1024 then .ok (2 ^ n)
      else .error (.OverflowError "int too large to convert to float") := by
  obtain ⟨hlarge, hlimit⟩ := double_overflow_bounds
  have hpos : 0 < double_overflow := (by positivity : (0 : ℚ) < 2 ^ 1023).trans hlarge
  have hpow_pos : (0 : ℚ) < 2 ^ n := by positivity
  rw [float_of_int, float_of_rat]
  push_cast
  split_ifs with hle hn hneg hn hn
  · have hpow : (2 : ℚ) ^ n ≤ 2 ^ 1023 := pow_le_pow_right₀ (by norm_num) (by omega)
    exact absurd (hle.trans hpow) (not_le.mpr hlarge)
  · rfl
  · exact absurd (hpow_pos.trans_le hneg) (not_lt.mpr (neg_nonpos.mpr hpos.le))
  · rfl
  · rfl
  · have hpow : (2 : ℚ) ^ 1024 ≤ 2 ^ n := pow_le_pow_right₀ (by norm_num) (by omega)
    exact absurd (hlimit.trans hpow) hle

/-- The rational a finite float is. -/
def value : PyFloat → ℚ
  | .finite x => x
  | _ => 0

/-- Finite and not negative. -/
def Sound (x : PyFloat) : Prop := ∃ q, 0 ≤ q ∧ x = .finite q

theorem add_finite_zero (x : PyFloat) : x + .finite 0 = x := by
  cases x with
  | finite x => exact congrArg PyFloat.finite (add_zero x)
  | inf | neg_inf | nan => rfl

theorem Sound.eq_value {x : PyFloat} (h : x.Sound) : x = .finite x.value := by
  obtain ⟨q, -, rfl⟩ := h
  rfl

/-- Adding a number to a sound reading. -/
theorem Sound.add {x : PyFloat} (h : x.Sound) {y : ℚ} (hy : 0 ≤ y) : (x + .finite y).Sound := by
  obtain ⟨q, hq, rfl⟩ := h
  exact ⟨q + y, add_nonneg hq hy, rfl⟩

theorem Sound.value_add {x : PyFloat} (h : x.Sound) (y : ℚ) :
    (x + .finite y).value = x.value + y := by
  obtain ⟨q, -, rfl⟩ := h
  rfl

theorem Sound.times {x : PyFloat} (h : x.Sound) {c : ℚ} (hc : 0 ≤ c) : (x.times c).Sound := by
  obtain ⟨q, hq, rfl⟩ := h
  exact ⟨q * c, mul_nonneg hq hc, rfl⟩

theorem value_times (x : PyFloat) (c : ℚ) : (x.times c).value = x.value * c := by
  cases x with
  | finite x => rfl
  | inf | neg_inf | nan => exact (zero_mul c).symm

/-! ## Floats that are not negative -/

/-- What is not negative is a sound number or infinite. -/
theorem sound_or_inf {x : PyFloat} (h : .finite 0 ≤ x) : x.Sound ∨ x = .inf := by
  cases x with
  | finite q => exact .inl ⟨q, of_decide_eq_true h, rfl⟩
  | inf => exact .inr rfl
  | neg_inf | nan => cases h

theorem Sound.nonneg {x : PyFloat} (h : x.Sound) : .finite 0 ≤ x := by
  obtain ⟨q, hq, rfl⟩ := h
  exact decide_eq_true hq

theorem add_nonneg {x y : PyFloat} (hx : .finite 0 ≤ x) (hy : .finite 0 ≤ y) :
    .finite 0 ≤ x + y := by
  obtain ⟨q, hq, rfl⟩ | rfl := sound_or_inf hx
  · obtain ⟨r, hr, rfl⟩ | rfl := sound_or_inf hy
    · exact decide_eq_true (Rat.add_nonneg hq hr)
    · rfl
  · obtain ⟨r, hr, rfl⟩ | rfl := sound_or_inf hy
    · rfl
    · rfl

/-- The sum of a list. -/
def sum (xs : List PyFloat) : PyFloat := xs.foldr (· + ·) (.finite 0)

theorem sum_cons (x : PyFloat) (xs : List PyFloat) : sum (x :: xs) = x + sum xs := rfl

theorem sum_nonneg {xs : List PyFloat} (hxs : ∀ x ∈ xs, .finite 0 ≤ x) : .finite 0 ≤ sum xs := by
  induction xs with
  | nil => rfl
  | cons x xs ih =>
    rw [List.forall_mem_cons] at hxs
    exact add_nonneg hxs.1 (ih hxs.2)

end Python.PyFloat
