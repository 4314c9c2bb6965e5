import Mathlib.Algebra.Order.BigOperators.Group.List
import Mathlib.Algebra.Order.Field.Basic
import Mathlib.Algebra.BigOperators.Group.List.Basic
import Mathlib.Tactic.Linarith
import Mathlib.Tactic.Ring

/-! Sums, averages and extremes of lists of numbers: how a sum splits by sign, where an
average lies, and that none of them depends on the order. -/

namespace Statistics

section order

variable {α : Type} [LinearOrder α] {l l' : List α}

theorem min?_perm (h : l.Perm l') : l.min? = l'.min? := by
  apply Option.ext
  intro a
  simp only [List.min?_eq_some_iff, h.mem_iff]

theorem max?_perm (h : l.Perm l') : l.max? = l'.max? := by
  apply Option.ext
  intro a
  simp only [List.max?_eq_some_iff, h.mem_iff]

end order

section split

variable {α K : Type} [Field K] [LinearOrder K]

/-- A sum splits into what counts as positive and what counts as negative, as soon as what
counts as neither adds nothing. -/
theorem sum_eq_sum_filter_sub {sign value : α → K} (hzero : ∀ a, sign a = 0 → value a = 0)
    (l : List α) :
    (l.map value).sum = ((l.filter fun a => 0 < sign a).map value).sum -
      ((l.filter fun a => sign a < 0).map fun a => -value a).sum := by
  induction l with
  | nil => simp
  | cons a l ih =>
    obtain hneg | hnull | hpos := lt_trichotomy (sign a) 0
    · rw [List.map_cons, List.sum_cons, ih, List.filter_cons_of_neg (by simpa using hneg.le),
        List.filter_cons_of_pos (by simpa using hneg), List.map_cons, List.sum_cons]
      ring
    · rw [List.map_cons, List.sum_cons, ih, List.filter_cons_of_neg (by simp [hnull]),
        List.filter_cons_of_neg (by simp [hnull]), hzero a hnull, zero_add]
    · rw [List.map_cons, List.sum_cons, ih, List.filter_cons_of_pos (by simpa using hpos),
        List.filter_cons_of_neg (by simpa using hpos.le), List.map_cons, List.sum_cons]
      ring

variable [IsStrictOrderedRing K]

/-- An average is no less than the least of the values. -/
theorem min_le_average {l : List K} {low : K} (hlow : l.min? = some low) :
    low ≤ l.sum / l.length := by
  obtain ⟨hmem, hle⟩ := List.min?_eq_some_iff.mp hlow
  have hlen : (0 : K) < l.length := Nat.cast_pos.mpr (List.length_pos_of_mem hmem)
  have hsum := List.card_nsmul_le_sum l low hle
  rw [nsmul_eq_mul] at hsum
  rw [le_div_iff₀ hlen, mul_comm]
  exact hsum

/-- An average is no more than the greatest of the values. -/
theorem average_le_max {l : List K} {high : K} (hhigh : l.max? = some high) :
    l.sum / l.length ≤ high := by
  obtain ⟨hmem, hle⟩ := List.max?_eq_some_iff.mp hhigh
  have hlen : (0 : K) < l.length := Nat.cast_pos.mpr (List.length_pos_of_mem hmem)
  have hsum := List.sum_le_card_nsmul l high hle
  rw [nsmul_eq_mul] at hsum
  rw [div_le_iff₀ hlen, mul_comm]
  exact hsum

end split

end Statistics
