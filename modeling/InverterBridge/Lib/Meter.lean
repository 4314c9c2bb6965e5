import Mathlib.Algebra.Order.BigOperators.Group.List

/-! Meters: readings to which every step of a run adds an amount of its own. -/

namespace Meter

variable {σ α M : Type*}

/-- The amounts that the steps of a run add, in order. -/
def amounts (step : σ → α → σ) (amount : σ → α → M) : σ → List α → List M
  | _, [] => []
  | s, a :: acts => amount s a :: amounts step amount (step s a) acts

section

variable {step : σ → α → σ} {amount : σ → α → M} {s : σ} {acts : List α}

theorem amounts_append (later : List α) :
    amounts step amount s (acts ++ later) =
      amounts step amount s acts ++ amounts step amount (acts.foldl step s) later := by
  induction acts generalizing s with
  | nil => rfl
  | cons a acts ih => rw [List.cons_append, amounts, ih, amounts, List.cons_append, List.foldl_cons]

/-- Amounts that do not depend on the state. -/
theorem amounts_eq_map (step : σ → α → σ) (s : σ) {f : α → M}
    (hamount : ∀ s, ∀ a ∈ acts, amount s a = f a) : amounts step amount s acts = acts.map f := by
  induction acts generalizing s with
  | nil => rfl
  | cons a acts ih =>
    rw [amounts, List.map_cons, hamount s a List.mem_cons_self,
      ih _ fun s b hb => hamount s b (List.mem_cons_of_mem _ hb)]

theorem forall_mem_amounts {P : M → Prop} {I : σ → Prop} (hinit : I s)
    (hstep : ∀ s, ∀ a ∈ acts, I s → I (step s a)) (hamount : ∀ s, ∀ a ∈ acts, I s → P (amount s a)) :
    ∀ x ∈ amounts step amount s acts, P x := by
  induction acts generalizing s with
  | nil => nofun
  | cons a acts ih =>
    intro x hx
    cases List.mem_cons.mp hx with
    | inl hnow => exact hnow ▸ hamount s a List.mem_cons_self hinit
    | inr hlater =>
      exact ih (hstep s a List.mem_cons_self hinit)
        (fun s b hb => hstep s b (List.mem_cons_of_mem _ hb))
        (fun s b hb => hamount s b (List.mem_cons_of_mem _ hb)) x hlater

/-- The invariant rule for folds. -/
theorem foldl_preserves {I : σ → Prop} (hinit : I s)
    (hstep : ∀ s, ∀ a ∈ acts, I s → I (step s a)) : I (acts.foldl step s) :=
  List.foldlRecOn acts step hinit fun s hs a ha => hstep s a ha hs

/-- The accounting rule: what each step adds, a run adds up. -/
theorem reading_foldl [AddMonoid M] (reading : σ → M) {I : σ → Prop} (hinit : I s)
    (hstep : ∀ s, ∀ a ∈ acts, I s → I (step s a))
    (hmeter : ∀ s, ∀ a ∈ acts, I s → reading (step s a) = reading s + amount s a) :
    reading (acts.foldl step s) = reading s + (amounts step amount s acts).sum := by
  induction acts generalizing s with
  | nil => rw [List.foldl_nil, amounts, List.sum_nil, add_zero]
  | cons a acts ih =>
    rw [List.foldl_cons, ih (hstep s a List.mem_cons_self hinit)
      (fun s b hb => hstep s b (List.mem_cons_of_mem _ hb))
      (fun s b hb => hmeter s b (List.mem_cons_of_mem _ hb)),
      hmeter s a List.mem_cons_self hinit, amounts, List.sum_cons, add_assoc]

/-- A meter that is never turned back never goes down. -/
theorem le_reading_foldl [AddMonoid M] [Preorder M] [AddLeftMono M] [AddRightMono M]
    (reading : σ → M) (amount : σ → α → M) {I : σ → Prop} (hinit : I s)
    (hstep : ∀ s, ∀ a ∈ acts, I s → I (step s a))
    (hmeter : ∀ s, ∀ a ∈ acts, I s → reading (step s a) = reading s + amount s a)
    (hamount : ∀ s, ∀ a ∈ acts, I s → 0 ≤ amount s a) :
    reading s ≤ reading (acts.foldl step s) := by
  rw [reading_foldl reading hinit hstep hmeter]
  exact le_add_of_nonneg_right (List.sum_nonneg (forall_mem_amounts hinit hstep hamount))

end

end Meter
