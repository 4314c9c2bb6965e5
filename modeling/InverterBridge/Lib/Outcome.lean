import InverterBridge.Lib.Python

/-! Whether a computation succeeds, is rejected with a `ValueError` or fails with another
exception, and what becomes of a sequence of computations. -/

namespace Python

/-- How a computation ends. -/
inductive Verdict where
  | fine
  | rejected
  | crashes
  deriving DecidableEq

def outcome {α : Type} : Except PyError α → Verdict
  | .ok _ => .fine
  | .error (.ValueError _) => .rejected
  | .error _ => .crashes

/-- The first verdict of a sequence that stops it. -/
def first : List Verdict → Verdict
  | [] => .fine
  | .fine :: verdicts => first verdicts
  | verdict :: _ => verdict

section

variable {α β : Type} {x : Except PyError α} {f : α → Except PyError β}
  {verdict : Verdict} {verdicts rest : List Verdict}

theorem first_append_of_fine (h : first verdicts = .fine) : first (verdicts ++ rest) = first rest := by
  induction verdicts with
  | nil => rfl
  | cons verdict verdicts ih =>
    cases verdict with
    | fine => exact ih h
    | rejected | crashes => cases h

theorem first_append_of_ne_fine (h : first verdicts ≠ .fine) :
    first (verdicts ++ rest) = first verdicts := by
  induction verdicts with
  | nil => exact absurd rfl h
  | cons verdict verdicts ih =>
    cases verdict with
    | fine => exact ih h
    | rejected | crashes => rfl

theorem outcome_eq_fine_iff : outcome x = .fine ↔ ∃ a, x = .ok a := by
  match x with
  | .ok a => simp [outcome]
  | .error (.ValueError _) | .error (.KeyError _) | .error (.IndexError _) | .error (.TypeError _)
  | .error (.AttributeError _) | .error (.OverflowError _) | .error (.OSError _) => simp [outcome]

theorem outcome_bind_of_ne_fine (h : outcome x ≠ .fine) : outcome (x >>= f) = outcome x := by
  cases x with
  | ok a => exact absurd rfl h
  | error e => cases e <;> rfl

/-- A computation fails exactly when the verdicts do, whatever it may reject beside them. -/
def FailsLike {α : Type} (x : Except PyError α) (verdicts : List Verdict) : Prop :=
  outcome x = .crashes ↔ first verdicts = .crashes

theorem FailsLike.of_eq (h : outcome x = first verdicts) : FailsLike x verdicts := by
  unfold FailsLike
  rw [h]

theorem FailsLike.bind (hx : outcome x = first verdicts) (hf : ∀ a, x = .ok a → FailsLike (f a) rest) :
    FailsLike (x >>= f) (verdicts ++ rest) := by
  unfold FailsLike
  by_cases hfine : first verdicts = .fine
  · obtain ⟨a, rfl⟩ := outcome_eq_fine_iff.mp (hx.trans hfine)
    rw [first_append_of_fine hfine]
    exact hf a rfl
  · rw [first_append_of_ne_fine hfine, ← hx, outcome_bind_of_ne_fine (hx ▸ hfine)]

/-- What follows a computation and cannot fail changes nothing. -/
theorem FailsLike.map (hx : FailsLike x verdicts) (hf : ∀ a, outcome (f a) = .fine) :
    FailsLike (x >>= f) verdicts := by
  refine Iff.trans ?_ hx
  by_cases hfine : outcome x = .fine
  · obtain ⟨a, rfl⟩ := outcome_eq_fine_iff.mp hfine
    rw [hfine]
    exact iff_of_false (fun h => nomatch (hf a).symm.trans h) nofun
  · rw [outcome_bind_of_ne_fine hfine]

end

end Python
