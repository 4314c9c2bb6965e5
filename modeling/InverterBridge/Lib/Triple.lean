import Mathlib

/-! What a triple says of a run of a program that may end early. -/

open Std.Do

namespace Python

variable {ε σ α : Type} {program : ExceptT ε (StateM σ) α} {P : σ → Prop} {Q : α → σ → Prop}
  {E : ε → σ → Prop}

/-- A run from a state with the precondition returns with the postcondition, or ends early with
that of its exception. -/
theorem outcome_of_spec
    (hspec : ⦃fun s => ⌜P s⌝⦄ program ⦃post⟨fun a s => ⌜Q a s⌝, fun e s => ⌜E e s⌝⟩⦄)
    {s : σ} (hs : P s) :
    match program.run.run s with
    | (.ok a, s') => Q a s'
    | (.error e, s') => E e s' := by
  have hwp := hspec s hs
  simp only [wp, PredTrans.apply_pushExcept, PredTrans.apply_pushArg] at hwp
  cases hrun : program.run.run s with
  | mk r s' =>
    rw [hrun] at hwp
    cases r with
    | ok a => exact hwp
    | error e => exact hwp

end Python
