import Mathlib.Data.List.Basic
import Mathlib.Data.List.Induction

/-! What holds of each event of a trace, given the events before it. -/

namespace Trace

variable {α : Type*}

/-- Every event of the trace has `P` of it and of the events before it. -/
def EachAt (P : List α → α → Prop) (trace : List α) : Prop :=
  ∀ before event later, trace = before ++ event :: later → P before event

variable {P : List α → α → Prop} {trace : List α} {event : α}

@[simp] theorem eachAt_nil : EachAt P [] := by
  intro before event later heq
  simp at heq

/-- Where an event stands in a trace with one more event. -/
theorem append_singleton_eq_iff {before later : List α} {e : α} :
    trace ++ [event] = before ++ e :: later ↔
      (∃ later', later = later' ++ [event] ∧ trace = before ++ e :: later') ∨
        (later = [] ∧ before = trace ∧ e = event) := by
  constructor
  · intro heq
    cases later using List.reverseRecOn with
    | nil =>
      obtain ⟨rfl, hcons⟩ := List.append_inj' heq rfl
      obtain ⟨rfl, -⟩ := List.cons.inj hcons
      exact .inr ⟨rfl, rfl, rfl⟩
    | append_singleton later last =>
      have hsplit : trace ++ [event] = (before ++ e :: later) ++ [last] := by
        rw [heq, List.append_assoc, List.cons_append]
      obtain ⟨htrace, hlast⟩ := List.append_inj' hsplit rfl
      obtain ⟨rfl, -⟩ := List.cons.inj hlast
      exact .inl ⟨later, rfl, htrace⟩
  · rintro (⟨later', rfl, rfl⟩ | ⟨rfl, rfl, rfl⟩)
    · rw [List.append_assoc, List.cons_append]
    · rfl

theorem eachAt_append_singleton :
    EachAt P (trace ++ [event]) ↔ EachAt P trace ∧ P trace event := by
  constructor
  · intro h
    refine ⟨fun before e later heq => h before e (later ++ [event]) ?_, h trace event [] rfl⟩
    exact append_singleton_eq_iff.mpr (.inl ⟨later, rfl, heq⟩)
  · rintro ⟨h, hlast⟩ before e later heq
    obtain ⟨later', -, htrace⟩ | ⟨-, rfl, rfl⟩ := append_singleton_eq_iff.mp heq
    · exact h before e later' htrace
    · exact hlast

/-- The invariant rule for what a trace adds up to: what every event preserves, in its turn, the
whole trace preserves. -/
theorem EachAt.foldl_preserves {σ : Type*} {f : σ → α → σ} {init : σ} {Q : σ → α → Prop}
    {I : List α → σ → Prop} (h : EachAt (fun before event => Q (before.foldl f init) event) trace)
    (hinit : I [] init) (hstep : ∀ before s event, event ∈ trace → I before s → Q s event →
      I (before ++ [event]) (f s event)) : I trace (trace.foldl f init) := by
  induction trace using List.reverseRecOn with
  | nil => exact hinit
  | append_singleton trace last ih =>
    obtain ⟨hbefore, hlast⟩ := eachAt_append_singleton.mp h
    rw [List.foldl_append, List.foldl_cons, List.foldl_nil]
    refine hstep trace _ last (by simp) (ih hbefore fun before s event hmem => ?_) hlast
    exact hstep before s event (List.mem_append_left _ hmem)

/-! ## What is read off a trace -/

variable {β : Type*} {read : α → Option β}

theorem filterMap_append_singleton :
    (trace ++ [event]).filterMap read = trace.filterMap read ++ (read event).toList := by
  rw [List.filterMap_append, List.filterMap_eq_flatMap_toList read [event], List.flatMap_singleton]

/-- An event that nothing is read off. -/
theorem filterMap_append_of_eq_none (h : read event = none) :
    (trace ++ [event]).filterMap read = trace.filterMap read := by
  rw [filterMap_append_singleton, h, Option.toList_none, List.append_nil]

end Trace
