import Mathlib.Data.List.Induction
import Mathlib.Data.Option.Basic

/-! Deterministic labelled transition systems given by a partial step function:
runs, reachable states, and the invariant rules for both. -/

namespace TransitionSystem

variable {σ α : Type*}

/-- The state after `acts`, when each of them is enabled in its turn. -/
def run (step : σ → α → Option σ) (s : σ) (acts : List α) : Option σ :=
  acts.foldlM step s

/-- Some run from `init` ends in `s`. -/
def Reachable (step : σ → α → Option σ) (init s : σ) : Prop :=
  ∃ acts, run step init acts = some s

/-- Every action of the run is allowed by `ok` in the state it is taken in. -/
def Along (step : σ → α → Option σ) (ok : σ → α → Prop) : σ → List α → Prop
  | _, [] => True
  | s, a :: acts => ok s a ∧ ∀ s', step s a = some s' → Along step ok s' acts

instance decidableAlong {step : σ → α → Option σ} {ok : σ → α → Prop} [∀ s a, Decidable (ok s a)]
    (s : σ) : (acts : List α) → Decidable (Along step ok s acts)
  | [] => isTrue trivial
  | a :: acts =>
    match hstep : step s a with
    | none => decidable_of_iff (ok s a) (by simp [Along, hstep])
    | some s' =>
      have : Decidable (Along step ok s' acts) := decidableAlong s' acts
      decidable_of_iff (ok s a ∧ Along step ok s' acts) (by simp [Along, hstep])

/-- In the run of `acts` from `init`, an action was taken with `P` of it and of the
state before it. -/
def Occurred (step : σ → α → Option σ) (init : σ) (acts : List α) (P : σ → α → Prop) : Prop :=
  ∃ before a after s, acts = before ++ a :: after ∧ run step init before = some s ∧ P s a

section

variable {step : σ → α → Option σ} {ok : σ → α → Prop} {init s s' s'' : σ} {a : α} {acts : List α}

@[simp] theorem run_nil : run step s [] = some s := rfl

@[simp] theorem run_cons : run step s (a :: acts) = (step s a).bind fun s' => run step s' acts := rfl

theorem run_cons_eq_some_iff :
    run step s (a :: acts) = some s'' ↔ ∃ s', step s a = some s' ∧ run step s' acts = some s'' := by
  rw [run_cons, Option.bind_eq_some_iff]

theorem run_append (first second : List α) :
    run step s (first ++ second) = (run step s first).bind fun s' => run step s' second := by
  simp only [run, List.foldlM_append]
  rfl

theorem run_append_of_eq {first second : List α} (hfirst : run step s first = some s') :
    run step s (first ++ second) = run step s' second := by
  rw [run_append, hfirst, Option.bind_some]

theorem along_of_forall (hok : ∀ a ∈ acts, ∀ s, ok s a) : Along step ok s acts := by
  induction acts generalizing s with
  | nil => trivial
  | cons a acts ih => exact ⟨hok a (by simp) s, fun s' _ => ih fun b hb => hok b (by simp [hb])⟩

/-- The invariant rule: what every step preserves, every run preserves. -/
theorem run_preserves {I : σ → Prop}
    (hstep : ∀ s a s', I s → step s a = some s' → I s')
    (hinit : I s) (hrun : run step s acts = some s') : I s' := by
  induction acts generalizing s with
  | nil =>
    rw [run_nil, Option.some.injEq] at hrun
    exact hrun ▸ hinit
  | cons a acts ih =>
    obtain ⟨mid, hmid, hrest⟩ := run_cons_eq_some_iff.mp hrun
    exact ih (hstep s a mid hinit hmid) hrest

/-- The invariant rule for runs whose actions are all allowed. -/
theorem run_preserves_along {I : σ → Prop}
    (hstep : ∀ s a s', I s → ok s a → step s a = some s' → I s')
    (hinit : I s) (halong : Along step ok s acts) (hrun : run step s acts = some s') : I s' := by
  induction acts generalizing s with
  | nil =>
    rw [run_nil, Option.some.injEq] at hrun
    exact hrun ▸ hinit
  | cons a acts ih =>
    obtain ⟨mid, hmid, hrest⟩ := run_cons_eq_some_iff.mp hrun
    exact ih (hstep s a mid hinit halong.1 hmid) (halong.2 mid hmid) hrest

/-- Each action of a run is allowed in the state that the actions before it lead to. -/
theorem along_iff_forall : Along step ok s acts ↔
    ∀ before a after mid, acts = before ++ a :: after → run step s before = some mid → ok mid a := by
  induction acts generalizing s with
  | nil => exact iff_of_true trivial fun before a after mid hacts _ => by simp at hacts
  | cons b acts ih =>
    constructor
    · rintro ⟨hb, halong⟩ before a after mid hacts hmid
      cases before with
      | nil =>
        obtain ⟨rfl, -⟩ := List.cons.inj hacts
        rw [run_nil, Option.some.injEq] at hmid
        exact hmid ▸ hb
      | cons c before =>
        obtain ⟨rfl, hrest⟩ := List.cons.inj hacts
        obtain ⟨s', hs', hmid⟩ := run_cons_eq_some_iff.mp hmid
        exact ih.mp (halong s' hs') before a after mid hrest hmid
    · refine fun h => ⟨h [] b acts s rfl rfl, fun s' hs' => ih.mpr ?_⟩
      intro before a after mid hacts hmid
      exact h (b :: before) a after mid (by rw [hacts, List.cons_append])
        (run_cons_eq_some_iff.mpr ⟨s', hs', hmid⟩)

theorem Along.imp {ok' : σ → α → Prop} (h : Along step ok s acts)
    (himp : ∀ s a, ok s a → ok' s a) : Along step ok' s acts :=
  along_iff_forall.mpr fun before a after mid hacts hmid =>
    himp mid a (along_iff_forall.mp h before a after mid hacts hmid)

theorem Along.and {ok' : σ → α → Prop} (h : Along step ok s acts) (h' : Along step ok' s acts) :
    Along step (fun s a => ok s a ∧ ok' s a) s acts :=
  along_iff_forall.mpr fun before a after mid hacts hmid =>
    ⟨along_iff_forall.mp h before a after mid hacts hmid,
      along_iff_forall.mp h' before a after mid hacts hmid⟩

/-- The exact condition on the steps of a run for `P` of all its states, over an invariant
`I` of every run: allowed steps keep `P`, and a step that is not allowed breaks it. -/
theorem along_iff_forall_state {I P : σ → Prop}
    (hinv : ∀ s a s', I s → step s a = some s' → I s')
    (hkeep : ∀ s a s', I s → P s → ok s a → step s a = some s' → P s')
    (hbreak : ∀ s a s', I s → ¬ ok s a → step s a = some s' → ¬ P s')
    (hI : I init) (hP : P init) (hrun : run step init acts = some s) :
    Along step ok init acts ↔
      ∀ before after mid, acts = before ++ after → run step init before = some mid → P mid := by
  constructor
  · intro halong before after mid hacts hmid
    have hbefore : Along step ok init before := by
      refine along_iff_forall.mpr fun first a rest s' hsplit hfirst => ?_
      exact along_iff_forall.mp halong first a (rest ++ after) s' (by simp [hacts, hsplit]) hfirst
    refine (run_preserves_along (I := fun s => I s ∧ P s) ?_ ⟨hI, hP⟩ hbefore hmid).2
    exact fun s a s' h hok hs' => ⟨hinv s a s' h.1 hs', hkeep s a s' h.1 h.2 hok hs'⟩
  · refine fun h => along_iff_forall.mpr fun before a after mid hacts hmid => ?_
    rw [hacts, run_append_of_eq hmid, run_cons_eq_some_iff] at hrun
    obtain ⟨mid', hmid', -⟩ := hrun
    by_contra hok
    refine hbreak mid a mid' (run_preserves hinv hI hmid) hok hmid'
      (h (before ++ [a]) after mid' (by simp [hacts]) ?_)
    rw [run_append_of_eq hmid, run_cons_eq_some_iff]
    exact ⟨mid', hmid', rfl⟩

/-- The invariant rule for what relates a state to the actions that led to it. -/
theorem run_preserves_history {I : List α → σ → Prop} (hinit : I [] init)
    (hstep : ∀ acts s a s', run step init acts = some s → I acts s → step s a = some s' →
      I (acts ++ [a]) s')
    (hrun : run step init acts = some s) : I acts s := by
  induction acts using List.reverseRecOn generalizing s with
  | nil =>
    rw [run_nil, Option.some.injEq] at hrun
    exact hrun ▸ hinit
  | append_singleton acts a ih =>
    rw [run_append, Option.bind_eq_some_iff] at hrun
    obtain ⟨mid, hmid, hlast⟩ := hrun
    rw [run_cons_eq_some_iff] at hlast
    obtain ⟨last, hlast, hend⟩ := hlast
    rw [run_nil, Option.some.injEq] at hend
    exact hstep acts mid a s hmid (ih hmid) (hend ▸ hlast)

theorem not_occurred_nil {P : σ → α → Prop} : ¬ Occurred step init [] P := by
  rintro ⟨before, a, after, s, hacts, -, -⟩
  simp at hacts

/-- What occurred in a run and one more action. -/
theorem occurred_append_singleton_iff {P : σ → α → Prop} (hrun : run step init acts = some s) :
    Occurred step init (acts ++ [a]) P ↔ Occurred step init acts P ∨ P s a := by
  constructor
  · rintro ⟨before, b, after, mid, hacts, hmid, hP⟩
    cases after using List.reverseRecOn with
    | nil =>
      obtain ⟨rfl, hlast⟩ := List.append_inj' hacts rfl
      obtain ⟨rfl, -⟩ := List.cons.inj hlast
      rw [hrun, Option.some.injEq] at hmid
      exact .inr (hmid ▸ hP)
    | append_singleton after c =>
      have hsplit : acts ++ [a] = (before ++ b :: after) ++ [c] := by
        rw [hacts, List.append_assoc, List.cons_append]
      obtain ⟨rfl, -⟩ := List.append_inj' hsplit rfl
      exact .inl ⟨before, b, after, mid, rfl, hmid, hP⟩
  · rintro (⟨before, b, after, mid, rfl, hmid, hP⟩ | hP)
    · exact ⟨before, b, after ++ [a], mid, by simp, hmid, hP⟩
    · exact ⟨acts, a, [], s, rfl, hrun, hP⟩

/-- An action that occurred was a step, and the run went on from its result. -/
theorem Occurred.exists_run {P : σ → α → Prop} (h : Occurred step init acts P)
    (hrun : run step init acts = some s) :
    ∃ mid a mid' rest, P mid a ∧ Reachable step init mid ∧ step mid a = some mid' ∧
      run step mid' rest = some s := by
  obtain ⟨before, a, after, mid, rfl, hmid, hP⟩ := h
  rw [run_append_of_eq hmid, run_cons_eq_some_iff] at hrun
  obtain ⟨mid', hstep, hrest⟩ := hrun
  exact ⟨mid, a, mid', after, hP, ⟨before, hmid⟩, hstep, hrest⟩

/-- What is known of a run's states may be used about an action that occurred in it. -/
theorem Occurred.imp {P Q : σ → α → Prop} (h : Occurred step init acts P)
    (hrun : run step init acts = some s)
    (himp : ∀ mid a mid' rest, Reachable step init mid → step mid a = some mid' →
      run step mid' rest = some s → P mid a → Q mid a) : Occurred step init acts Q := by
  obtain ⟨before, a, after, mid, rfl, hmid, hP⟩ := h
  have hrest := hrun
  rw [run_append_of_eq hmid, run_cons_eq_some_iff] at hrest
  obtain ⟨mid', hstep, hrest⟩ := hrest
  exact ⟨before, a, after, mid, rfl, hmid, himp mid a mid' after ⟨before, hmid⟩ hstep hrest hP⟩

theorem Reachable.refl : Reachable step s s := ⟨[], rfl⟩

theorem Reachable.run (hreach : Reachable step init s) (hrun : run step s acts = some s') :
    Reachable step init s' := by
  obtain ⟨before, hbefore⟩ := hreach
  exact ⟨before ++ acts, by rw [run_append_of_eq hbefore, hrun]⟩

theorem Reachable.tail (hreach : Reachable step init s) (hstep : step s a = some s') :
    Reachable step init s' :=
  hreach.run (show TransitionSystem.run step s [a] = some s' by simp [hstep])

theorem Reachable.trans (hfirst : Reachable step init s) (hsecond : Reachable step s s') :
    Reachable step init s' := by
  obtain ⟨acts, hacts⟩ := hsecond
  exact hfirst.run hacts

/-- An invariant of the initial state that every step preserves holds of every
reachable state. -/
theorem Reachable.invariant {I : σ → Prop} (hinit : I init)
    (hstep : ∀ s a s', I s → step s a = some s' → I s') (hreach : Reachable step init s) : I s := by
  obtain ⟨acts, hacts⟩ := hreach
  exact run_preserves hstep hinit hacts

end

/-- The simulation rule: when a view of the system takes allowed steps, or none,
for every allowed step of the system, then so it does for every run. -/
theorem run_simulates {σ τ α β : Type*} {step : σ → α → Option σ} {view_step : τ → β → Option τ}
    {view : σ → τ} {I : σ → Prop} {ok : σ → α → Prop} {view_ok : β → Prop}
    (hstep : ∀ s a s', I s → step s a = some s' → I s')
    (hsim : ∀ s a s', I s → ok s a → step s a = some s' →
      ∃ es, run view_step (view s) es = some (view s') ∧ ∀ e ∈ es, view_ok e)
    {s s' : σ} {acts : List α} (hinit : I s) (halong : Along step ok s acts)
    (hrun : run step s acts = some s') :
    ∃ es, run view_step (view s) es = some (view s') ∧ ∀ e ∈ es, view_ok e := by
  induction acts generalizing s with
  | nil =>
    rw [run_nil, Option.some.injEq] at hrun
    exact ⟨[], by rw [hrun, run_nil], nofun⟩
  | cons a acts ih =>
    obtain ⟨mid, hmid, hrest⟩ := run_cons_eq_some_iff.mp hrun
    obtain ⟨first, hfirst, hfirst_ok⟩ := hsim s a mid hinit halong.1 hmid
    obtain ⟨second, hsecond, hsecond_ok⟩ := ih (hstep s a mid hinit hmid) (halong.2 mid hmid) hrest
    refine ⟨first ++ second, by rw [run_append_of_eq hfirst, hsecond], fun e he => ?_⟩
    cases List.mem_append.mp he with
    | inl h => exact hfirst_ok e h
    | inr h => exact hsecond_ok e h

end TransitionSystem
