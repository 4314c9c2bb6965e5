import InverterBridge.Daemon.Transition

open TransitionSystem
open inverter_bridge.config inverter_bridge.srne_map inverter_bridge.aggregator

namespace inverter_bridge.daemon

variable {κ δ : Type} {d : Daemon κ δ} {s s' : State κ} {a : Action}

theorem tasks_set_phase {t : Nat} {task : Task} (phase : Phase) (htask : s.tasks[t]? = some task)
    (u : Nat) :
    (s.set_phase t task phase).tasks[u]? =
      if u = t then some { task with phase } else s.tasks[u]? := by
  have hlt : t < s.tasks.length := (List.getElem?_eq_some_iff.mp htask).1
  rw [State.set_phase, List.getElem?_set]
  split_ifs with htu hut
  · rfl
  · exact absurd htu.symm hut
  · exact absurd ‹u = t›.symm htu
  · rfl

/-- The tasks of one inverter name: only the latest may still run. -/
structure SingleFlight (d : Daemon κ δ) (s : State κ) : Prop where
  inflight : ∀ name t, s.inflight name = some t → ∃ task inv, s.tasks[t]? = some task ∧
    d.inverters[task.pos]? = some inv ∧ inv.name = name
  latest : ∀ t task, s.tasks[t]? = some task → task.phase.finished = false →
    ∃ inv, d.inverters[task.pos]? = some inv ∧ s.inflight inv.name = some t

theorem singleFlight_init : SingleFlight d init where
  inflight name t h := by cases h
  latest t task h := by simp [init] at h

theorem SingleFlight.set_phase (h : SingleFlight d s) {t : Nat} {task : Task} (phase : Phase)
    (htask : s.tasks[t]? = some task) (hrunning : task.phase.finished = false) :
    SingleFlight d (s.set_phase t task phase) where
  inflight name u hu := by
    obtain ⟨other, inv, hother, hinv, hname⟩ := h.inflight name u hu
    rw [tasks_set_phase phase htask]
    split_ifs with hut
    · subst hut
      rw [htask, Option.some.injEq] at hother
      exact ⟨_, inv, rfl, hother ▸ hinv, hname⟩
    · exact ⟨other, inv, hother, hinv, hname⟩
  latest u other hother hnot := by
    rw [tasks_set_phase phase htask] at hother
    split_ifs at hother with hut
    · rw [Option.some.injEq] at hother
      subst hother hut
      exact h.latest u task htask hrunning
    · exact h.latest u other hother hnot

/-- A task that the skip guard looks at and finds finished. -/
theorem finished_of_not_still_running {t : Nat} {task : Task}
    (hrunning : s.still_running (some t) = false) (htask : s.tasks[t]? = some task) :
    task.phase.finished = true := by
  simpa [State.still_running, htask] using hrunning

theorem not_still_running_of_finished (hfinished : ∀ task ∈ s.tasks, task.phase.finished = true)
    (prev : Option Nat) : s.still_running prev = false := by
  unfold State.still_running
  cases htask : prev.bind fun t => s.tasks[t]? with
  | none => rfl
  | some task =>
    obtain ⟨t, -, ht⟩ := Option.bind_eq_some_iff.mp htask
    simp [hfinished task (List.mem_of_getElem? ht)]

theorem phase_of_findIdx? {t : Nat} {task : Task}
    (hfirst : s.tasks.findIdx? (fun task => task.phase.is_queued) = some t)
    (htask : s.tasks[t]? = some task) : task.phase = .queued := by
  obtain ⟨hlt, hqueued, -⟩ := List.findIdx?_eq_some_iff_getElem.mp hfirst
  rw [List.getElem?_eq_getElem hlt, Option.some.injEq] at htask
  rw [htask] at hqueued
  cases hphase : task.phase with
  | queued => rfl
  | _ => simp [hphase, Phase.is_queued] at hqueued

variable [DecidableEq κ]

theorem SingleFlight.submit (h : SingleFlight d s) {next : Nat} {inv : InverterCfg κ δ}
    (hinv : d.inverters[next]? = some inv)
    (hrunning : s.still_running (s.inflight inv.name) = false) (tier : BlockTier) (cycle : Nat)
    (pc : Pc) :
    SingleFlight d { s with
      tasks := s.tasks ++ [⟨next, tier, cycle, .queued⟩]
      inflight := Function.update s.inflight inv.name (some s.tasks.length)
      pc } where
  inflight name t ht := by
    dsimp only at ht ⊢
    by_cases hname : name = inv.name
    · subst hname
      rw [Function.update_self, Option.some.injEq] at ht
      subst ht
      exact ⟨_, inv, List.getElem?_concat_length, hinv, rfl⟩
    · rw [Function.update_of_ne hname] at ht
      obtain ⟨task, other, htask, hother, heq⟩ := h.inflight name t ht
      have hlt : t < s.tasks.length := (List.getElem?_eq_some_iff.mp htask).1
      exact ⟨task, other, by rw [List.getElem?_append_left hlt, htask], hother, heq⟩
  latest t task htask hnot := by
    dsimp only at htask ⊢
    by_cases hlt : t < s.tasks.length
    · rw [List.getElem?_append_left hlt] at htask
      obtain ⟨other, hother, hlatest⟩ := h.latest t task htask hnot
      refine ⟨other, hother, ?_⟩
      by_cases hname : other.name = inv.name
      · -- the skip guard has just seen this task finished
        rw [← hname, hlatest] at hrunning
        rw [finished_of_not_still_running hrunning htask] at hnot
        cases hnot
      · rw [Function.update_of_ne hname, hlatest]
    · rw [List.getElem?_append_right (Nat.le_of_not_lt hlt), List.getElem?_singleton] at htask
      split_ifs at htask with hzero
      rw [Option.some.injEq] at htask
      subst htask
      refine ⟨inv, hinv, ?_⟩
      rw [Function.update_self, Option.some.injEq]
      omega

theorem singleFlight_step (h : SingleFlight d s) (hstep : step d s a = some s') :
    SingleFlight d s' := by
  cases step_eq_some_iff.mp hstep with
  | begin | all_submitted | skip | count_skip | collect | collect_crashed | timeout | snapshot =>
    exact ⟨h.inflight, h.latest⟩
  | submit hpc hinv hrunning => exact h.submit hinv hrunning _ _ _
  | start hworker hfirst htask =>
    exact h.set_phase _ htask (by rw [phase_of_findIdx? hfirst htask]; rfl)
  | @settle t sessions task inv htask hphase hinv =>
    have hset := h.set_phase
      (.settled (poll_inverter inv.slave d.retry_attempts task.tier sessions).out) htask
      (by rw [hphase]; rfl)
    exact ⟨hset.inflight, hset.latest⟩
  | finish htask hphase => exact h.set_phase _ htask (by rw [hphase]; rfl)
  | crash htask hphase => exact h.set_phase _ htask (by rw [hphase]; rfl)

theorem singleFlight_of_reachable (hreach : Reachable (step d) init s) : SingleFlight d s :=
  hreach.invariant singleFlight_init fun _ _ _ h hstep => singleFlight_step h hstep

end inverter_bridge.daemon
