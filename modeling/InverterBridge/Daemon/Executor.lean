import Mathlib.Data.List.Perm.Subperm
import InverterBridge.Daemon.Invariant

open TransitionSystem
open inverter_bridge.config inverter_bridge.srne_map inverter_bridge.aggregator

namespace inverter_bridge.daemon

variable {κ δ : Type} {d : Daemon κ δ} {s s' : State κ}

/-- Submitted and not done: waiting for a worker, or occupying one. -/
def Task.unfinished (task : Task) : Bool := !task.phase.finished

theorem unfinished_eq (task : Task) :
    task.unfinished = (task.phase.busy || task.phase.is_queued) := by
  unfold Task.unfinished
  cases task.phase <;> rfl

/-- The unfinished task of an inverter is the latest one of its name. -/
theorem SingleFlight.eq_of_pos_eq (h : SingleFlight d s) {t u : Nat} {task other : Task}
    (htask : s.tasks[t]? = some task) (hother : s.tasks[u]? = some other)
    (hunfinished : task.unfinished = true) (hunfinished' : other.unfinished = true)
    (hpos : task.pos = other.pos) : t = u := by
  rw [Task.unfinished, Bool.not_eq_true'] at hunfinished hunfinished'
  obtain ⟨inv, hinv, hlatest⟩ := h.latest t task htask hunfinished
  obtain ⟨inv', hinv', hlatest'⟩ := h.latest u other hother hunfinished'
  rw [hpos, hinv', Option.some.injEq] at hinv
  rw [← hinv, hlatest', Option.some.injEq] at hlatest
  exact hlatest.symm

/-- The inverters of the unfinished tasks, each of them once. -/
theorem SingleFlight.nodup_pos (h : SingleFlight d s) :
    ((s.tasks.filter Task.unfinished).map Task.pos).Nodup := by
  rw [List.Nodup, List.pairwise_map, List.pairwise_filter, List.pairwise_iff_getElem]
  intro t u ht hu hlt hunfinished hunfinished' hpos
  have heq := h.eq_of_pos_eq (List.getElem?_eq_getElem ht) (List.getElem?_eq_getElem hu)
    hunfinished hunfinished' hpos
  omega

/-- At most one task of an inverter is unfinished. -/
theorem SingleFlight.countP_pos_le (h : SingleFlight d s) (i : Nat) :
    s.tasks.countP (fun task => task.unfinished && task.pos == i) ≤ 1 := by
  have hcount : s.tasks.countP (fun task => task.unfinished && task.pos == i)
      = ((s.tasks.filter Task.unfinished).map Task.pos).count i := by
    rw [List.count, List.countP_map, List.countP_filter]
    apply List.countP_congr
    intro task _
    simp [and_comm]
  rw [hcount]
  exact List.nodup_iff_count_le_one.mp h.nodup_pos i

/-- At most `N` tasks are unfinished. -/
theorem SingleFlight.countP_unfinished_le (h : SingleFlight d s) :
    s.tasks.countP Task.unfinished ≤ d.inverters.length := by
  have hsub : (s.tasks.filter Task.unfinished).map Task.pos ⊆ List.range d.inverters.length := by
    intro i hi
    obtain ⟨task, htask, rfl⟩ := List.mem_map.mp hi
    obtain ⟨hmem, hunfinished⟩ := List.mem_filter.mp htask
    obtain ⟨t, ht⟩ := List.mem_iff_getElem?.mp hmem
    obtain ⟨inv, hinv, -⟩ := h.latest t task ht (by simpa [Task.unfinished] using hunfinished)
    exact List.mem_range.mpr (List.getElem?_eq_some_iff.mp hinv).1
  have hle := (List.subperm_of_subset h.nodup_pos hsub).length_le
  rwa [List.length_map, List.length_range, ← List.countP_eq_length_filter] at hle

/-- Busy and queued tasks together are the unfinished ones. -/
theorem countP_busy_add_queued (tasks : List Task) :
    tasks.countP (fun task => task.phase.busy) + tasks.countP (fun task => task.phase.is_queued)
      = tasks.countP Task.unfinished := by
  induction tasks with
  | nil => rfl
  | cons task tasks ih =>
    have hsplit : (if task.phase.busy = true then 1 else 0)
        + (if task.phase.is_queued = true then 1 else 0)
        = if task.unfinished = true then 1 else 0 := by
      rw [unfinished_eq]
      cases task.phase <;> rfl
    rw [List.countP_cons, List.countP_cons, List.countP_cons]
    omega

/-- While a poll waits in the queue, one of the workers is free. -/
theorem SingleFlight.busy_lt (h : SingleFlight d s) {task : Task} (htask : task ∈ s.tasks)
    (hqueued : task.phase.is_queued = true) :
    s.tasks.countP (fun task => task.phase.busy) < d.max_workers := by
  have hpos : 0 < s.tasks.countP (fun task => task.phase.is_queued) :=
    List.countP_pos_iff.mpr ⟨task, htask, hqueued⟩
  have hall := countP_busy_add_queued s.tasks
  have hle := h.countP_unfinished_le
  unfold Daemon.max_workers
  omega

/-- A start takes one task off the queue. -/
theorem countP_queued_set_phase {t : Nat} {head : Task} (hhead : s.tasks[t]? = some head)
    (hphase : head.phase = .queued) :
    (s.set_phase t head .running).tasks.countP (fun task => task.phase.is_queued) + 1
      = s.tasks.countP fun task => task.phase.is_queued := by
  obtain ⟨hlt, hget⟩ := List.getElem?_eq_some_iff.mp hhead
  have hqueued : head.phase.is_queued = true := by rw [hphase]; rfl
  have hpos : 0 < s.tasks.countP (fun task => task.phase.is_queued) :=
    List.countP_pos_iff.mpr ⟨head, List.mem_of_getElem? hhead, hqueued⟩
  rw [State.set_phase, List.countP_set hlt, hget, if_pos hqueued]
  show s.tasks.countP (fun task => task.phase.is_queued) - 1 + 0 + 1 = _
  omega

variable [DecidableEq κ]

/-- A poll waits in the queue: then the executor can start the one at its head. -/
theorem SingleFlight.exists_start (h : SingleFlight d s) {task : Task} (htask : task ∈ s.tasks)
    (hqueued : task.phase.is_queued = true) :
    ∃ t head, s.tasks[t]? = some head ∧ head.phase = .queued ∧
      step d s (.start t) = some (s.set_phase t head .running) := by
  have hsome : (s.tasks.findIdx? fun task => task.phase.is_queued).isSome = true := by
    rw [List.findIdx?_isSome, List.any_eq_true]
    exact ⟨task, htask, hqueued⟩
  obtain ⟨t, hfirst⟩ := Option.isSome_iff_exists.mp hsome
  obtain ⟨hlt, -⟩ := List.findIdx?_eq_some_iff_getElem.mp hfirst
  have hhead : s.tasks[t]? = some s.tasks[t] := List.getElem?_eq_getElem hlt
  exact ⟨t, _, hhead, phase_of_findIdx? hfirst hhead,
    step_eq_some_iff.mpr (.start (h.busy_lt htask hqueued) hfirst hhead)⟩

/-- A queued poll runs after starts alone: no other task has to end or to move. -/
theorem SingleFlight.exists_starts (h : SingleFlight d s) {t : Nat} {task : Task}
    (htask : s.tasks[t]? = some task) (hphase : task.phase = .queued) :
    ∃ (starts : List Nat) (s' : State κ), run (step d) s (starts.map .start) = some s' ∧
      s'.tasks[t]? = some { task with phase := .running } := by
  -- by induction on the number of queued tasks: the head of the queue starts
  generalize hn : s.tasks.countP (fun task => task.phase.is_queued) = n
  induction n generalizing s with
  | zero =>
    have hnot := List.countP_eq_zero.mp hn task (List.mem_of_getElem? htask)
    rw [hphase] at hnot
    exact absurd rfl hnot
  | succ n ih =>
    obtain ⟨u, head, hhead, hqueued, hstart⟩ :=
      h.exists_start (List.mem_of_getElem? htask) (by rw [hphase]; rfl)
    have htasks := tasks_set_phase (s := s) .running hhead t
    by_cases htu : t = u
    · subst htu
      rw [hhead, Option.some.injEq] at htask
      rw [if_pos rfl, htask] at htasks
      refine ⟨[t], _, ?_, htasks⟩
      rw [List.map_singleton, run_cons, hstart, Option.bind_some, run_nil, htask]
    · rw [if_neg htu, htask] at htasks
      have hcount := countP_queued_set_phase (s := s) hhead hqueued
      obtain ⟨starts, s', hrun, hrunning⟩ := ih (singleFlight_step h hstart) htasks (by omega)
      refine ⟨u :: starts, s', ?_, hrunning⟩
      rw [List.map_cons, run_cons, hstart, Option.bind_some, hrun]

/-- A wedged inverter cannot pile up work or starve the others. Whatever the polls do,
at most one submitted task of each inverter is unfinished, hence at most as many as
there are inverters; when the executor has nothing left to start no task is queued, and
a queued task runs after starts alone. -/
theorem no_pile_up_no_starvation (hreach : Reachable (step d) init s) :
    (∀ i, s.tasks.countP (fun task => task.unfinished && task.pos == i) ≤ 1) ∧
    s.tasks.countP Task.unfinished ≤ d.inverters.length ∧
    ((∀ t, step d s (.start t) = none) → ∀ task ∈ s.tasks, task.phase.is_queued = false) ∧
    ∀ (t : Nat) (task : Task), s.tasks[t]? = some task → task.phase = .queued →
      ∃ (starts : List Nat) (s' : State κ), run (step d) s (starts.map .start) = some s' ∧
        s'.tasks[t]? = some { task with phase := .running } := by
  have h := singleFlight_of_reachable hreach
  refine ⟨h.countP_pos_le, h.countP_unfinished_le, fun hrest task htask => ?_,
    fun t task htask hphase => h.exists_starts htask hphase⟩
  cases hqueued : task.phase.is_queued with
  | false => rfl
  | true =>
    obtain ⟨t, head, -, -, hstart⟩ := h.exists_start htask hqueued
    rw [hrest t] at hstart
    cases hstart

/-- A daemon with two inverters. -/
def two_inverters : Daemon Nat Nat where
  inverters := [⟨1, 1, ⟨1, modbus.slave_1_admitted⟩⟩, ⟨2, 2, ⟨2, modbus.slave_2_admitted⟩⟩]
  retry_attempts := 3

/-- The second inverter's poll is submitted while the first one's is wedged. -/
theorem no_pile_up_no_starvation_wedged :
    ∃ s, run (step two_inverters) init [.begin .HOT, .submit, .start 0, .submit] = some s ∧
      s.tasks.map (fun task => task.phase.busy) = [true, false] ∧
      s.tasks.countP Task.unfinished ≤ two_inverters.inverters.length := by
  have hrun : run (step two_inverters) init [.begin .HOT, .submit, .start 0, .submit] = some _ :=
    rfl
  exact ⟨_, hrun, rfl, (no_pile_up_no_starvation ⟨_, hrun⟩).2.1⟩

end inverter_bridge.daemon
