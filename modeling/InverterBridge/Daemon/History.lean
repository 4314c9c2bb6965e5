import InverterBridge.Daemon.Devices
import InverterBridge.Daemon.Refinement

open Python TransitionSystem
open inverter_bridge.config inverter_bridge.parsers inverter_bridge.srne_map
open inverter_bridge.aggregator

namespace inverter_bridge.daemon

variable {κ δ : Type} {d : Daemon κ δ} {s s' : State κ} {a : Action}

/-! ## What happens to a future -/

/-- In cycle `n`, `fut.result` returns what task `t` read for slot `i`. -/
def Collects (n i t : Nat) (s : State κ) (a : Action) : Prop :=
  a = .collect ∧ s.log.length = n ∧
    (∃ tier futures per_inverter, s.pc = .collecting tier ((i, t) :: futures) per_inverter) ∧
    ∃ task out, s.tasks[t]? = some task ∧ task.phase = .done out

/-- In cycle `n`, the wait for task `t` times out for slot `i`. -/
def TimesOut (n i t : Nat) (s : State κ) (a : Action) : Prop :=
  a = .timeout ∧ s.log.length = n ∧
    ∃ tier futures per_inverter, s.pc = .collecting tier ((i, t) :: futures) per_inverter

/-- In cycle `n`, the worker of a task `t` of this very cycle has read these sessions for
the inverter at `i`, through the inverter's own port. -/
def Reads (d : Daemon κ δ) [DecidableEq κ] (n i : Nat) (tier : BlockTier) (t : Nat)
    (sessions : Block → Nat → Session) (s : State κ) (a : Action) : Prop :=
  a = .settle t sessions ∧ s.log.length = n ∧
    ∃ task inv, s.tasks[t]? = some task ∧ task.pos = i ∧ task.tier = tier ∧ task.cycle = n ∧
      d.inverters[i]? = some inv ∧ d.device_of task = some inv.port

variable [DecidableEq κ]

/-! ## Tasks never change their inverter, tier and cycle, nor their result -/

theorem task_step {t : Nat} {task : Task} (hstep : step d s a = some s')
    (htask : s.tasks[t]? = some task) :
    ∃ phase, s'.tasks[t]? = some { task with phase } ∧
      ∀ out, task.phase.result = some out → phase.result = some out := by
  have hset : ∀ {u : Nat} {other : Task} {phase : Phase}, s.tasks[u]? = some other →
      (∀ out, other.phase.result = some out → phase.result = some out) →
      ∃ phase', (s.set_phase u other phase).tasks[t]? = some { task with phase := phase' } ∧
        ∀ out, task.phase.result = some out → phase'.result = some out := by
    intro u other phase hother hresult
    rw [tasks_set_phase phase hother]
    split_ifs with htu
    · subst htu
      rw [htask, Option.some.injEq] at hother
      exact ⟨phase, by rw [hother], hother ▸ hresult⟩
    · exact ⟨task.phase, htask, fun out h => h⟩
  cases step_eq_some_iff.mp hstep with
  | begin | all_submitted | skip | count_skip | collect | collect_crashed | timeout | snapshot =>
    exact ⟨task.phase, htask, fun out h => h⟩
  | submit hpc hinv hrunning =>
    have hlt : t < s.tasks.length := (List.getElem?_eq_some_iff.mp htask).1
    exact ⟨task.phase, by rw [List.getElem?_append_left hlt, htask], fun out h => h⟩
  | start hworker hfirst hhead =>
    refine hset hhead fun out hout => ?_
    rw [phase_of_findIdx? hfirst hhead] at hout
    cases hout
  | settle hother hphase hinv =>
    refine hset hother fun out hout => ?_
    rw [hphase] at hout
    cases hout
  | finish hother hphase =>
    refine hset hother fun out hout => ?_
    rw [hphase] at hout
    exact hout
  | crash hother hphase =>
    refine hset hother fun out hout => ?_
    rw [hphase] at hout
    cases hout

theorem task_run {acts : List Action} {t : Nat} {task : Task}
    (hrun : run (step d) s acts = some s') (htask : s.tasks[t]? = some task) :
    ∃ phase, s'.tasks[t]? = some { task with phase } ∧
      ∀ out, task.phase.result = some out → phase.result = some out := by
  refine run_preserves (I := fun s => ∃ phase, s.tasks[t]? = some { task with phase } ∧
      ∀ out, task.phase.result = some out → phase.result = some out) ?_
    ⟨task.phase, htask, fun out h => h⟩ hrun
  rintro s a s' ⟨phase, hphase, hresult⟩ hstep
  obtain ⟨phase', hphase', hresult'⟩ := task_step hstep hphase
  exact ⟨phase', hphase', fun out hout => hresult' out (hresult out hout)⟩

theorem log_run {acts : List Action} (hrun : run (step d) s acts = some s') :
    s.log.length ≤ s'.log.length := by
  refine run_preserves (I := fun s' => s.log.length ≤ s'.log.length) ?_ (Nat.le_refl _) hrun
  intro mid a mid' hle hstep
  cases step_eq_some_iff.mp hstep with
  | snapshot hpc => exact Nat.le_succ_of_le hle
  | _ => exact hle

/-- No task is of a later cycle, and the futures waited for are of this one. -/
structure FuturesFresh (s : State κ) : Prop where
  cycle_le : ∀ task ∈ s.tasks, task.cycle ≤ s.log.length
  asked : ∀ idx t, (idx, t) ∈ s.pc.futures →
    ∃ task, s.tasks[t]? = some task ∧ task.cycle = s.log.length

omit [DecidableEq κ] in
theorem futuresFresh_init : FuturesFresh (init : State κ) := ⟨nofun, nofun⟩

omit [DecidableEq κ] in
theorem FuturesFresh.set_phase (h : FuturesFresh s) {u : Nat} {other : Task} (phase : Phase)
    (hother : s.tasks[u]? = some other) : FuturesFresh (s.set_phase u other phase) where
  cycle_le task htask := by
    cases List.mem_or_eq_of_mem_set htask with
    | inl hold => exact h.cycle_le task hold
    | inr heq => exact heq ▸ h.cycle_le other (List.mem_of_getElem? hother)
  asked idx t ht := by
    obtain ⟨task, htask, hcycle⟩ := h.asked idx t ht
    rw [tasks_set_phase phase hother]
    split_ifs with htu
    · rw [← htu, htask, Option.some.injEq] at hother
      exact ⟨_, rfl, hother ▸ hcycle⟩
    · exact ⟨task, htask, hcycle⟩

omit [DecidableEq κ] in
/-- Waiting for no other futures than before. -/
theorem FuturesFresh.fewer (h : FuturesFresh s) {pc : Pc}
    (hsub : ∀ p ∈ pc.futures, p ∈ s.pc.futures) : FuturesFresh { s with pc } :=
  ⟨h.cycle_le, fun idx t ht => h.asked idx t (hsub _ ht)⟩

/-- The future of a submit is for a task of the current cycle. -/
theorem FuturesFresh.submit (h : FuturesFresh s) {tier : BlockTier} {next : Nat}
    {futures : List (Nat × Nat)} {name : κ} (hpc : s.pc = .submitting tier next futures) :
    FuturesFresh { s with
      tasks := s.tasks ++ [⟨next, tier, s.log.length, .queued⟩]
      inflight := Function.update s.inflight name (some s.tasks.length)
      pc := .submitting tier (next + 1) (futures ++ [(next, s.tasks.length)]) } where
  cycle_le task htask := by
    cases List.mem_append.mp htask with
    | inl hold => exact h.cycle_le task hold
    | inr hnew => exact Nat.le_of_eq (by rw [List.mem_singleton.mp hnew])
  asked idx t ht := by
    cases List.mem_append.mp ht with
    | inl hold =>
      obtain ⟨task, htask, hcycle⟩ := h.asked idx t (by rw [hpc]; exact hold)
      have hlt : t < s.tasks.length := (List.getElem?_eq_some_iff.mp htask).1
      exact ⟨task, by rw [List.getElem?_append_left hlt, htask], hcycle⟩
    | inr hnew =>
      cases List.mem_singleton.mp hnew
      exact ⟨_, List.getElem?_concat_length, rfl⟩

theorem futuresFresh_step (h : FuturesFresh s) (hstep : step d s a = some s') : FuturesFresh s' := by
  cases step_eq_some_iff.mp hstep with
  | begin hpc => exact h.fewer nofun
  | all_submitted hpc hend | skip hpc hinv hrunning =>
    apply h.fewer
    rw [hpc]
    exact fun p hp => hp
  | count_skip hpc hinv =>
    refine ⟨h.cycle_le, fun idx t ht => h.asked idx t ?_⟩
    rw [hpc]
    exact ht
  | collect hpc htask hphase | collect_crashed hpc htask hphase | timeout hpc hrunning =>
    apply h.fewer
    rw [hpc]
    exact fun p hp => List.mem_cons_of_mem _ hp
  | submit hpc hinv hrunning => exact h.submit hpc
  | snapshot hpc => exact ⟨fun task htask => Nat.le_succ_of_le (h.cycle_le task htask), nofun⟩
  | start hworker hfirst hhead => exact h.set_phase _ hhead
  | @settle t sessions task inv hother hphase hinv =>
    have hsettled := h.set_phase
      (.settled (poll_inverter inv.slave d.retry_attempts task.tier sessions).out) hother
    exact ⟨hsettled.cycle_le, hsettled.asked⟩
  | finish hother hphase => exact h.set_phase _ hother
  | crash hother hphase => exact h.set_phase _ hother

theorem futuresFresh_of_reachable (hreach : Reachable (step d) init s) : FuturesFresh s :=
  hreach.invariant futuresFresh_init fun _ _ _ h hstep => futuresFresh_step h hstep

/-! ## Where results come from -/

/-- Task `t` is the worker that read `out`. -/
def SettledBy (d : Daemon κ δ) (acts : List Action) (t : Nat) (task : Task) (out : PolledBlocks) :
    Prop :=
  ∃ sessions inv, d.inverters[task.pos]? = some inv ∧
    out = (poll_inverter inv.slave d.retry_attempts task.tier sessions).out ∧
    Occurred (step d) init acts fun s a => a = .settle t sessions ∧
      ∃ phase, s.tasks[t]? = some { task with phase }

/-- A result is an old one, or what this step's worker has read. -/
theorem result_step (hstep : step d s a = some s') {t : Nat} {task : Task}
    (htask : s'.tasks[t]? = some task) {out : PolledBlocks}
    (hresult : task.phase.result = some out) :
    (∃ phase, s.tasks[t]? = some { task with phase } ∧ phase.result = some out) ∨
      ∃ sessions inv phase, a = .settle t sessions ∧ s.tasks[t]? = some { task with phase } ∧
        d.inverters[task.pos]? = some inv ∧
        out = (poll_inverter inv.slave d.retry_attempts task.tier sessions).out := by
  have hset : ∀ {u : Nat} {other : Task} {phase : Phase}, s.tasks[u]? = some other →
      (s.set_phase u other phase).tasks[t]? = some task →
      (t = u ∧ task = { other with phase }) ∨ s.tasks[t]? = some task := by
    intro u other phase hother hget
    rw [tasks_set_phase phase hother] at hget
    split_ifs at hget with htu
    · rw [Option.some.injEq] at hget
      exact .inl ⟨htu, hget.symm⟩
    · exact .inr hget
  cases step_eq_some_iff.mp hstep with
  | begin | all_submitted | skip | count_skip | collect | collect_crashed | timeout | snapshot =>
    exact .inl ⟨task.phase, htask, hresult⟩
  | submit hpc hinv hrunning =>
    by_cases hlt : t < s.tasks.length
    · rw [List.getElem?_append_left hlt] at htask
      exact .inl ⟨task.phase, htask, hresult⟩
    · rw [List.getElem?_append_right (Nat.le_of_not_lt hlt), List.getElem?_singleton] at htask
      split_ifs at htask
      rw [Option.some.injEq] at htask
      rw [← htask] at hresult
      cases hresult
  | start hworker hfirst hhead =>
    obtain ⟨rfl, rfl⟩ | hold := hset hhead htask
    · cases hresult
    · exact .inl ⟨task.phase, hold, hresult⟩
  | @settle u sessions other inv hother hphase hinv =>
    obtain ⟨rfl, rfl⟩ | hold := hset hother htask
    · rw [Phase.result, Option.some.injEq] at hresult
      exact .inr ⟨sessions, inv, other.phase, rfl, hother, hinv, hresult.symm⟩
    · exact .inl ⟨task.phase, hold, hresult⟩
  | finish hother hphase =>
    obtain ⟨rfl, rfl⟩ | hold := hset hother htask
    · exact .inl ⟨_, hother, by rw [hphase]; exact hresult⟩
    · exact .inl ⟨task.phase, hold, hresult⟩
  | crash hother hphase =>
    obtain ⟨rfl, rfl⟩ | hold := hset hother htask
    · cases hresult
    · exact .inl ⟨task.phase, hold, hresult⟩

/-- A worker's result was read by that worker. -/
theorem settledBy_of_result {acts : List Action} (hrun : run (step d) init acts = some s) {t : Nat}
    {task : Task} (htask : s.tasks[t]? = some task) {out : PolledBlocks}
    (hresult : task.phase.result = some out) : SettledBy d acts t task out := by
  refine run_preserves_history (I := fun acts s => ∀ t task out, s.tasks[t]? = some task →
    task.phase.result = some out → SettledBy d acts t task out) ?_ ?_ hrun t task out htask hresult
  · intro t task out h
    cases h
  · intro acts s a s' hacts h hstep t task out htask hresult
    obtain ⟨phase, hold, hout⟩ | ⟨sessions, inv, phase, rfl, hold, hinv, hout⟩ :=
      result_step hstep htask hresult
    · obtain ⟨sessions, inv, hinv, hread, hoccurred⟩ := h t _ out hold hout
      exact ⟨sessions, inv, hinv, hread, (occurred_append_singleton_iff hacts).mpr (.inl hoccurred)⟩
    · exact ⟨sessions, inv, hinv, hout,
        (occurred_append_singleton_iff hacts).mpr (.inr ⟨rfl, phase, hold⟩)⟩

theorem DistinctNames.device_of (hnames : DistinctNames d) {task : Task} {inv : InverterCfg κ δ}
    (hinv : d.inverters[task.pos]? = some inv) : d.device_of task = some inv.port := by
  obtain ⟨other, hother, hname, hlookup⟩ := exists_port (List.mem_of_getElem? hinv)
  obtain ⟨j, hj⟩ := List.mem_iff_getElem?.mp hother
  have hpos := hnames.eq_of_name_eq hj hinv hname
  rw [hpos, hinv, Option.some.injEq] at hj
  rw [device_of_eq hinv, hlookup, hj]

/-- A task of the current cycle that has a result has read it in this cycle. -/
theorem reads_of_settledBy (hnames : DistinctNames d) {acts : List Action}
    (hrun : run (step d) init acts = some s) {t : Nat} {task : Task}
    (hcycle : task.cycle = s.log.length) {out : PolledBlocks} (h : SettledBy d acts t task out) :
    ∃ sessions inv, d.inverters[task.pos]? = some inv ∧
      out = (poll_inverter inv.slave d.retry_attempts task.tier sessions).out ∧
      Occurred (step d) init acts (Reads d s.log.length task.pos task.tier t sessions) := by
  obtain ⟨sessions, inv, hinv, hout, hoccurred⟩ := h
  refine ⟨sessions, inv, hinv, hout, hoccurred.imp hrun ?_⟩
  rintro mid a mid' rest hreach hstep hrest ⟨rfl, phase, htask⟩
  have hle := (futuresFresh_of_reachable hreach).cycle_le _ (List.mem_of_getElem? htask)
  have hle' := log_run (show run (step d) mid (_ :: rest) = some s by
    rw [run_cons, hstep, Option.bind_some, hrest])
  have hnow : mid.log.length = s.log.length := Nat.le_antisymm hle' (hcycle ▸ hle)
  exact ⟨rfl, hnow, _, inv, htask, rfl, rfl, hcycle, hinv, hnames.device_of hinv⟩

/-- What a worker has read stays its result. -/
theorem result_of_reads {acts : List Action} (hrun : run (step d) init acts = some s)
    {n i t : Nat} {tier : BlockTier} {sessions : Block → Nat → Session}
    (h : Occurred (step d) init acts (Reads d n i tier t sessions)) :
    ∃ task inv, s.tasks[t]? = some task ∧ task.pos = i ∧ task.tier = tier ∧ task.cycle = n ∧
      d.inverters[i]? = some inv ∧ task.phase.result =
        some (poll_inverter inv.slave d.retry_attempts tier sessions).out := by
  obtain ⟨mid, a, mid', rest, ⟨rfl, -, task, inv, htask, rfl, rfl, hcycle, hinv, -⟩, -, hstep,
    hrest⟩ := h.exists_run hrun
  cases step_eq_some_iff.mp hstep with
  | @settle t sessions other inv' hother hphase hinv' =>
    rw [htask, Option.some.injEq] at hother
    subst hother
    rw [hinv, Option.some.injEq] at hinv'
    subst hinv'
    have hset := tasks_set_phase
      (.settled (poll_inverter inv.slave d.retry_attempts task.tier sessions).out) htask t
    rw [if_pos rfl] at hset
    obtain ⟨phase, hlast, hresult⟩ := task_run hrest hset
    exact ⟨_, inv, hlast, rfl, rfl, hcycle, hinv, hresult _ rfl⟩

/-! ## A future is waited for once -/

/-- Task `t` is submitted and no future of the current cycle. -/
def Dropped (t : Nat) (s : State κ) : Prop :=
  t < s.tasks.length ∧ ∀ idx, (idx, t) ∉ s.pc.futures

theorem dropped_step {t : Nat} (h : Dropped t s) (hstep : step d s a = some s') :
    Dropped t s' := by
  obtain ⟨hlt, hnot⟩ := h
  cases step_eq_some_iff.mp hstep with
  | begin hpc => exact ⟨hlt, nofun⟩
  | snapshot hpc => exact ⟨hlt, nofun⟩
  | all_submitted hpc hend | skip hpc hinv hrunning | count_skip hpc hinv =>
    rw [hpc] at hnot
    exact ⟨hlt, hnot⟩
  | collect hpc | collect_crashed hpc | timeout hpc =>
    rw [hpc] at hnot
    exact ⟨hlt, fun idx hmem => hnot idx (List.mem_cons_of_mem _ hmem)⟩
  | submit hpc hinv hrunning =>
    rw [hpc] at hnot
    refine ⟨by rw [List.length_append]; omega, fun idx hmem => ?_⟩
    cases List.mem_append.mp hmem with
    | inl hold => exact hnot idx hold
    | inr hnew =>
      cases List.mem_singleton.mp hnew
      exact Nat.lt_irrefl _ hlt
  | start | settle | finish | crash =>
    exact ⟨by rw [State.set_phase, List.length_set]; exact hlt, hnot⟩

/-- The wait for task `t` ends, with its result or without. -/
def Waits (t : Nat) (s : State κ) (a : Action) : Prop :=
  ∃ n i, TimesOut n i t s a ∨ Collects n i t s a

omit [DecidableEq κ] in
theorem Waits.mem_futures {t : Nat} (h : Waits t s a) : ∃ idx, (idx, t) ∈ s.pc.futures := by
  obtain ⟨n, i, ⟨-, -, tier, futures, per_inverter, hpc⟩ |
    ⟨-, -, ⟨tier, futures, per_inverter, hpc⟩, -⟩⟩ := h
  · exact ⟨i, by rw [hpc]; exact List.mem_cons_self⟩
  · exact ⟨i, by rw [hpc]; exact List.mem_cons_self⟩

omit [DecidableEq κ] in
/-- The future at the head is no other future of its cycle. -/
theorem CycleInOrder.dropped_tail (h : CycleInOrder d s) {tier : BlockTier} {idx t : Nat}
    {futures : List (Nat × Nat)} {per_inverter : List PolledBlocks}
    (hpc : s.pc = .collecting tier ((idx, t) :: futures) per_inverter) :
    t < s.tasks.length ∧ ∀ i, (i, t) ∉ futures := by
  have hmem : ∀ p ∈ (idx, t) :: futures, p ∈ s.pc.futures := by
    rw [hpc]
    exact fun p hp => hp
  obtain ⟨task, htask, hpos, -⟩ := h.asked idx t (hmem _ List.mem_cons_self)
  refine ⟨(List.getElem?_eq_some_iff.mp htask).1, fun i hi => ?_⟩
  obtain ⟨task', htask', hpos', -⟩ := h.asked i t (hmem _ (List.mem_cons_of_mem _ hi))
  rw [htask, Option.some.injEq] at htask'
  have hnodup := h.nodup
  rw [hpc] at hnodup
  apply (List.nodup_cons.mp hnodup).1
  exact List.mem_map.mpr ⟨(i, t), hi, by rw [← hpos', ← htask', hpos]⟩

theorem dropped_of_waits {t : Nat} (horder : CycleInOrder d s) (h : Waits t s a)
    (hstep : step d s a = some s') : Dropped t s' := by
  obtain ⟨n, i, ⟨rfl, -, tier, futures, per_inverter, hpc⟩ |
    ⟨rfl, -, ⟨tier, futures, per_inverter, hpc⟩, -⟩⟩ := h
  all_goals
    obtain ⟨hlt, hnot⟩ := horder.dropped_tail hpc
    cases step_eq_some_iff.mp hstep with
    | _ hpc' =>
      rw [hpc] at hpc'
      cases hpc'
      exact ⟨hlt, hnot⟩

/-- A poll that timed out is never collected. -/
theorem not_collects_of_timesOut {acts : List Action} (hrun : run (step d) init acts = some s)
    {n i m j t : Nat} (htimeout : Occurred (step d) init acts (TimesOut n i t)) :
    ¬ Occurred (step d) init acts (Collects m j t) := by
  refine (run_preserves_history (I := fun acts s =>
    (∀ t, Occurred (step d) init acts (Waits t) → Dropped t s) ∧
    ∀ n i m j t, Occurred (step d) init acts (TimesOut n i t) →
      ¬ Occurred (step d) init acts (Collects m j t)) ?_ ?_ hrun).2 n i m j t htimeout
  · exact ⟨fun t h => absurd h not_occurred_nil, fun n i m j t h => absurd h not_occurred_nil⟩
  · rintro acts s a s' hacts ⟨hdropped, hnever⟩ hstep
    have hlate : ∀ t, Occurred (step d) init acts (Waits t) → ¬ Waits t s a := by
      intro t hold hnow
      obtain ⟨idx, hidx⟩ := hnow.mem_futures
      exact (hdropped t hold).2 idx hidx
    constructor
    · intro t hwaits
      cases (occurred_append_singleton_iff hacts).mp hwaits with
      | inl hold => exact dropped_step (hdropped t hold) hstep
      | inr hnow => exact dropped_of_waits (cycleInOrder_of_reachable ⟨acts, hacts⟩) hnow hstep
    · intro n i m j t htimeout hcollects
      cases (occurred_append_singleton_iff hacts).mp htimeout with
      | inl hold =>
        cases (occurred_append_singleton_iff hacts).mp hcollects with
        | inl hold' => exact hnever n i m j t hold hold'
        | inr hnow' =>
          exact hlate t (hold.imp hacts fun _ _ _ _ _ _ _ h => ⟨n, i, .inl h⟩) ⟨m, j, .inr hnow'⟩
      | inr hnow =>
        cases (occurred_append_singleton_iff hacts).mp hcollects with
        | inl hold' =>
          exact hlate t (hold'.imp hacts fun _ _ _ _ _ _ _ h => ⟨m, j, .inr h⟩) ⟨n, i, .inl hnow⟩
        | inr hnow' =>
          have hdifferent := hnow.1.symm.trans hnow'.1
          cases hdifferent

end inverter_bridge.daemon
