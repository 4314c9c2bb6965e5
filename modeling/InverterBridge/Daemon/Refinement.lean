import InverterBridge.Daemon.Cycles
import InverterBridge.Daemon.Monitor

open TransitionSystem
open inverter_bridge.config inverter_bridge.srne_map inverter_bridge.aggregator

namespace inverter_bridge.daemon

variable {κ δ : Type} {d : Daemon κ δ} {s s' : State κ} {a : Action} {i : Nat}
  {inv : InverterCfg κ δ}

/-! ## What the daemon looks like to one inverter -/

def turn_of (i : Nat) : Pc → Turn
  | .idle => .waiting
  | .submitting _ next futures =>
    if i < next then if i ∈ futures.map Prod.fst then .asked else .collected false else .waiting
  | .skipping _ next futures =>
    if i < next then if i ∈ futures.map Prod.fst then .asked else .collected false
    else if i = next then .skipping else .waiting
  | .collecting _ futures per_inverter =>
    if i ∈ futures.map Prod.fst then .asked
    else .collected (got_block (per_inverter.getD i .empty))

def Phase.worker : Phase → Worker
  | .queued | .running => .pending
  | .settled out => .reported (got_block out)
  | .done out => .finished (got_block out)
  | .crashed => .finished false

def worker_of (s : State κ) (name : κ) : Worker :=
  match (s.inflight name).bind fun t => s.tasks[t]? with
  | some task => task.phase.worker
  | none => .finished false

def cycles_of (i : Nat) (log : List Cycle) : List (Bool × Nat) :=
  log.map fun cycle =>
    (got_block (cycle.per_inverter.getD i .empty), cycle.fails_snapshot.getD i 0)

/-- The monitor of the inverter called `name` at position `i`. -/
def view (i : Nat) (name : κ) (s : State κ) : Monitor :=
  ⟨s.fail_count name, worker_of s name, turn_of i s.pc, cycles_of i s.log⟩

/-- No two inverters share a name. -/
def DistinctNames (d : Daemon κ δ) : Prop := (d.inverters.map InverterCfg.name).Nodup

instance [DecidableEq κ] (d : Daemon κ δ) : Decidable (DistinctNames d) :=
  inferInstanceAs (Decidable (d.inverters.map InverterCfg.name).Nodup)

/-- Actions that neither get a block for the inverter at position `i` nor crash its
worker. -/
def QuietFor (d : Daemon κ δ) (i : Nat) (s : State κ) : Action → Prop
  | .settle t sessions => ∀ task inv, s.tasks[t]? = some task → task.pos = i →
    d.inverters[i]? = some inv →
    (poll_inverter inv.slave d.retry_attempts task.tier sessions).any_success = false
  | .crash t => ∀ task, s.tasks[t]? = some task → task.pos ≠ i
  | _ => True

theorem DistinctNames.eq_of_name_eq (hnames : DistinctNames d) {j : Nat} {other : InverterCfg κ δ}
    (hi : d.inverters[i]? = some inv) (hj : d.inverters[j]? = some other)
    (hname : inv.name = other.name) : i = j := by
  have hlt : i < (d.inverters.map InverterCfg.name).length := by
    rw [List.length_map]
    exact (List.getElem?_eq_some_iff.mp hi).1
  apply (List.getElem?_inj hlt hnames).mp
  rw [List.getElem?_map, List.getElem?_map, hi, hj, Option.map_some, Option.map_some, hname]

/-- Every future of the cycle is the latest task of its inverter. -/
def FuturesCurrent (d : Daemon κ δ) (s : State κ) : Prop :=
  ∀ idx t, (idx, t) ∈ s.pc.futures → ∀ inv, d.inverters[idx]? = some inv →
    s.inflight inv.name = some t

/-- What the proofs about one inverter need of a state. -/
structure Consistent (d : Daemon κ δ) (s : State κ) : Prop where
  flight : SingleFlight d s
  order : CycleInOrder d s
  current : FuturesCurrent d s

theorem consistent_init : Consistent d init := ⟨singleFlight_init, cycleInOrder_init, nofun⟩

/-- The skip guard sees a poll that has not ended. -/
theorem worker_of_still_running {name : κ} (h : s.still_running (s.inflight name) = true) :
    worker_of s name = .pending ∨ ∃ got, worker_of s name = .reported got := by
  unfold State.still_running at h
  unfold worker_of
  cases htask : (s.inflight name).bind fun t => s.tasks[t]? with
  | none => simp [htask] at h
  | some task =>
    simp only [htask] at h
    cases hphase : task.phase with
    | queued | running => exact .inl (by simp only [hphase, Phase.worker])
    | settled out => exact .inr ⟨got_block out, by simp only [hphase, Phase.worker]⟩
    | done out | crashed => simp [hphase, Phase.finished] at h

theorem worker_of_not_still_running {name : κ} (h : s.still_running (s.inflight name) = false) :
    ∃ got, worker_of s name = .finished got := by
  unfold State.still_running at h
  unfold worker_of
  cases htask : (s.inflight name).bind fun t => s.tasks[t]? with
  | none => exact ⟨false, rfl⟩
  | some task =>
    simp only [htask] at h
    cases hphase : task.phase with
    | queued | running | settled out => simp [hphase, Phase.finished] at h
    | done out => exact ⟨got_block out, by simp only [hphase, Phase.worker]⟩
    | crashed => exact ⟨false, by simp only [hphase, Phase.worker]⟩

theorem worker_of_eq {name : κ} {t : Nat} {task : Task} (hlatest : s.inflight name = some t)
    (htask : s.tasks[t]? = some task) : worker_of s name = task.phase.worker := by
  simp [worker_of, hlatest, htask]

/-- A step of a task shows on its own inverter. -/
theorem worker_of_set_phase_self {t : Nat} {task : Task} (phase : Phase)
    (htask : s.tasks[t]? = some task) {name : κ} (hlatest : s.inflight name = some t) :
    worker_of (s.set_phase t task phase) name = phase.worker := by
  have hset : (s.set_phase t task phase).tasks[t]? = some { task with phase } := by
    rw [tasks_set_phase phase htask, if_pos rfl]
  have hsame : (s.set_phase t task phase).inflight name = some t := hlatest
  rw [worker_of_eq hsame hset]

/-- A step of a task shows on no other inverter. -/
theorem worker_of_set_phase_of_ne (hflight : SingleFlight d s) {t : Nat} {task : Task}
    (phase : Phase) (htask : s.tasks[t]? = some task) {name : κ}
    (hother : ∀ inv, d.inverters[task.pos]? = some inv → inv.name ≠ name) :
    worker_of (s.set_phase t task phase) name = worker_of s name := by
  have hsame : (s.set_phase t task phase).inflight = s.inflight := rfl
  rw [worker_of, worker_of, hsame]
  cases hlatest : s.inflight name with
  | none => rfl
  | some u =>
    obtain ⟨latest, inv, hu, hinv, hname⟩ := hflight.inflight name u hlatest
    have hut : u ≠ t := by
      rintro rfl
      rw [htask, Option.some.injEq] at hu
      subst hu
      exact hother inv hinv hname
    rw [Option.bind_some, Option.bind_some, tasks_set_phase phase htask, if_neg hut]

/-! ## Every step of the daemon is a step of the monitor, or none -/

/-- A future of another position may leave the list. -/
theorem turn_of_collect_of_ne {tier : BlockTier} {idx t : Nat} {futures : List (Nat × Nat)}
    {per_inverter : List PolledBlocks} (out : PolledBlocks) (hne : i ≠ idx) :
    turn_of i (.collecting tier ((idx, t) :: futures) per_inverter) =
      turn_of i (.collecting tier futures (per_inverter.set idx out)) := by
  have hmem : i ∈ ((idx, t) :: futures).map Prod.fst ↔ i ∈ futures.map Prod.fst := by
    simp [hne]
  have hget : (per_inverter.set idx out).getD i .empty = per_inverter.getD i .empty := by
    rw [List.getD_eq_getElem?_getD, List.getD_eq_getElem?_getD, List.getElem?_set_ne hne.symm]
  simp only [turn_of, hmem, hget]

/-- The future of this position leaves the list with its result. -/
theorem turn_of_collect_self (horder : CycleInOrder d s) {tier : BlockTier} {t : Nat}
    {futures : List (Nat × Nat)} {per_inverter : List PolledBlocks} (out : PolledBlocks)
    (hpc : s.pc = .collecting tier ((i, t) :: futures) per_inverter) :
    turn_of i s.pc = .asked ∧
      turn_of i (.collecting tier futures (per_inverter.set i out)) = .collected (got_block out) := by
  have hnodup := horder.nodup
  have hreached := horder.reached i t
  have hlength := (horder.collected tier _ per_inverter hpc).length_eq
  rw [hpc] at hnodup hreached
  have hlt : i < per_inverter.length := hlength ▸ hreached List.mem_cons_self
  have hnot : i ∉ futures.map Prod.fst := (List.nodup_cons.mp hnodup).1
  constructor
  · simp [hpc, turn_of]
  · simp [turn_of, hnot, List.getD_eq_getElem?_getD, hlt]

theorem view_set_phase_of_ne (hnames : DistinctNames d) (h : Consistent d s)
    (hinv : d.inverters[i]? = some inv) {t : Nat} {task : Task} (phase : Phase)
    (htask : s.tasks[t]? = some task) (hpos : task.pos ≠ i) :
    view i inv.name (s.set_phase t task phase) = view i inv.name s := by
  have hne : ∀ inv', d.inverters[task.pos]? = some inv' → inv'.name ≠ inv.name :=
    fun inv' hinv' hname => hpos (hnames.eq_of_name_eq hinv' hinv hname)
  rw [view, worker_of_set_phase_of_ne h.flight phase htask hne]
  rfl

theorem view_set_phase_self (h : Consistent d s) {t : Nat} {task : Task} (phase : Phase)
    (htask : s.tasks[t]? = some task) (hrunning : task.phase.finished = false)
    (hinv : d.inverters[task.pos]? = some inv) :
    worker_of s inv.name = task.phase.worker ∧
      view task.pos inv.name (s.set_phase t task phase) =
        { view task.pos inv.name s with worker := phase.worker } := by
  obtain ⟨inv', hinv', hlatest⟩ := h.flight.latest t task htask hrunning
  rw [hinv, Option.some.injEq] at hinv'
  subst hinv'
  refine ⟨worker_of_eq hlatest htask, ?_⟩
  rw [view, worker_of_set_phase_self phase htask hlatest]
  rfl

/-- The monitor of position `i` can follow the daemon from `s` to `s'`. -/
def Follows (d : Daemon κ δ) (i : Nat) (name : κ) (s : State κ) (a : Action) (s' : State κ) : Prop :=
  ∃ es, run Monitor.step (view i name s) es = some (view i name s') ∧
    (QuietFor d i s a → ∀ e ∈ es, Monitor.Quiet e)

theorem Follows.stutter {name : κ} (h : view i name s' = view i name s) :
    Follows d i name s a s' := ⟨[], by rw [run_nil, h], fun _ => nofun⟩

theorem Follows.event {name : κ} (e : Monitor.Event)
    (h : Monitor.step (view i name s) e = some (view i name s'))
    (hquiet : QuietFor d i s a → Monitor.Quiet e) : Follows d i name s a s' := by
  refine ⟨[e], by rw [run_cons, h, Option.bind_some, run_nil], fun hq e' he' => ?_⟩
  rw [List.mem_singleton.mp he']
  exact hquiet hq

/-- Taking a future off the list is a step of its own inverter only. -/
theorem Follows.collect (h : Consistent d s) {name : κ} {tier : BlockTier} {idx t : Nat}
    {futures : List (Nat × Nat)} {per_inverter : List PolledBlocks} {out : PolledBlocks}
    (hpc : s.pc = .collecting tier ((idx, t) :: futures) per_inverter) (e : Monitor.Event)
    (hquiet : Monitor.Quiet e)
    (hself : idx = i → Monitor.step { view i name s with turn := .asked } e =
      some { view i name s with turn := .collected (got_block out) }) :
    Follows d i name s a { s with pc := .collecting tier futures (per_inverter.set idx out) } := by
  by_cases hidx : idx = i
  · subst hidx
    obtain ⟨hasked, hcollected⟩ := turn_of_collect_self h.order out hpc
    refine .event e ?_ fun _ => hquiet
    have hbefore : view idx name s = { view idx name s with turn := .asked } := by
      rw [← hasked]
      rfl
    rw [hbefore, hself rfl, ← hcollected]
    rfl
  · apply Follows.stutter
    rw [view, view, hpc, turn_of_collect_of_ne out (Ne.symm hidx)]
    rfl

theorem follows_skip (hinv : d.inverters[i]? = some inv) {tier : BlockTier} {next : Nat}
    {futures : List (Nat × Nat)} {other : InverterCfg κ δ}
    (hpc : s.pc = .submitting tier next futures) (hother : d.inverters[next]? = some other)
    (hrunning : s.still_running (s.inflight other.name) = true) :
    Follows d i inv.name s a { s with pc := .skipping tier next futures } := by
  by_cases hnext : i = next
  · subst hnext
    rw [hinv, Option.some.injEq] at hother
    subst hother
    refine .event .skip ?_ fun _ => trivial
    obtain hworker | ⟨got, hworker⟩ := worker_of_still_running hrunning
    · simp only [Monitor.step, view, hpc, turn_of, hworker, Nat.lt_irrefl, if_false, if_true]
      exact congrArg some (by rw [← hworker]; rfl)
    · simp only [Monitor.step, view, hpc, turn_of, hworker, Nat.lt_irrefl, if_false, if_true]
      exact congrArg some (by rw [← hworker]; rfl)
  · apply Follows.stutter
    simp only [view, hpc, turn_of, hnext, if_false]
    rfl

variable [DecidableEq κ]

theorem worker_of_submit (hflight : SingleFlight d s) (task : Task) (name other : κ) (pc : Pc) :
    worker_of { s with
      tasks := s.tasks ++ [task]
      inflight := Function.update s.inflight name (some s.tasks.length)
      pc } other = if other = name then task.phase.worker else worker_of s other := by
  unfold worker_of
  dsimp only
  split_ifs with hname
  · rw [hname, Function.update_self, Option.bind_some, List.getElem?_concat_length]
  · rw [Function.update_of_ne hname]
    cases hlatest : s.inflight other with
    | none => rfl
    | some u =>
      obtain ⟨latest, -, hu, -, -⟩ := hflight.inflight other u hlatest
      have hlt : u < s.tasks.length := (List.getElem?_eq_some_iff.mp hu).1
      rw [Option.bind_some, Option.bind_some, List.getElem?_append_left hlt]

theorem futuresCurrent_step (hnames : DistinctNames d) (h : Consistent d s)
    (hstep : step d s a = some s') : FuturesCurrent d s' := by
  have hcurrent := h.current
  cases step_eq_some_iff.mp hstep with
  | begin | snapshot => exact nofun
  | all_submitted hpc | skip hpc | count_skip hpc =>
    unfold FuturesCurrent at hcurrent
    rw [hpc] at hcurrent
    exact hcurrent
  | collect hpc | collect_crashed hpc | timeout hpc =>
    unfold FuturesCurrent at hcurrent
    rw [hpc] at hcurrent
    exact fun idx t ht => hcurrent idx t (List.mem_cons_of_mem _ ht)
  | start | settle | finish | crash => exact hcurrent
  | @submit tier next futures inv hpc hinv hrunning =>
    intro idx t ht other hother
    dsimp only
    cases List.mem_append.mp ht with
    | inl hold =>
      have hreached := h.order.reached idx t
      have hlatest := hcurrent idx t
      rw [hpc] at hreached hlatest
      have hne : other.name ≠ inv.name := fun hname =>
        Nat.ne_of_lt (hreached hold) (hnames.eq_of_name_eq hother hinv hname)
      rw [Function.update_of_ne hne]
      exact hlatest hold other hother
    | inr hnew =>
      cases List.mem_singleton.mp hnew
      rw [hinv, Option.some.injEq] at hother
      rw [← hother, Function.update_self]

theorem consistent_step (hnames : DistinctNames d) (h : Consistent d s)
    (hstep : step d s a = some s') : Consistent d s' :=
  ⟨singleFlight_step h.flight hstep, cycleInOrder_step h.order hstep,
    futuresCurrent_step hnames h hstep⟩

theorem follows_submit (hnames : DistinctNames d) (h : Consistent d s)
    (hinv : d.inverters[i]? = some inv) {tier : BlockTier} {next : Nat}
    {futures : List (Nat × Nat)} {other : InverterCfg κ δ}
    (hpc : s.pc = .submitting tier next futures) (hother : d.inverters[next]? = some other)
    (hrunning : s.still_running (s.inflight other.name) = false) :
    Follows d i inv.name s a { s with
      tasks := s.tasks ++ [⟨next, tier, s.log.length, .queued⟩]
      inflight := Function.update s.inflight other.name (some s.tasks.length)
      pc := .submitting tier (next + 1) (futures ++ [(next, s.tasks.length)]) } := by
  by_cases hnext : i = next
  · subst hnext
    rw [hinv, Option.some.injEq] at hother
    subst hother
    obtain ⟨got, hworker⟩ := worker_of_not_still_running hrunning
    refine .event .ask ?_ fun _ => trivial
    rw [view, view, worker_of_submit h.flight, if_pos rfl]
    simp [Monitor.step, hpc, turn_of, hworker, Phase.worker]
  · have hne : inv.name ≠ other.name := fun hname => hnext (hnames.eq_of_name_eq hinv hother hname)
    have hlt : i < next + 1 ↔ i < next := by omega
    have hmem : i ∈ (futures ++ [(next, s.tasks.length)]).map Prod.fst ↔ i ∈ futures.map Prod.fst := by
      simp [hnext]
    apply Follows.stutter
    rw [view, view, worker_of_submit h.flight, if_neg hne]
    simp only [hpc, turn_of, hlt, hmem]

theorem follows_count_skip (hnames : DistinctNames d) (h : Consistent d s)
    (hinv : d.inverters[i]? = some inv) {tier : BlockTier} {next : Nat}
    {futures : List (Nat × Nat)} {other : InverterCfg κ δ}
    (hpc : s.pc = .skipping tier next futures) (hother : d.inverters[next]? = some other) :
    Follows d i inv.name s a { s with
      fail_count := Function.update s.fail_count other.name (s.fail_count other.name + 1)
      pc := .submitting tier (next + 1) futures } := by
  by_cases hnext : i = next
  · subst hnext
    rw [hinv, Option.some.injEq] at hother
    subst hother
    have hnot : i ∉ futures.map Prod.fst := by
      intro hmem
      obtain ⟨⟨idx, t⟩, ht, rfl⟩ := List.mem_map.mp hmem
      have hreached := h.order.reached idx t
      rw [hpc] at hreached
      exact Nat.lt_irrefl _ (hreached ht)
    refine .event .count_skip ?_ fun _ => trivial
    simp only [Monitor.step, view, hpc, turn_of, hnot, Nat.lt_irrefl, Nat.lt_succ_self, if_false,
      if_true, Function.update_self]
    rfl
  · have hne : inv.name ≠ other.name := fun hname => hnext (hnames.eq_of_name_eq hinv hother hname)
    have hlt : i < next + 1 ↔ i < next := by omega
    apply Follows.stutter
    simp only [view, hpc, turn_of, hlt, hnext, if_false, Function.update_of_ne hne]
    rfl

/-- The monitor of an inverter sees whether its own poll got a block. -/
theorem follows_settle (hnames : DistinctNames d) (h : Consistent d s)
    (hinv : d.inverters[i]? = some inv) {t : Nat} {sessions : Block → Nat → Session} {task : Task}
    {other : InverterCfg κ δ} (htask : s.tasks[t]? = some task) (hphase : task.phase = .running)
    (hother : d.inverters[task.pos]? = some other) :
    Follows d i inv.name s (.settle t sessions)
      { s.set_phase t task
          (.settled (poll_inverter other.slave d.retry_attempts task.tier sessions).out) with
        fail_count := Function.update s.fail_count other.name
          (if (poll_inverter other.slave d.retry_attempts task.tier sessions).any_success then 0
            else s.fail_count other.name + 1) } := by
  obtain ⟨hsuccess, -⟩ := poll_inverter_spec other.slave d.retry_attempts task.tier sessions
  by_cases hpos : task.pos = i
  · subst hpos
    rw [hinv, Option.some.injEq] at hother
    subst hother
    obtain ⟨hbefore, hafter⟩ := view_set_phase_self h
      (.settled (poll_inverter inv.slave d.retry_attempts task.tier sessions).out) htask
      (by rw [hphase]; rfl) hinv
    refine .event (.report (poll_inverter inv.slave d.retry_attempts task.tier sessions).any_success)
      ?_ fun hquiet => ?_
    · have hworker := congrArg Monitor.worker hafter
      simp only [view, Phase.worker, ← hsuccess] at hworker
      simp only [Monitor.step, view, hbefore, hphase, Phase.worker, Function.update_self]
      exact congrArg some (by rw [← hworker]; rfl)
    · rw [hquiet task inv htask rfl hinv]
      trivial
  · have hne : inv.name ≠ other.name := fun hname =>
      hpos (hnames.eq_of_name_eq hother hinv hname.symm)
    apply Follows.stutter
    rw [← view_set_phase_of_ne hnames h hinv
      (.settled (poll_inverter other.slave d.retry_attempts task.tier sessions).out) htask hpos]
    simp only [view, Function.update_of_ne hne]
    rfl

/-- The monitor of an inverter follows the daemon. -/
theorem follows_of_transition (hnames : DistinctNames d) (h : Consistent d s)
    (hinv : d.inverters[i]? = some inv) (htransition : Transition d s a s') :
    Follows d i inv.name s a s' := by
  have hlt : i < d.inverters.length := (List.getElem?_eq_some_iff.mp hinv).1
  cases htransition with
  | begin hpc => exact .stutter (by simp only [view, hpc, turn_of]; rfl)
  | @all_submitted tier next futures hpc hend =>
    have hnext : i < next := Nat.lt_of_lt_of_le hlt (List.getElem?_eq_none_iff.mp hend)
    have hempty : (List.replicate d.inverters.length PolledBlocks.empty).getD i .empty = .empty := by
      simp [List.getD_eq_getElem?_getD, hlt]
    apply Follows.stutter
    simp only [view, hpc, turn_of, hnext, if_true, hempty, got_block_empty]
    rfl
  | skip hpc hother hrunning => exact follows_skip hinv hpc hother hrunning
  | submit hpc hother hrunning => exact follows_submit hnames h hinv hpc hother hrunning
  | count_skip hpc hother => exact follows_count_skip hnames h hinv hpc hother
  | @collect tier idx t futures per_inverter task out hpc htask hphase =>
    refine .collect h hpc .collect trivial ?_
    rintro rfl
    have hlatest := h.current idx t (by rw [hpc]; exact List.mem_cons_self) inv hinv
    have hworker : worker_of s inv.name = .finished (got_block out) := by
      rw [worker_of_eq hlatest htask, hphase]
      rfl
    simp only [Monitor.step, view, hworker]
  | @collect_crashed tier idx t futures per_inverter task hpc htask hphase =>
    refine .collect h hpc .collect trivial ?_
    rintro rfl
    have hlatest := h.current idx t (by rw [hpc]; exact List.mem_cons_self) inv hinv
    have hworker : worker_of s inv.name = .finished false := by
      rw [worker_of_eq hlatest htask, hphase]
      rfl
    simp only [Monitor.step, view, hworker, got_block_empty]
  | @timeout tier idx t futures per_inverter hpc hrunning =>
    refine .collect h hpc .timeout trivial ?_
    rintro rfl
    have hlatest := h.current idx t (by rw [hpc]; exact List.mem_cons_self) inv hinv
    rw [← hlatest] at hrunning
    obtain hworker | ⟨got, hworker⟩ := worker_of_still_running hrunning
    · simp only [Monitor.step, view, hworker, got_block_empty]
    · simp only [Monitor.step, view, hworker, got_block_empty]
  | @snapshot tier per_inverter hpc =>
    refine .event .snapshot ?_ fun _ => trivial
    have hfails : (d.inverters.map fun inv => s.fail_count inv.name).getD i 0 =
        s.fail_count inv.name := by
      rw [List.getD_eq_getElem?_getD, List.getElem?_map, hinv]
      rfl
    simp only [Monitor.step, view, hpc, turn_of, List.map_nil, List.not_mem_nil, if_false, cycles_of,
      List.map_cons, hfails]
    rfl
  | @start t task hworker hfirst htask =>
    have hphase := phase_of_findIdx? hfirst htask
    apply Follows.stutter
    by_cases hpos : task.pos = i
    · subst hpos
      obtain ⟨hbefore, hafter⟩ := view_set_phase_self h .running htask (by rw [hphase]; rfl) hinv
      rw [hafter, Phase.worker, view, hbefore, hphase]
      rfl
    · exact view_set_phase_of_ne hnames h hinv .running htask hpos
  | settle htask hphase hother => exact follows_settle hnames h hinv htask hphase hother
  | @finish t task out htask hphase =>
    by_cases hpos : task.pos = i
    · subst hpos
      obtain ⟨hbefore, hafter⟩ := view_set_phase_self h (.done out) htask (by rw [hphase]; rfl) hinv
      refine .event .finish ?_ fun _ => trivial
      rw [hafter]
      simp only [Monitor.step, view, hbefore, hphase, Phase.worker]
    · exact .stutter (view_set_phase_of_ne hnames h hinv _ htask hpos)
  | @crash t task htask hphase =>
    by_cases hpos : task.pos = i
    · subst hpos
      obtain ⟨hbefore, hafter⟩ := view_set_phase_self h .crashed htask (by rw [hphase]; rfl) hinv
      refine .event .crash ?_ fun hquiet => hquiet task htask rfl
      rw [hafter]
      simp only [Monitor.step, view, hbefore, hphase, Phase.worker]
    · exact .stutter (view_set_phase_of_ne hnames h hinv _ htask hpos)

end inverter_bridge.daemon
