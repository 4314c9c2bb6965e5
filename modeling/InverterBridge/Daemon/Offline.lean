import InverterBridge.Daemon.Refinement

open TransitionSystem
open inverter_bridge.config inverter_bridge.srne_map inverter_bridge.aggregator

namespace inverter_bridge.daemon

/-- The inverter at position `i` contributed a block to the cycle. -/
def contributed (i : Nat) (cycle : Cycle) : Bool := got_block (cycle.per_inverter.getD i .empty)

/-- The number of cycles in a row, the newest first, without a block of position `i`. -/
def silent_run (i : Nat) (log : List Cycle) : Nat :=
  (log.takeWhile fun cycle => !contributed i cycle).length

theorem cycles_of_cons (i : Nat) (cycle : Cycle) (older : List Cycle) :
    cycles_of i (cycle :: older) =
      (contributed i cycle, cycle.fails_snapshot.getD i 0) :: cycles_of i older := rfl

theorem silent_run_cycles_of (i : Nat) (log : List Cycle) :
    Monitor.silent_run (cycles_of i log) = silent_run i log := by
  induction log with
  | nil => rfl
  | cons cycle older ih =>
    rw [cycles_of_cons, silent_run, List.takeWhile_cons]
    cases contributed i cycle with
    | true => rfl
    | false =>
      rw [Monitor.silent_run, ih]
      rfl

/-- A poll that the executor has not come to, or not brought to its count. -/
def Phase.unreported : Phase → Bool
  | .queued | .running => true
  | _ => false

section

variable {κ δ : Type} {d : Daemon κ δ} {s s' : State κ} {i : Nat} {inv : InverterCfg κ δ}
  {acts : List Action}

/-- A poll still owed to the counter is queued or running. -/
theorem owed_le_of_reported (hnames : DistinctNames d) (h : Consistent d s)
    (hinv : d.inverters[i]? = some inv) :
    (worker_of s inv.name).owed ≤ 1 ∧
      ((∀ task ∈ s.tasks, task.pos = i → task.phase.unreported = false) →
        (worker_of s inv.name).owed = 0) := by
  unfold worker_of
  cases hlatest : s.inflight inv.name with
  | none => exact ⟨Nat.zero_le 1, fun _ => rfl⟩
  | some t =>
    obtain ⟨task, inv', htask, hinv', hname⟩ := h.flight.inflight inv.name t hlatest
    have hpos : task.pos = i := hnames.eq_of_name_eq hinv' hinv hname
    simp only [Option.bind_some, htask]
    refine ⟨by cases task.phase <;> simp [Phase.worker, Worker.owed], fun hreported => ?_⟩
    have hphase := hreported task (List.mem_of_getElem? htask) hpos
    cases hcase : task.phase with
    | queued | running => simp [hcase, Phase.unreported] at hphase
    | settled out | done out | crashed => rfl

variable [DecidableEq κ]

theorem consistent_of_reachable (hnames : DistinctNames d) (hreach : Reachable (step d) init s) :
    Consistent d s :=
  hreach.invariant consistent_init fun _ _ _ h hstep => consistent_step hnames h hstep

/-- The monitor of an inverter follows every run of the daemon. -/
theorem reachable_view (hnames : DistinctNames d) (hinv : d.inverters[i]? = some inv)
    (hreach : Reachable (step d) init s) :
    Reachable Monitor.step Monitor.init (view i inv.name s) := by
  obtain ⟨acts, hrun⟩ := hreach
  have halong : Along (step d) (fun _ _ => True) init acts := along_of_forall fun _ _ _ => trivial
  have hview : ∃ es, run Monitor.step (view i inv.name init) es = some (view i inv.name s) ∧
      ∀ e ∈ es, (fun _ => True) e := by
    refine run_simulates (I := Consistent d)
      (fun _ _ _ h hstep => consistent_step hnames h hstep) ?_ consistent_init halong hrun
    intro s a s' h _ hstep
    obtain ⟨es, hes, -⟩ := follows_of_transition hnames h hinv (step_eq_some_iff.mp hstep)
    exact ⟨es, hes, fun _ _ => trivial⟩
  obtain ⟨es, hes, -⟩ := hview
  exact ⟨es, hes⟩

/-- It takes quiet steps only while the daemon does. -/
theorem quiet_view (hnames : DistinctNames d) (hinv : d.inverters[i]? = some inv)
    (hconsistent : Consistent d s) (hquiet : Along (step d) (QuietFor d i) s acts)
    (hrun : run (step d) s acts = some s') :
    ∃ es, run Monitor.step (view i inv.name s) es = some (view i inv.name s') ∧
      ∀ e ∈ es, Monitor.Quiet e := by
  refine run_simulates (I := Consistent d)
    (fun _ _ _ h hstep => consistent_step hnames h hstep) ?_ hconsistent hquiet hrun
  intro s a s' h hallowed hstep
  obtain ⟨es, hes, hevents⟩ := follows_of_transition hnames h hinv (step_eq_some_iff.mp hstep)
  exact ⟨es, hes, hevents hallowed⟩

/-- At every status snapshot the fail count of an inverter is at most the number of
cycles in a row, up to that one, in which it contributed no block; so it is not
called offline before the third of them. -/
theorem fail_count_le_silent_run (hnames : DistinctNames d) (hreach : Reachable (step d) init s)
    (hinv : d.inverters[i]? = some inv) {cycle : Cycle} {older : List Cycle}
    (hcycle : cycle :: older <:+ s.log) {fails : Nat}
    (hfails : cycle.fails_snapshot[i]? = some fails) :
    fails ≤ silent_run i (cycle :: older) ∧
      (status fails = "offline" → 3 ≤ silent_run i (cycle :: older)) := by
  have hbound : fails ≤ silent_run i (cycle :: older) := by
    have hsuffix : cycles_of i (cycle :: older) <:+ cycles_of i s.log := hcycle.map _
    rw [cycles_of_cons] at hsuffix
    have hview := Monitor.fails_le_silent_run (reachable_view hnames hinv hreach) hsuffix
    rw [← cycles_of_cons, silent_run_cycles_of, List.getD_eq_getElem?_getD, hfails] at hview
    exact hview
  refine ⟨hbound, fun hoffline => ?_⟩
  unfold status at hoffline
  split_ifs at hoffline with hthree
  · exact Nat.le_trans hthree hbound
  · exact absurd hoffline (by decide)

/-- Take consecutive cycles, from an idle daemon to a status snapshot, in which no
poll of an inverter gets a block, in time or late, and none of its workers crashes.
With four of them the inverter is offline at the snapshot; with three it is too,
unless one of its polls is still to be counted. -/
theorem offline_after_quiet_cycles (hnames : DistinctNames d) (hinv : d.inverters[i]? = some inv)
    (hreach : Reachable (step d) init s) (hidle : s.pc = .idle)
    (hquiet : Along (step d) (QuietFor d i) s (acts ++ [.snapshot]))
    (hrun : run (step d) s (acts ++ [.snapshot]) = some s')
    (hcycles : s.log.length + 4 ≤ s'.log.length ∨ s.log.length + 3 ≤ s'.log.length ∧
      ∀ task ∈ s'.tasks, task.pos = i → task.phase.unreported = false) :
    ∃ cycle older fails, s'.log = cycle :: older ∧ cycle.fails_snapshot[i]? = some fails ∧
      status fails = "offline" := by
  have hconsistent := consistent_of_reachable hnames hreach
  have hconsistent' := consistent_of_reachable hnames (hreach.run hrun)
  have hwaiting : (view i inv.name s).turn = .waiting := by rw [view, hidle, turn_of]
  obtain ⟨es, hes, hevents⟩ := quiet_view hnames hinv hconsistent hquiet hrun
  have hkeeps := Monitor.cycles_le_fails hwaiting hevents hes
  simp only [view, cycles_of, List.length_map] at hkeeps
  obtain ⟨howed, hreported⟩ := owed_le_of_reported hnames hconsistent' hinv
  have hfails : 3 ≤ s'.fail_count inv.name := by
    obtain hfour | ⟨hthree, hdone⟩ := hcycles
    · omega
    · have hzero := hreported hdone
      omega
  obtain ⟨mid, -, hsnapshot⟩ : ∃ mid, run (step d) s acts = some mid ∧
      step d mid .snapshot = some s' := by
    rw [run_append, Option.bind_eq_some_iff] at hrun
    obtain ⟨mid, hmid, hlast⟩ := hrun
    obtain ⟨last, hstep, hnil⟩ := run_cons_eq_some_iff.mp hlast
    rw [run_nil] at hnil
    exact ⟨mid, hmid, hstep.trans hnil⟩
  cases step_eq_some_iff.mp hsnapshot with
  | snapshot hpc =>
    refine ⟨_, _, mid.fail_count inv.name, rfl, ?_, if_pos hfails⟩
    rw [List.getElem?_map, hinv]
    rfl

end

/-- A daemon with one inverter. -/
def one_inverter : Daemon String String :=
  ⟨[⟨"inv1", "/dev/ttyUSB0", ⟨1, modbus.slave_1_admitted⟩⟩], 3⟩

/-- A cycle in which every query times out. -/
def timed_out_cycle : List Action :=
  [.begin .HOT, .submit, .submit, .start 0, .settle 0 fun _ _ => .raised true, .finish 0, .collect,
    .snapshot]

/-- A cycle whose poll is wedged, and a later one that finds it still running. -/
def wedging_cycle : List Action := [.begin .HOT, .submit, .submit, .start 0, .timeout, .snapshot]

def skipped_cycle : List Action := [.begin .HOT, .submit, .count_skip, .submit, .snapshot]

theorem fail_count_le_silent_run_timed_out :
    ∃ s cycle, run (step one_inverter) init timed_out_cycle = some s ∧ s.log = [cycle] ∧
      cycle.fails_snapshot = [1] ∧ 1 ≤ silent_run 0 [cycle] ∧
      (status 1 = "offline" → 3 ≤ silent_run 0 [cycle]) := by
  obtain ⟨s, hs⟩ : ∃ s, run (step one_inverter) init timed_out_cycle = some s := ⟨_, rfl⟩
  have hlog : ∃ cycle, s.log = [cycle] ∧ cycle.fails_snapshot = [1] := by
    cases hs
    exact ⟨_, rfl, rfl⟩
  obtain ⟨cycle, hcycle, hfails⟩ := hlog
  refine ⟨s, cycle, hs, hcycle, hfails, ?_⟩
  exact fail_count_le_silent_run (d := one_inverter) (i := 0) (by decide) ⟨timed_out_cycle, hs⟩ rfl
    (hcycle ▸ List.suffix_refl _) (by rw [hfails]; rfl)

/-- A wedged poll is not counted in the cycle that times out, so the third cycle
without a block still says online. -/
theorem wedged_poll_online_on_third_cycle :
    ¬ ∀ d : Daemon String String, DistinctNames d → ∀ s, Reachable (step d) init s →
      ∀ i inv cycle older fails, d.inverters[i]? = some inv → cycle :: older <:+ s.log →
        cycle.fails_snapshot[i]? = some fails → 3 ≤ silent_run i (cycle :: older) →
        status fails = "offline" := by
  intro hall
  obtain ⟨s, hs⟩ : ∃ s, run (step one_inverter) init
      (wedging_cycle ++ skipped_cycle ++ skipped_cycle) = some s := ⟨_, rfl⟩
  have hlog : ∃ third second first, s.log = [third, second, first] ∧ third.fails_snapshot = [2] ∧
      silent_run 0 [third, second, first] = 3 := by
    cases hs
    exact ⟨_, _, _, rfl, rfl, rfl⟩
  obtain ⟨third, second, first, hlog, hfails, hsilent⟩ := hlog
  have hoffline := hall one_inverter (by decide) s ⟨_, hs⟩ 0 _ third [second, first] 2 rfl
    (hlog ▸ List.suffix_refl _) (by rw [hfails]; rfl) (Nat.le_of_eq hsilent.symm)
  revert hoffline
  decide

theorem offline_after_quiet_cycles_wedged :
    ∃ s, run (step one_inverter) init (wedging_cycle ++ skipped_cycle ++ skipped_cycle ++
        [.begin .HOT, .submit, .count_skip, .submit] ++ [.snapshot]) = some s ∧
      ∃ cycle older fails, s.log = cycle :: older ∧ cycle.fails_snapshot[0]? = some fails ∧
        status fails = "offline" := by
  obtain ⟨s, hs⟩ : ∃ s, run (step one_inverter) init (wedging_cycle ++ skipped_cycle ++
      skipped_cycle ++ [.begin .HOT, .submit, .count_skip, .submit] ++ [.snapshot]) = some s :=
    ⟨_, rfl⟩
  refine ⟨s, hs, ?_⟩
  apply offline_after_quiet_cycles (d := one_inverter) (i := 0) (by decide) rfl .refl rfl ?_ hs
  · left
    cases hs
    exact Nat.le_refl _
  · apply along_of_forall
    simp [wedging_cycle, skipped_cycle, QuietFor]

end inverter_bridge.daemon
