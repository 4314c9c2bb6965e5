import InverterBridge.Daemon.State

open inverter_bridge.config inverter_bridge.srne_map inverter_bridge.aggregator

namespace inverter_bridge.daemon

variable {κ δ : Type} [DecidableEq κ]

/-- The steps, one constructor for each way the code can go. -/
inductive Transition (d : Daemon κ δ) (s : State κ) : Action → State κ → Prop where
  | begin {tier : BlockTier} (hpc : s.pc = .idle) :
    Transition d s (.begin tier) { s with pc := .submitting tier 0 [] }
  | all_submitted {tier : BlockTier} {next : Nat} {futures : List (Nat × Nat)}
    (hpc : s.pc = .submitting tier next futures) (hend : d.inverters[next]? = none) :
    Transition d s .submit { s with
      pc := .collecting tier futures (List.replicate d.inverters.length .empty) }
  | skip {tier : BlockTier} {next : Nat} {futures : List (Nat × Nat)} {inv : InverterCfg κ δ}
    (hpc : s.pc = .submitting tier next futures) (hinv : d.inverters[next]? = some inv)
    (hrunning : s.still_running (s.inflight inv.name) = true) :
    Transition d s .submit { s with pc := .skipping tier next futures }
  | submit {tier : BlockTier} {next : Nat} {futures : List (Nat × Nat)} {inv : InverterCfg κ δ}
    (hpc : s.pc = .submitting tier next futures) (hinv : d.inverters[next]? = some inv)
    (hrunning : s.still_running (s.inflight inv.name) = false) :
    Transition d s .submit { s with
      tasks := s.tasks ++ [⟨next, tier, s.log.length, .queued⟩]
      inflight := Function.update s.inflight inv.name (some s.tasks.length)
      pc := .submitting tier (next + 1) (futures ++ [(next, s.tasks.length)]) }
  | count_skip {tier : BlockTier} {next : Nat} {futures : List (Nat × Nat)} {inv : InverterCfg κ δ}
    (hpc : s.pc = .skipping tier next futures) (hinv : d.inverters[next]? = some inv) :
    Transition d s .count_skip { s with
      fail_count := Function.update s.fail_count inv.name (s.fail_count inv.name + 1)
      pc := .submitting tier (next + 1) futures }
  | collect {tier : BlockTier} {idx t : Nat} {futures : List (Nat × Nat)}
    {per_inverter : List PolledBlocks} {task : Task} {out : PolledBlocks}
    (hpc : s.pc = .collecting tier ((idx, t) :: futures) per_inverter)
    (htask : s.tasks[t]? = some task) (hphase : task.phase = .done out) :
    Transition d s .collect { s with pc := .collecting tier futures (per_inverter.set idx out) }
  | collect_crashed {tier : BlockTier} {idx t : Nat} {futures : List (Nat × Nat)}
    {per_inverter : List PolledBlocks} {task : Task}
    (hpc : s.pc = .collecting tier ((idx, t) :: futures) per_inverter)
    (htask : s.tasks[t]? = some task) (hphase : task.phase = .crashed) :
    Transition d s .collect { s with pc := .collecting tier futures (per_inverter.set idx .empty) }
  | timeout {tier : BlockTier} {idx t : Nat} {futures : List (Nat × Nat)}
    {per_inverter : List PolledBlocks}
    (hpc : s.pc = .collecting tier ((idx, t) :: futures) per_inverter)
    (hrunning : s.still_running (some t) = true) :
    Transition d s .timeout { s with pc := .collecting tier futures (per_inverter.set idx .empty) }
  | snapshot {tier : BlockTier} {per_inverter : List PolledBlocks}
    (hpc : s.pc = .collecting tier [] per_inverter) :
    Transition d s .snapshot { s with
      pc := .idle
      log := ⟨tier, per_inverter, d.inverters.map fun inv => s.fail_count inv.name⟩ :: s.log }
  | start {t : Nat} {task : Task}
    (hworker : s.tasks.countP (fun task => task.phase.busy) < d.max_workers)
    (hfirst : s.tasks.findIdx? (fun task => task.phase.is_queued) = some t)
    (htask : s.tasks[t]? = some task) :
    Transition d s (.start t) (s.set_phase t task .running)
  | settle {t : Nat} {sessions : Block → Nat → Session} {task : Task} {inv : InverterCfg κ δ}
    (htask : s.tasks[t]? = some task) (hphase : task.phase = .running)
    (hinv : d.inverters[task.pos]? = some inv) :
    Transition d s (.settle t sessions)
      { s.set_phase t task
          (.settled (poll_inverter inv.slave d.retry_attempts task.tier sessions).out) with
        fail_count := Function.update s.fail_count inv.name
          (if (poll_inverter inv.slave d.retry_attempts task.tier sessions).any_success then 0
            else s.fail_count inv.name + 1) }
  | finish {t : Nat} {task : Task} {out : PolledBlocks}
    (htask : s.tasks[t]? = some task) (hphase : task.phase = .settled out) :
    Transition d s (.finish t) (s.set_phase t task (.done out))
  | crash {t : Nat} {task : Task}
    (htask : s.tasks[t]? = some task) (hphase : task.phase = .running) :
    Transition d s (.crash t) (s.set_phase t task .crashed)

section

variable {d : Daemon κ δ} {s s' : State κ} {a : Action}

theorem transition_of_step (hstep : step d s a = some s') : Transition d s a s' := by
  cases a with
  | begin tier =>
    simp only [step] at hstep
    split at hstep
    case h_1 hpc =>
      rw [Option.some.injEq] at hstep
      exact hstep ▸ .begin hpc
    case h_2 => cases hstep
  | submit =>
    simp only [step] at hstep
    split at hstep
    case h_2 => cases hstep
    case h_1 hpc =>
      split at hstep
      case h_1 hend =>
        rw [Option.some.injEq] at hstep
        exact hstep ▸ .all_submitted hpc hend
      case h_2 inv hinv =>
        split_ifs at hstep with hrunning
        · rw [Option.some.injEq] at hstep
          exact hstep ▸ .skip hpc hinv hrunning
        · rw [Option.some.injEq] at hstep
          exact hstep ▸ .submit hpc hinv (Bool.eq_false_of_not_eq_true hrunning)
  | count_skip =>
    simp only [step] at hstep
    split at hstep
    case h_2 => cases hstep
    case h_1 hpc =>
      split at hstep
      case h_1 => cases hstep
      case h_2 inv hinv =>
        rw [Option.some.injEq] at hstep
        exact hstep ▸ .count_skip hpc hinv
  | collect =>
    simp only [step] at hstep
    split at hstep
    case h_2 => cases hstep
    case h_1 hpc =>
      split at hstep
      case h_1 hphase =>
        obtain ⟨task, htask, hdone⟩ := Option.map_eq_some_iff.mp hphase
        rw [Option.some.injEq] at hstep
        exact hstep ▸ .collect hpc htask hdone
      case h_2 hphase =>
        obtain ⟨task, htask, hcrashed⟩ := Option.map_eq_some_iff.mp hphase
        rw [Option.some.injEq] at hstep
        exact hstep ▸ .collect_crashed hpc htask hcrashed
      case h_3 => cases hstep
  | timeout =>
    simp only [step] at hstep
    split at hstep
    case h_2 => cases hstep
    case h_1 hpc =>
      split_ifs at hstep with hrunning
      rw [Option.some.injEq] at hstep
      exact hstep ▸ .timeout hpc hrunning
  | snapshot =>
    simp only [step] at hstep
    split at hstep
    case h_2 => cases hstep
    case h_1 hpc =>
      rw [Option.some.injEq] at hstep
      exact hstep ▸ .snapshot hpc
  | start t =>
    simp only [step] at hstep
    split_ifs at hstep with hworker hfirst
    obtain ⟨task, htask, rfl⟩ := Option.map_eq_some_iff.mp hstep
    exact .start hworker hfirst htask
  | settle t sessions =>
    simp only [step] at hstep
    split at hstep
    case h_1 => cases hstep
    case h_2 task htask =>
      split at hstep
      case h_2 => cases hstep
      case h_1 inv hphase hinv =>
        rw [Option.some.injEq] at hstep
        exact hstep ▸ .settle htask hphase hinv
  | finish t =>
    simp only [step] at hstep
    split at hstep
    case h_1 => cases hstep
    case h_2 task htask =>
      split at hstep
      case h_2 => cases hstep
      case h_1 out hphase =>
        rw [Option.some.injEq] at hstep
        exact hstep ▸ .finish htask hphase
  | crash t =>
    simp only [step] at hstep
    split at hstep
    case h_1 => cases hstep
    case h_2 task htask =>
      split at hstep
      case h_2 => cases hstep
      case h_1 hphase =>
        rw [Option.some.injEq] at hstep
        exact hstep ▸ .crash htask hphase

theorem step_of_transition (htransition : Transition d s a s') : step d s a = some s' := by
  cases htransition with
  | begin hpc => simp [step, hpc]
  | all_submitted hpc hend => simp [step, hpc, hend]
  | skip hpc hinv hrunning => simp [step, hpc, hinv, hrunning]
  | submit hpc hinv hrunning => simp [step, hpc, hinv, hrunning]
  | count_skip hpc hinv => simp [step, hpc, hinv]
  | collect hpc htask hphase => simp [step, hpc, htask, hphase]
  | collect_crashed hpc htask hphase => simp [step, hpc, htask, hphase]
  | timeout hpc hrunning => simp [step, hpc, hrunning]
  | snapshot hpc => simp [step, hpc]
  | start hworker hfirst htask => simp [step, hworker, hfirst, htask]
  | settle htask hphase hinv => simp [step, htask, hphase, hinv]
  | finish htask hphase => simp [step, htask, hphase]
  | crash htask hphase => simp [step, htask, hphase]

/-- The transitions are exactly the steps of the step function. -/
theorem step_eq_some_iff : step d s a = some s' ↔ Transition d s a s' :=
  ⟨transition_of_step, step_of_transition⟩

end

end inverter_bridge.daemon
