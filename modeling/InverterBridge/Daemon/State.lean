import InverterBridge.Config
import InverterBridge.Daemon.Poll
import InverterBridge.Lib.TransitionSystem

open Python
open inverter_bridge.config inverter_bridge.srne_map inverter_bridge.aggregator

namespace inverter_bridge.daemon

variable {κ δ : Type} [DecidableEq κ]

/-- The part of the configuration the poll loop works with. Names are dict keys. -/
structure Daemon (κ δ : Type) where
  inverters : List (InverterCfg κ δ)
  retry_attempts : Int

/-- `self.ports`: of two inverters with one name, the later one's port is kept. -/
def Daemon.ports (d : Daemon κ δ) : Dict κ δ :=
  Dict.assign ∅ (d.inverters.map fun inv => (inv.name, inv.port))

/-- The size of the executor. -/
def Daemon.max_workers (d : Daemon κ δ) : Nat := max 1 d.inverters.length

/-- `Daemon.__init__`: the names have to be hashable. -/
def Daemon.of_config (cfg : BridgeConfig) : Except PyError (Daemon Scalar PyValue) := do
  let inverters ← cfg.inverters.mapM fun inv => do
    return { name := ← inv.name.hash_key, port := inv.port, slave := inv.slave }
  return { inverters, retry_attempts := cfg.polling.retry_attempts }

/-- The life of a submitted poll. A poll that has updated the fail count is
`settled`; its future is done only a moment later. -/
inductive Phase where
  | queued
  | running
  | settled (out : PolledBlocks)
  | done (out : PolledBlocks)
  | crashed

/-- `fut.done()`. -/
def Phase.finished : Phase → Bool
  | .done _ | .crashed => true
  | _ => false

def Phase.is_queued : Phase → Bool
  | .queued => true
  | _ => false

/-- The poll occupies a worker of the executor. -/
def Phase.busy : Phase → Bool
  | .running | .settled _ => true
  | _ => false

/-- A poll handed to the executor: the position of its inverter, its tier and the
number of the cycle that submitted it. -/
structure Task where
  pos : Nat
  tier : BlockTier
  cycle : Nat
  phase : Phase

/-- A finished cycle: what it returns and the fail counts of its status snapshot. -/
structure Cycle where
  tier : BlockTier
  per_inverter : List PolledBlocks
  fails_snapshot : List Nat

/-- The status published for an inverter. -/
def status (fails : Nat) : String := if 3 ≤ fails then "offline" else "online"

/-- Where the main thread stands in `_poll_all_parallel`. A future is the position
of its inverter and the number of its task. -/
inductive Pc where
  | idle
  | submitting (tier : BlockTier) (next : Nat) (futures : List (Nat × Nat))
  | skipping (tier : BlockTier) (next : Nat) (futures : List (Nat × Nat))
  | collecting (tier : BlockTier) (futures : List (Nat × Nat)) (per_inverter : List PolledBlocks)

/-- The daemon's state. The log holds the finished cycles, the newest first. -/
structure State (κ : Type) where
  fail_count : κ → Nat
  inflight : κ → Option Nat
  tasks : List Task
  pc : Pc
  log : List Cycle

/-- The state `Daemon.__init__` leaves. -/
def init : State κ := ⟨fun _ => 0, fun _ => none, [], .idle, []⟩

/-- `prev is not None and not prev.done()`. -/
def State.still_running (s : State κ) (prev : Option Nat) : Bool :=
  match prev.bind fun t => s.tasks[t]? with
  | some task => !task.phase.finished
  | none => false

def State.set_phase (s : State κ) (t : Nat) (task : Task) (phase : Phase) : State κ :=
  { s with tasks := s.tasks.set t { task with phase } }

/-- The steps of the main thread (the first six) and of the executor's threads. -/
inductive Action where
  | begin (tier : BlockTier)
  | submit
  | count_skip
  | collect
  | timeout
  | snapshot
  | start (t : Nat)
  | settle (t : Nat) (sessions : Block → Nat → Session)
  | finish (t : Nat)
  | crash (t : Nat)

/-- One step of the main thread in `_poll_all_parallel`, or of a worker. The skip
guard and its increment are two steps, and so are a worker's increment and the end
of its future, since the other threads may run between them. -/
def step (d : Daemon κ δ) (s : State κ) : Action → Option (State κ)
  | .begin tier =>
    match s.pc with
    | .idle => some { s with pc := .submitting tier 0 [] }
    | _ => none
  | .submit =>
    match s.pc with
    | .submitting tier next futures =>
      match d.inverters[next]? with
      | none =>
        some { s with
          pc := .collecting tier futures (List.replicate d.inverters.length .empty) }
      | some inv =>
        if s.still_running (s.inflight inv.name) then
          some { s with pc := .skipping tier next futures }
        else
          some { s with
            tasks := s.tasks ++ [⟨next, tier, s.log.length, .queued⟩]
            inflight := Function.update s.inflight inv.name (some s.tasks.length)
            pc := .submitting tier (next + 1) (futures ++ [(next, s.tasks.length)]) }
    | _ => none
  | .count_skip =>
    match s.pc with
    | .skipping tier next futures =>
      match d.inverters[next]? with
      | none => none
      | some inv =>
        some { s with
          fail_count := Function.update s.fail_count inv.name (s.fail_count inv.name + 1)
          pc := .submitting tier (next + 1) futures }
    | _ => none
  | .collect =>
    match s.pc with
    | .collecting tier ((idx, t) :: futures) per_inverter =>
      match s.tasks[t]?.map Task.phase with
      | some (.done out) =>
        some { s with pc := .collecting tier futures (per_inverter.set idx out) }
      -- the exception of a crashed worker is logged, not counted
      | some .crashed =>
        some { s with pc := .collecting tier futures (per_inverter.set idx .empty) }
      | _ => none
    | _ => none
  | .timeout =>
    match s.pc with
    | .collecting tier ((idx, t) :: futures) per_inverter =>
      if s.still_running (some t) then
        -- not counted here either: the worker counts when it settles
        some { s with pc := .collecting tier futures (per_inverter.set idx .empty) }
      else none
    | _ => none
  | .snapshot =>
    match s.pc with
    | .collecting tier [] per_inverter =>
      some { s with
        pc := .idle
        log := ⟨tier, per_inverter, d.inverters.map fun inv => s.fail_count inv.name⟩ :: s.log }
    | _ => none
  | .start t =>
    if s.tasks.countP (fun task => task.phase.busy) < d.max_workers then
      if s.tasks.findIdx? (fun task => task.phase.is_queued) = some t then
        s.tasks[t]?.map fun task => s.set_phase t task .running
      else none
    else none
  | .settle t sessions =>
    match s.tasks[t]? with
    | none => none
    | some task =>
      match task.phase, d.inverters[task.pos]? with
      | .running, some inv =>
        let run := poll_inverter inv.slave d.retry_attempts task.tier sessions
        let fails := if run.any_success then 0 else s.fail_count inv.name + 1
        some { s.set_phase t task (.settled run.out) with
          fail_count := Function.update s.fail_count inv.name fails }
      | _, _ => none
  | .finish t =>
    match s.tasks[t]? with
    | none => none
    | some task =>
      match task.phase with
      | .settled out => some (s.set_phase t task (.done out))
      | _ => none
  | .crash t =>
    match s.tasks[t]? with
    | none => none
    | some task =>
      match task.phase with
      | .running => some (s.set_phase t task .crashed)
      | _ => none

end inverter_bridge.daemon
