import InverterBridge.Aggregator.Aggregate
import InverterBridge.Daemon.State
import InverterBridge.EnergyIntegrator.Update

open Python
open inverter_bridge.srne_map inverter_bridge.aggregator inverter_bridge.energy_integrator

namespace inverter_bridge.daemon

/-- An exception: a built-in one, or one of a library's own. -/
inductive Raised where
  | builtin (e : PyError)
  | library

/-- What `_poll_all_parallel` comes to with `N` inverters: the blocks and fail counts in
their order, and the JSON text of the durations. -/
structure PollResult (N : Nat) where
  per_inverter : List Blocks
  fails_snapshot : List Nat
  durations_json : String
  length_per_inverter : per_inverter.length = N
  length_fails_snapshot : fails_snapshot.length = N

/-- What the outside gives to the main thread: the readings of the clock, in order; what
each poll comes to; which calls of the MQTT client raise; and the CRC failures counted
when they are read. -/
structure World (N : Nat) where
  monotonic : Nat → ℚ
  poll : Nat → BlockTier → Except Raised (PollResult N)
  publish : Nat → Option Raised
  crc_fails_total : Nat → Nat

/-- What the main thread does. `recorded` is the assignment to `_last_hot_cycle_monotonic`;
an availability message counts as a call of the client only. -/
inductive Event where
  | published (key : String) (value : Scalar)
  | updated (aggregated : Dict String Scalar) (elapsed_s : ℚ)
  | recorded (now : ℚ)
  | saved

/-- The state of the main thread, with the events so far. -/
structure LoopState where
  integrator : EnergyIntegrator
  last_hot_cycle_monotonic : Option ℚ
  last_cold : ℚ
  monotonic_reads : Nat
  polls : Nat
  client_calls : Nat
  trace : List Event

/-- The state `Daemon.__init__` leaves. -/
def LoopState.start (integrator : EnergyIntegrator) : LoopState := ⟨integrator, none, 0, 0, 0, 0, []⟩

/-- Code of the main thread: an exception leaves the state as it is at that point. -/
abbrev Program := ExceptT Raised (StateM LoopState)

/-- What may raise a built-in exception. -/
def builtin {α : Type} : Except PyError α → Program α
  | .ok a => pure a
  | .error e => throw (.builtin e)

/-- The settings and the start-up time the loop reads. -/
structure MainLoop where
  cold_interval_s : PyFloat
  meta_start : ℚ

/-- A value as the integrator and the MQTT client get it. -/
def scalar_of : Value → Scalar
  | .num x => .float (.finite x)
  | .text s => .str s

/-- The aggregated dict. -/
def readings (out : Out) : Dict String Scalar :=
  Dict.assign ∅ (out.entries.map fun entry => (entry.1, scalar_of entry.2))

/-- `x >= y`. -/
def at_least (x : ℚ) : PyFloat → Bool
  | .finite y => y ≤ x
  | .neg_inf => true
  | _ => false

section

variable {N : Nat} (w : World N)

/-- `time.monotonic()`. -/
def monotonic : Program ℚ := do
  let s ← get
  set { s with monotonic_reads := s.monotonic_reads + 1 }
  return w.monotonic s.monotonic_reads

/-- `self._client.publish(...)`. -/
def client_publish : Program Unit := do
  let s ← get
  set { s with client_calls := s.client_calls + 1 }
  match w.publish s.client_calls with
  | some e => throw e
  | none => pure ()

/-- `self.publisher.publish_value(sensor_key, value)`. -/
def publish_value (sensor_key : String) (value : Scalar) : Program Unit := do
  modify fun s => { s with trace := s.trace ++ [.published sensor_key value] }
  client_publish w

/-- `self.publisher.publish_values(kv)`. -/
def publish_values (kv : List (String × Scalar)) : Program Unit := do
  for entry in kv do
    publish_value w entry.1 entry.2

/-- `self._poll_all_parallel(tier)`: the poll, and the status of every inverter. -/
def poll_all_parallel (tier : BlockTier) : Program (PollResult N) := do
  let s ← get
  set { s with polls := s.polls + 1 }
  match w.poll s.polls tier with
  | .error e => throw e
  | .ok result =>
    for entry in result.fails_snapshot.zipIdx 1 do
      publish_value w (inverter_key entry.2 "status") (.str (status entry.1))
    return result

/-- `self.integrator.update(aggregated, elapsed_s)`. -/
def integrator_update (aggregated : Dict String Scalar) (elapsed_s : ℚ) : Program Snapshot := do
  modify fun s => { s with trace := s.trace ++ [.updated aggregated elapsed_s] }
  let s ← get
  let (integrator, snapshot) ← builtin (s.integrator.update aggregated (.finite elapsed_s))
  set { s with integrator }
  return snapshot

/-- `save_energy_state()`: whatever saving raises is logged. -/
def save_energy_state : Program Unit :=
  modify fun s => { s with trace := s.trace ++ [.saved] }

/-- `elapsed_s` of a hot cycle that reads the time `now`. -/
def elapsed_since (last_hot_cycle_monotonic : Option ℚ) (now : ℚ) : ℚ :=
  match last_hot_cycle_monotonic with
  | none => 0
  | some last => max 0 (now - last)

/-- The integration in a hot cycle, from reading the time to recording it. -/
def integrate (aggregated : Dict String Scalar) : Program (Dict String Scalar) := do
  let now ← monotonic w
  let s ← get
  let elapsed_s := elapsed_since s.last_hot_cycle_monotonic now
  let energy_values ← integrator_update aggregated elapsed_s
  modify fun s => { s with
    last_hot_cycle_monotonic := some now
    trace := s.trace ++ [.recorded now] }
  return Dict.assign aggregated (energy_values.map fun entry => (entry.1, .float entry.2))

/-- The meta sensors at the end of a hot cycle. -/
def MainLoop.publish_meta (self : MainLoop) (cycle_start : ℚ) (durations_json : String) :
    Program Unit := do
  let now ← monotonic w
  let elapsed_ms := py_round ((now - cycle_start) * 1000) 1
  publish_value w "_meta/poll_duration_ms" (.float (.finite elapsed_ms))
  publish_value w "_meta/poll_duration_per_inverter_ms" (.str durations_json)
  let s ← get
  publish_value w "_meta/crc_fails_total" (.int (w.crc_fails_total s.polls))
  let now ← monotonic w
  publish_value w "_meta/uptime_s" (.float (.finite (py_round (now - self.meta_start) 1)))

/-- `run_one_hot_cycle()`. -/
def MainLoop.run_one_hot_cycle (self : MainLoop) : Program Unit := do
  let cycle_start ← monotonic w
  let result ← poll_all_parallel w .HOT
  let out ← builtin (aggregate_inverters result.per_inverter)
  let aggregated ← integrate w (readings out)
  publish_values w (aggregated.entries.map fun entry => (entry.1, entry.2))
  if result.per_inverter.any fun blocks => !blocks.entries.isEmpty then
    client_publish w
  self.publish_meta w cycle_start result.durations_json

/-- `run_one_cold_cycle()`. -/
def run_one_cold_cycle : Program Unit := do
  let result ← poll_all_parallel w .COLD
  let out ← builtin (aggregate_inverters result.per_inverter)
  let cold_values := readings out
  if !cold_values.entries.isEmpty then
    publish_values w (cold_values.entries.map fun entry => (entry.1, entry.2))
  save_energy_state

/-- One turn of `_loop_forever`, up to the sleep. -/
def MainLoop.turn (self : MainLoop) : Program Unit := do
  let _cycle_start ← monotonic w
  try
    self.run_one_hot_cycle w
    let now ← monotonic w
    let s ← get
    if at_least (now - s.last_cold) self.cold_interval_s then
      run_one_cold_cycle w
      let last_cold ← monotonic w
      modify fun s => { s with last_cold }
  catch _ =>
    -- "unexpected error in main loop"
    pure ()
  let _elapsed ← monotonic w
  pure ()

def MainLoop.turns (self : MainLoop) : Nat → Program Unit
  | 0 => pure ()
  | n + 1 => do
    self.turn w
    self.turns n

/-- `_loop_forever()`, stopped after `n` turns. -/
def MainLoop.loop_forever (self : MainLoop) (n : Nat) : Program Unit := do
  let last_cold ← monotonic w
  modify fun s => { s with last_cold }
  self.turns w n

end

/-- The state after `n` turns of the main loop. -/
def MainLoop.after {N : Nat} (self : MainLoop) (w : World N) (integrator : EnergyIntegrator)
    (n : Nat) : LoopState :=
  ((self.loop_forever w n).run.run (LoopState.start integrator)).2

end inverter_bridge.daemon
