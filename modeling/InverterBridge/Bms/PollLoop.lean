import Mathlib.Data.Finset.Basic
import Mathlib.Data.Finset.Dedup
import InverterBridge.Bms.BleClient
import InverterBridge.Bms.Discovery
import InverterBridge.Bms.Integration

open Python
open inverter_bridge.config inverter_bridge.bms.octopus_protocol inverter_bridge.bms.ble_client
open inverter_bridge.bms.discovery

namespace inverter_bridge.bms.service

/-- What the outside gives to the BMS thread, each in order: the readings of the clock, the
looks at the stop event, what each poll of a pack comes to and whether the client reports a
connection after it, which attempts to connect succeed, and which saves. -/
structure World where
  monotonic : Nat → ℚ
  stop_is_set : Nat → Bool
  poll_pia : Nat → Nat → Except PollError PiaData
  poll_pib : Nat → Nat → Except PollError PibData
  is_connected : Nat → Bool
  connects : Nat → Bool
  save_succeeds : Nat → Bool

/-- What the BMS thread does. -/
inductive Event where
  | looked (stop : Bool)
  | connecting
  | cycle_started (start : ℚ)
  | pia_stored (pack : Nat) (data : PiaData) (seen_t : ℚ)
  | pib_stored (pack : Nat) (data : PibData) (seen_t : ℚ)
  | poll_failed (pack : Nat) (connected : Bool)
  | excluded (pack : Nat)
  /-- The packs that are handed to `aggregate_bank` at the time `now`. -/
  | aggregated (now : ℚ) (fresh_pia : Dict Nat PiaData) (fresh_pib : Dict Nat PibData)
  | integrated (call : Call)
  | published (values : List (String × Scalar))

/-- The caches and counters of the service, with the events so far. -/
structure ServiceState where
  pia_state : Dict Nat PiaData
  pib_state : Dict Nat PibData
  pia_seen_t : Dict Nat ℚ
  pib_seen_t : Dict Nat ℚ
  stale_warned : Finset Nat
  station : Station
  parses_ok : Nat
  parses_by_pack : Dict Nat Nat
  pia_parses_by_pack : Dict Nat Nat
  clock_reads : Nat
  looks : Nat
  polls : Nat
  connections : Nat
  trace : List Event

/-- `{p: 0 for p in range(1, 5)}`. -/
def no_parses : Dict Nat Nat := Dict.assign ∅ ((List.range' 1 4).map fun p => (p, 0))

/-- The state `BmsService.__init__` leaves, with its energy totals loaded. -/
def ServiceState.start (station : Station) : ServiceState where
  pia_state := ∅
  pib_state := ∅
  pia_seen_t := ∅
  pib_seen_t := ∅
  stale_warned := ∅
  station := station
  parses_ok := 0
  parses_by_pack := no_parses
  pia_parses_by_pack := no_parses
  clock_reads := 0
  looks := 0
  polls := 0
  connections := 0
  trace := []

namespace ServiceState

variable (s : ServiceState)

def logged (event : Event) : ServiceState := { s with trace := s.trace ++ [event] }

def clock_read : ServiceState := { s with clock_reads := s.clock_reads + 1 }

def polled : ServiceState := { s with polls := s.polls + 1 }

def looked (stop : Bool) : ServiceState := { s with looks := s.looks + 1 }.logged (.looked stop)

def connecting : ServiceState :=
  { s with connections := s.connections + 1 }.logged .connecting

/-- What a successful PIA poll of `pack`, seen at the time `now`, leaves. -/
def with_pia (pack : Nat) (pia : PiaData) (now : ℚ) : ServiceState :=
  { s with
    pia_state := s.pia_state.insert pack pia
    pia_seen_t := s.pia_seen_t.insert pack now
    stale_warned := s.stale_warned.erase pack
    parses_ok := s.parses_ok + 1
    parses_by_pack := s.parses_by_pack.insert pack ((s.parses_by_pack.lookup pack).getD 0 + 1)
    pia_parses_by_pack :=
      s.pia_parses_by_pack.insert pack ((s.pia_parses_by_pack.lookup pack).getD 0 + 1)
    trace := s.trace ++ [.pia_stored pack pia now] }

/-- What a successful PIB poll leaves. -/
def with_pib (pack : Nat) (pib : PibData) (now : ℚ) : ServiceState :=
  { s with
    pib_state := s.pib_state.insert pack pib
    pib_seen_t := s.pib_seen_t.insert pack now
    parses_ok := s.parses_ok + 1
    parses_by_pack := s.parses_by_pack.insert pack ((s.parses_by_pack.lookup pack).getD 0 + 1)
    trace := s.trace ++ [.pib_stored pack pib now] }

/-- What the warnings about `packs` leave. -/
def warned (packs : List Nat) : ServiceState :=
  { s with
    stale_warned := s.stale_warned ∪ packs.toFinset
    trace := s.trace ++ packs.map .excluded }

/-- What an integration leaves. -/
def integrated (call : Call) : ServiceState :=
  { s with station := s.station.after call }.logged (.integrated call)

end ServiceState

/-- How code of the thread ends early. -/
inductive Exit where
  | returned
  | raised (e : PollError)
  /-- The run is looked at up to here. -/
  | running

/-- Code of the BMS thread. -/
abbrev Program := ExceptT Exit (StateM ServiceState)

/-- The object ids and values that `_pub` publishes: those of the catalogue, with a value. -/
def catalogued (values : List (String × Option Scalar)) : List (String × Scalar) :=
  values.filterMap fun value =>
    if all_bms_entities.any fun e => e.object_id == value.1 then value.2.map (value.1, ·) else none

def float_value (x : ℚ) : Option Scalar := some (.float (.finite x))

def int_value (n : Int) : Option Scalar := some (.int n)

/-- A run of calls of `_pub`. -/
def publish (values : List (String × Option Scalar)) : Program Unit :=
  modify fun s => s.logged (.published (catalogued values))

def log (event : Event) : Program Unit := modify fun s => s.logged event

/-- `_publish_pia_state(p)`. -/
def publish_pia_state (p : PiaData) : Program Unit :=
  publish [
    (s!"bluesun_{pp p.pack}_voltage", float_value p.voltage_V),
    (s!"bluesun_{pp p.pack}_current", float_value p.current_A),
    (s!"bluesun_{pp p.pack}_soc", float_value p.soc_pct),
    (s!"bluesun_{pp p.pack}_soh", float_value p.soh_pct),
    (s!"bluesun_{pp p.pack}_cycles", int_value p.cycles),
    (s!"bluesun_{pp p.pack}_remaining_ah", float_value p.remaining_Ah),
    (s!"bluesun_{pp p.pack}_nominal_ah", float_value p.nominal_Ah)]

/-- `_publish_pib_state(p)`. -/
def publish_pib_state (p : PibData) : Program Unit :=
  publish ([
    (s!"bluesun_{pp p.pack}_cell_v_min", int_value p.cell_v_min_mV),
    (s!"bluesun_{pp p.pack}_cell_v_max", int_value p.cell_v_max_mV),
    (s!"bluesun_{pp p.pack}_cell_v_avg", int_value p.cell_v_avg_mV),
    (s!"bluesun_{pp p.pack}_cell_v_delta", int_value p.cell_v_delta_mV)] ++
    (p.cell_temp_C.zipIdx 1).map (fun entry =>
      (s!"bluesun_{pp p.pack}_cell_temp_{entry.2}", entry.1.bind float_value)) ++ [
    (s!"bluesun_{pp p.pack}_env_temp", p.env_temp_C.bind float_value),
    (s!"bluesun_{pp p.pack}_pcb_temp", p.pcb_temp_C.bind float_value)])

/-- `_publish_bank_state(agg)`. -/
def publish_bank_state (agg : aggregator.BankAggregates) : Program Unit :=
  publish [
    ("bluesun_bank_voltage_avg", agg.voltage_avg_V.bind float_value),
    ("bluesun_bank_current_total", agg.current_total_A.bind float_value),
    ("bluesun_bank_soc_avg", agg.soc_avg_pct.bind float_value),
    ("bluesun_bank_soc_min", agg.soc_min_pct.bind float_value),
    ("bluesun_bank_soc_spread", agg.soc_spread_pct.bind float_value),
    ("bluesun_bank_power", agg.power_W.bind float_value),
    ("bluesun_bank_power_charging", agg.power_charging_W.bind float_value),
    ("bluesun_bank_power_discharging", agg.power_discharging_W.bind float_value),
    ("bluesun_bank_remaining_ah", agg.remaining_Ah.bind float_value),
    ("bluesun_bank_nominal_ah", agg.nominal_Ah.bind float_value),
    ("bluesun_bank_min_soh", agg.min_soh_pct.bind float_value),
    ("bluesun_bank_max_cycles", agg.max_cycles.bind int_value),
    ("bluesun_bank_max_cell_temp", agg.max_cell_temp_C.bind float_value),
    ("bluesun_bank_charge_current_total", agg.charge_current_total_A.bind float_value),
    ("bluesun_bank_discharge_current_total", agg.discharge_current_total_A.bind float_value),
    ("bluesun_bank_charge_power_total", agg.charge_power_total_W.bind float_value),
    ("bluesun_bank_discharge_power_total", agg.discharge_power_total_W.bind float_value)]

/-- The counters, as they are published at the end of a cycle. -/
def publish_telemetry : Program Unit := do
  let s ← get
  publish (
    [("bluesun_octopus_parses_ok", int_value s.parses_ok)] ++
    s.parses_by_pack.entries.map (fun entry =>
      (s!"bluesun_{pp entry.1}_parses", int_value entry.2)) ++
    s.pia_parses_by_pack.entries.map fun entry =>
      (s!"bluesun_{pp entry.1}_soc_polls", int_value entry.2))

/-- `now - self._pia_seen_t.get(pack, 0.0) <= stale_pack_timeout_s`. -/
def pia_fresh (cfg : BmsCfg) (s : ServiceState) (now : ℚ) (pack : Nat) : Bool :=
  PyFloat.finite (now - (s.pia_seen_t.lookup pack).getD 0) ≤ cfg.stale_pack_timeout_s

/-- `now - self._pib_seen_t.get(pack, 0.0) <= 2 * poll_slow_interval_s`. -/
def pib_fresh (cfg : BmsCfg) (s : ServiceState) (now : ℚ) (pack : Nat) : Bool :=
  PyFloat.finite (now - (s.pib_seen_t.lookup pack).getD 0) ≤
    cfg.poll_slow_interval_s + cfg.poll_slow_interval_s

/-- The packs that `_fresh_states()` warns about at the time `now`: stale, and not warned
about since they were last heard of. -/
def newly_stale (cfg : BmsCfg) (s : ServiceState) (now : ℚ) : List Nat :=
  s.pia_state.keys.filter fun pack => !pia_fresh cfg s now pack && pack ∉ s.stale_warned

section

variable (w : World)

/-- `time.monotonic()`. -/
def monotonic : Program ℚ := do
  let s ← get
  set s.clock_read
  return w.monotonic s.clock_reads

/-- `self._stop_event.is_set()`, or the end of a wait for the event. -/
def stop_is_set : Program Bool := do
  let s ← get
  let stop := w.stop_is_set s.looks
  set (s.looked stop)
  return stop

/-- `if self._stop_event.is_set(): return`. -/
def return_if_stopped : Program Unit := do
  if ← stop_is_set w then throw .returned

/-- The handler of a poll that raised `e`: what it does not expect is raised again. -/
def poll_raised (poll pack : Nat) (e : PollError) : Program Unit := do
  if e.is_failed_poll then
    let connected := w.is_connected poll
    log (.poll_failed pack connected)
    if !connected then throw .returned
  else throw (.raised e)

/-- One turn of the PIA round, up to the pause: whether the poll succeeded. -/
def poll_pia (pack : Nat) : Program Bool := do
  let s ← get
  set s.polled
  match w.poll_pia s.polls pack with
  | .ok pia =>
    let now ← monotonic w
    modify fun s => s.with_pia pack pia now
    publish_pia_state pia
    return true
  | .error e =>
    poll_raised w s.polls pack e
    return false

/-- One turn of the PIB round, up to the pause. -/
def poll_pib (pack : Nat) : Program Bool := do
  let s ← get
  set s.polled
  match w.poll_pib s.polls pack with
  | .ok pib =>
    let now ← monotonic w
    modify fun s => s.with_pib pack pib now
    publish_pib_state pib
    return true
  | .error e =>
    poll_raised w s.polls pack e
    return false

/-- A round over the packs; returns `cycle_ok`. -/
def poll_round (poll : Nat → Program Bool) (cycle_ok : Nat) : List Nat → Program Nat
  | [] => return cycle_ok
  | pack :: packs => do
    let ok ← poll pack
    -- `await asyncio.sleep(inter_pack)`
    return_if_stopped w
    poll_round poll (if ok then cycle_ok + 1 else cycle_ok) packs

/-- `_fresh_states()`. -/
def fresh_states (cfg : BmsCfg) : Program (Dict Nat PiaData × Dict Nat PibData) := do
  let now ← monotonic w
  let s ← get
  let excluded := newly_stale cfg s now
  let fresh_pia := s.pia_state.filter (pia_fresh cfg s now)
  let fresh_pib := s.pib_state.filter (pib_fresh cfg s now)
  set ((s.warned excluded).logged (.aggregated now fresh_pia fresh_pib))
  return (fresh_pia, fresh_pib)

/-- `_integrate_energy(agg)`, with `agg` of the given packs. -/
def integrate_energy (fresh_pia : Dict Nat PiaData) (fresh_pib : Dict Nat PibData) :
    Program Unit := do
  let s ← get
  let now ← monotonic w
  let call : Call := {
    now
    pia_by_pack := fresh_pia.map_values PiaData.toPiaData
    pib_by_pack := some (fresh_pib.map_values PibData.toPibData)
    save_succeeds := w.save_succeeds s.clock_reads }
  let energy := (s.station.integrate_energy call).2
  modify fun s => s.integrated call
  publish (energy.map fun entry => (entry.1, some (.float entry.2)))

/-- The aggregates and the counters at the end of a cycle. -/
def publish_cycle (cfg : BmsCfg) : Program Unit := do
  let (fresh_pia, fresh_pib) ← fresh_states w cfg
  let agg := aggregator.aggregate_bank (fresh_pia.map_values PiaData.toPiaData)
    (some (fresh_pib.map_values PibData.toPibData))
  publish_bank_state agg
  integrate_energy w fresh_pia fresh_pib
  publish_telemetry

/-- The two rounds of a cycle: `cycle_ok`, and `last_slow`. -/
def poll_packs (cfg : BmsCfg) (cycle_start last_slow : ℚ) : Program (Nat × ℚ) := do
  let packs := List.range' 1 cfg.pack_count.toNat
  let cycle_ok ← poll_round w (poll_pia w) 0 packs
  if cfg.poll_slow_interval_s ≤ .finite (cycle_start - last_slow) then
    let cycle_ok ← poll_round w (poll_pib w) cycle_ok packs
    return (cycle_ok, cycle_start)
  else return (cycle_ok, last_slow)

/-- The watchdog at the end of the rounds: the new `failed_cycles`. -/
def watchdog (cfg : BmsCfg) (failed_cycles cycle_ok : Nat) : Program Nat := do
  if cycle_ok = 0 then
    if cfg.max_failed_cycles ≤ failed_cycles + 1 then throw .returned
    return failed_cycles + 1
  else return 0

/-- The wait for the rest of the fast interval. -/
def wait_for_next_cycle (cfg : BmsCfg) (cycle_start : ℚ) : Program Unit := do
  let now ← monotonic w
  if PyFloat.finite (now - cycle_start) < cfg.poll_fast_interval_s then return_if_stopped w

/-- The loop of `_poll_loop`, for at most the given number of turns. -/
def poll_cycles (cfg : BmsCfg) (failed_cycles : Nat) (last_slow : ℚ) : Nat → Program Unit
  | 0 => throw .running
  | n + 1 => do
    return_if_stopped w
    let cycle_start ← monotonic w
    log (.cycle_started cycle_start)
    let (cycle_ok, last_slow) ← poll_packs w cfg cycle_start last_slow
    let failed_cycles ← watchdog cfg failed_cycles cycle_ok
    publish_cycle w cfg
    wait_for_next_cycle w cfg cycle_start
    poll_cycles cfg failed_cycles last_slow n

/-- `_poll_loop(client)`, seen for at most `n` turns. -/
def poll_loop (cfg : BmsCfg) (n : Nat) : Program Unit := poll_cycles w cfg 0 0 n

/-- The `try` of `_run_async`: every exception is logged. -/
def session (cfg : BmsCfg) (n : Nat) : Program Unit := do
  let s ← get
  set s.connecting
  if w.connects s.connections then
    try poll_loop w cfg n
    catch
      | .running => throw .running
      | _ => pure ()

/-- The loop of `_run_async`, for at most the given number of sessions. -/
def run_async (cfg : BmsCfg) (n : Nat) : Nat → Program Unit
  | 0 => throw .running
  | sessions + 1 => do
    return_if_stopped w
    session w cfg n
    return_if_stopped w
    run_async cfg n sessions

end

/-- The service after (a part of) a run: `sessions` sessions of `n` turns at most. -/
def after (w : World) (cfg : BmsCfg) (station : Station) (sessions n : Nat) : ServiceState :=
  ((run_async w cfg n sessions).run.run (ServiceState.start station)).2

end inverter_bridge.bms.service
