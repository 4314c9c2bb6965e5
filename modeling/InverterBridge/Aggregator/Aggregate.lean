import InverterBridge.Parsers
import InverterBridge.Lib.Text

open Python
open inverter_bridge.parsers inverter_bridge.srne_map

namespace inverter_bridge.aggregator

/-- A published value. -/
inductive Value where
  | num (x : ℚ)
  | text (s : String)
  deriving DecidableEq

/-- The blocks read from one inverter, by block name. -/
abbrev Blocks := Dict String ParsedBlock

abbrev Out := Dict String Value

/-- `b.fields[k]`. -/
def field (b : ParsedBlock) (k : String) : Except PyError ℚ :=
  match b.fields.lookup k with
  | some x => .ok x
  | none => .error (.KeyError k)

/-- `b.fields.get(k, default)`. -/
def field_get (b : ParsedBlock) (k : String) (default : ℚ) : ℚ := (b.fields.lookup k).getD default

/-- `f"inverter_{i}_{k}"`. -/
abbrev inverter_key (i : Nat) (k : String) : String := Text.numbered "inverter" i k

/-- `for i, inv in enumerate(per_inverter, start=1)`: the body updates its own
accumulator and lists, in order, the values it assigns to keys of inverter `i`. -/
def for_inverters {α : Type}
    (body : α → Nat → Blocks → Except PyError (α × List (String × Value))) (i : Nat) (acc : α)
    (out : Out) : List Blocks → Except PyError (α × Out)
  | [] => .ok (acc, out)
  | inv :: per_inverter => do
    let (acc, assigned) ← body acc i inv
    for_inverters body (i + 1) acc
      (Dict.assign out (assigned.map fun entry => (inverter_key i entry.1, entry.2))) per_inverter

/-- The readings of the shared bank that are averaged or summed. -/
structure BankReadings where
  socs : List ℚ
  vs : List ℚ
  bank_currents : List ℚ

/-- The body of the battery loop. -/
def battery_body (acc : BankReadings) (_i : Nat) (inv : Blocks) :
    Except PyError (BankReadings × List (String × Value)) :=
  match inv.lookup "battery" with
  | none => .ok (acc, [])
  | some b => do
    let soc ← field b "battery_state_of_charge"
    let v ← field b "battery_voltage"
    let i_a ← field b "battery_current"
    let cs_code := int_of (field_get b "charge_state_code" (-1))
    let charge_state := (CHARGE_STATE_LOOKUP.lookup cs_code).getD s!"unknown_{cs_code}"
    return (⟨acc.socs ++ [soc], acc.vs ++ [v], acc.bank_currents ++ [i_a]⟩,
      [("battery_current", .num i_a), ("battery_voltage", .num v),
        ("charge_state", .text charge_state)])

/-- The site values of the battery section. -/
def battery_totals (acc : BankReadings) : List (String × Value) :=
  if acc.socs ≠ [] then
    let avg_v := acc.vs.sum / acc.vs.length
    [("battery_state_of_charge", .num (py_round (acc.socs.sum / acc.socs.length) 1)),
      ("battery_voltage", .num (py_round (acc.vs.sum / acc.vs.length) 2)),
      ("battery_power", .num (py_round (avg_v * acc.bank_currents.sum) 1))]
  else []

/-- What the state loop carries along. -/
structure SiteState where
  inv1_state : Option ParsedBlock
  site_load_active_total : ℚ
  site_load_any : Bool

/-- `phase_b.fields["load_active_phase_b"] if phase_b is not None else 0.0`. -/
def active_phase_b (phase_b : Option ParsedBlock) : Except PyError ℚ :=
  match phase_b with
  | some p => field p "load_active_phase_b"
  | none => .ok 0

/-- The apparent-power values of one inverter. -/
def apparent_values (apparent_a : ℚ) (phase_b : Option ParsedBlock) : List (String × Value) :=
  match phase_b.bind fun p => p.fields.lookup "load_apparent_phase_b" with
  | some apparent_b =>
    [("load_apparent_power_l2", .num (py_round apparent_b 1)),
      ("load_apparent_power", .num (py_round (apparent_a + apparent_b) 1))]
  | none => [("load_apparent_power", .num (py_round apparent_a 1))]

/-- The combined output voltage of one inverter, when both legs are known. -/
def output_voltage (s : ParsedBlock) (phase_b : Option ParsedBlock) :
    Except PyError (List (String × Value)) :=
  match phase_b.bind fun p => p.fields.lookup "ac_output_voltage_l2" with
  | some v_l2 => do
    let v_l1 ← field s "ac_output_voltage_l1"
    return [("ac_output_voltage", .num (py_round (v_l1 + v_l2) 1))]
  | none => .ok []

/-- The body of the state loop. -/
def state_body (acc : SiteState) (i : Nat) (inv : Blocks) :
    Except PyError (SiteState × List (String × Value)) :=
  match inv.lookup "state" with
  | none => .ok (acc, [])
  | some s => do
    let active_a ← field s "load_active_phase_a"
    let phase_b := inv.lookup "phase_b"
    let active_b ← active_phase_b phase_b
    let total_active := active_a + active_b
    let apparent_a ← field s "load_apparent_phase_a"
    let load_percent ← field s "load_percent"
    let ac_output_frequency ← field s "ac_output_frequency"
    let grid_frequency ← field s "grid_frequency"
    let grid_voltage ← field s "grid_voltage_l1"
    let grid_current ← field s "grid_current_l1"
    let t_dc_dc ← field s "temperature_dc_dc"
    let t_dc_ac ← field s "temperature_dc_ac"
    let t_trans ← field s "temperature_transformer"
    let state_code ← field s "inverter_state_code"
    let code := int_of state_code
    let bus_voltage ← field s "bus_voltage"
    let ac_output_voltage ← output_voltage s phase_b
    let device_mode := (INVERTER_STATE_LOOKUP.lookup code).getD s!"unknown_code_{code}"
    return (⟨if i = 1 then some s else acc.inv1_state, acc.site_load_active_total + total_active, true⟩,
      [("load_power", .num (py_round total_active 1)),
        ("load_power_l1", .num (py_round active_a 1)),
        ("load_power_l2", .num (py_round active_b 1)),
        ("load_apparent_power_l1", .num (py_round apparent_a 1))] ++
      apparent_values apparent_a phase_b ++
      [("load_percentage", .num load_percent),
        ("ac_output_frequency", .num ac_output_frequency),
        ("grid_frequency", .num grid_frequency),
        ("grid_voltage", .num grid_voltage),
        ("grid_power", .num (py_round (grid_voltage * grid_current) 1)),
        ("temperature", .num (py_round (max t_dc_dc (max t_dc_ac t_trans)) 1)),
        ("temperature_dc_dc", .num t_dc_dc),
        ("temperature_dc_ac", .num t_dc_ac),
        ("temperature_transformer", .num t_trans),
        ("device_mode", .text device_mode),
        ("bus_voltage", .num bus_voltage)] ++
      ac_output_voltage)

/-- The site values behind the state loop; the mode is inverter 1's. -/
def load_totals (acc : SiteState) (out : Out) : List (String × Value) :=
  if acc.site_load_any then
    ("load_power", .num (py_round acc.site_load_active_total 1)) ::
      match out.lookup (inverter_key 1 "device_mode") with
      | some mode => [("mode", mode)]
      | none => []
  else []

/-- The grid values, which are inverter 1's. -/
def grid_totals (inv1_state : Option ParsedBlock) : Except PyError (List (String × Value)) :=
  match inv1_state with
  | none => .ok []
  | some s => do
    let grid_voltage ← field s "grid_voltage_l1"
    let grid_frequency ← field s "grid_frequency"
    let grid_current ← field s "grid_current_l1"
    let bus_voltage ← field s "bus_voltage"
    return [("grid_voltage", .num grid_voltage), ("grid_frequency", .num grid_frequency),
      ("grid_power", .num (py_round (grid_voltage * grid_current) 1)),
      ("bus_voltage", .num bus_voltage)]

/-- `block.fields.get(k, 0.0) if block is not None else 0.0`. -/
def reading_or_zero (block : Option ParsedBlock) (k : String) : ℚ :=
  match block with
  | some b => field_get b k 0
  | none => 0

/-- The body of the PV loop: it has no guard on the presence of the blocks. -/
def pv_body (acc : ℚ × Bool) (_i : Nat) (inv : Blocks) :
    Except PyError ((ℚ × Bool) × List (String × Value)) :=
  let bat := inv.lookup "battery"
  let pv2_block := inv.lookup "pv2"
  let pv1_v := reading_or_zero bat "pv1_voltage"
  let pv1_i := reading_or_zero bat "pv1_current"
  let pv1_p := reading_or_zero bat "pv1_power"
  let pv2_v := reading_or_zero pv2_block "pv2_voltage"
  let pv2_i := reading_or_zero pv2_block "pv2_current"
  let pv2_raw := reading_or_zero pv2_block "pv2_power"
  let pv2_p := if pv2_raw < 0 then 0 else pv2_raw
  .ok ((acc.1 + (pv1_p + pv2_p), acc.2 || bat.isSome || pv2_block.isSome),
    [("pv_voltage_mppt1", .num pv1_v),
      ("pv_voltage_mppt2", .num pv2_v),
      ("pv_current_mppt1", .num pv1_i),
      ("pv_current_mppt2", .num pv2_i),
      ("pv_current", .num (py_round (pv1_i + pv2_i) 2)),
      ("pv_power_mppt1", .num (py_round pv1_p 1)),
      ("pv_power_mppt2", .num (py_round pv2_p 1)),
      ("pv_power", .num (py_round (pv1_p + pv2_p) 1))])

def pv_totals (acc : ℚ × Bool) : List (String × Value) :=
  if acc.2 then [("pv_power", .num (py_round acc.1 1))] else []

def daily_keys : List String :=
  ["battery_charge_ah_today", "battery_discharge_ah_today", "pv_energy_today", "load_energy_today"]

def history_keys : List String :=
  ["yesterday", "2_days_ago", "3_days_ago", "4_days_ago", "5_days_ago", "6_days_ago",
    "7_days_ago"].map ("pv_energy_" ++ ·)

def diag_keys : List String := ["firmware_version", "hardware_version"]

/-- `for k in keys: if k in block.fields`: the readings that are there. -/
def present_readings (keys : List String) (block : Option ParsedBlock) : List (String × ℚ) :=
  match block with
  | none => []
  | some b => keys.filterMap fun k => (b.fields.lookup k).map fun v => (k, v)

/-- `daily_sums[k] = daily_sums.get(k, 0.0) + v`. -/
def add_daily (daily_sums : Dict String ℚ) (reading : String × ℚ) : Dict String ℚ :=
  daily_sums.insert reading.1 ((daily_sums.lookup reading.1).getD 0 + reading.2)

/-- The fault registers as raw hex words. -/
def fault_bits (regs_raw : List UInt16) : String :=
  " ".intercalate (regs_raw.map fun r => hex_padded_upper 4 r.toNat)

/-- The body of the cold-block loop. -/
def cold_body (daily_sums : Dict String ℚ) (_i : Nat) (inv : Blocks) :
    Except PyError (Dict String ℚ × List (String × Value)) :=
  let daily := present_readings daily_keys (inv.lookup "daily_stats")
  let history := present_readings history_keys (inv.lookup "runtime_ctrs")
  let diag := present_readings diag_keys (inv.lookup "device_info")
  let faults := match inv.lookup "faults" with
    | some b => [("fault_bits", Value.text (fault_bits b.regs_raw))]
    | none => []
  .ok (daily.foldl add_daily daily_sums,
    (daily ++ history ++ diag).map (fun r => (r.1, Value.num r.2)) ++ faults)

/-- `for k, total in daily_sums.items()`. -/
def daily_totals (daily_sums : Dict String ℚ) : List (String × Value) :=
  daily_sums.entries.map fun entry => (entry.1, .num (py_round entry.2 2))

/-- `aggregate_inverters(per_inverter)`. -/
def aggregate_inverters (per_inverter : List Blocks) : Except PyError Out := do
  let (bank, out) ← for_inverters battery_body 1 ⟨[], [], []⟩ ∅ per_inverter
  let out := Dict.assign out (battery_totals bank)
  let (site, out) ← for_inverters state_body 1 ⟨none, 0, false⟩ out per_inverter
  let out := Dict.assign out (load_totals site out)
  let grid ← grid_totals site.inv1_state
  let out := Dict.assign out grid
  let (pv, out) ← for_inverters pv_body 1 (0, false) out per_inverter
  let out := Dict.assign out (pv_totals pv)
  let (daily_sums, out) ← for_inverters cold_body 1 ∅ out per_inverter
  return Dict.assign out (daily_totals daily_sums)

end inverter_bridge.aggregator
