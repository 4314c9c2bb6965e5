import InverterBridge.Config

open Python
open Python.PyValue (text_entry)

namespace inverter_bridge.bms.discovery

/-- An entity announced for the BMS. -/
structure EntityDef where
  object_id : String
  name : String
  unit : Option String := none
  device_class : Option String := none
  state_class : Option String := some "measurement"
  icon : Option String := none
  accuracy : Option Int := none
  force_update : Bool := false
  entity_category : Option String := none

/-- `f"pack{p:02d}"`. -/
def pp (p : Nat) : String := "pack" ++ zfill 2 (toString p)

/-- `f"Pack{p:02d}"`. -/
def PP (p : Nat) : String := "Pack" ++ zfill 2 (toString p)

/-- `_pia_entities_for_pack(p)`. -/
def pia_entities_for_pack (p : Nat) : List EntityDef := [
  { object_id := s!"bluesun_{pp p}_voltage", name := s!"{PP p} Voltage", unit := some "V",
    device_class := some "voltage", accuracy := some 2 },
  { object_id := s!"bluesun_{pp p}_current", name := s!"{PP p} Current", unit := some "A",
    device_class := some "current", accuracy := some 2 },
  { object_id := s!"bluesun_{pp p}_soc", name := s!"{PP p} SoC", unit := some "%",
    device_class := some "battery", accuracy := some 1 },
  { object_id := s!"bluesun_{pp p}_soh", name := s!"{PP p} SoH", unit := some "%",
    icon := some "mdi:battery-heart-variant", accuracy := some 1 },
  { object_id := s!"bluesun_{pp p}_cycles", name := s!"{PP p} Cycles",
    state_class := some "total_increasing", icon := some "mdi:counter", accuracy := some 0 },
  { object_id := s!"bluesun_{pp p}_remaining_ah", name := s!"{PP p} Remaining Ah",
    unit := some "Ah", icon := some "mdi:battery-outline", accuracy := some 2 },
  { object_id := s!"bluesun_{pp p}_nominal_ah", name := s!"{PP p} Nominal Ah",
    unit := some "Ah", icon := some "mdi:battery-high", accuracy := some 2 }]

/-- `_pib_entities_for_pack(p)`. -/
def pib_entities_for_pack (p : Nat) : List EntityDef := [
  { object_id := s!"bluesun_{pp p}_cell_v_min", name := s!"{PP p} Cell V Min", unit := some "mV",
    device_class := some "voltage", accuracy := some 0 },
  { object_id := s!"bluesun_{pp p}_cell_v_max", name := s!"{PP p} Cell V Max", unit := some "mV",
    device_class := some "voltage", accuracy := some 0 },
  { object_id := s!"bluesun_{pp p}_cell_v_avg", name := s!"{PP p} Cell V Avg", unit := some "mV",
    device_class := some "voltage", accuracy := some 0 },
  { object_id := s!"bluesun_{pp p}_cell_v_delta", name := s!"{PP p} Cell V Delta",
    unit := some "mV", icon := some "mdi:arrow-expand-vertical", accuracy := some 0 }] ++
  (List.range' 1 4).map (fun i =>
    { object_id := s!"bluesun_{pp p}_cell_temp_{i}", name := s!"{PP p} Cell Temp {i}",
      unit := some "°C", device_class := some "temperature", accuracy := some 1 }) ++ [
  { object_id := s!"bluesun_{pp p}_env_temp", name := s!"{PP p} Env Temp", unit := some "°C",
    device_class := some "temperature", accuracy := some 1 },
  { object_id := s!"bluesun_{pp p}_pcb_temp", name := s!"{PP p} PCB Temp", unit := some "°C",
    device_class := some "temperature", accuracy := some 1 }]

/-- `_serial_entities()`. -/
def serial_entities : List EntityDef :=
  (List.range' 1 4).map fun p =>
    { object_id := s!"bluesun_{pp p}_serial", name := s!"{PP p} Serial", state_class := none,
      icon := some "mdi:identifier" }

/-- `_bank_entities()`. -/
def bank_entities : List EntityDef := [
  { object_id := "bluesun_bank_voltage_avg", name := "Bank Voltage Avg", unit := some "V",
    device_class := some "voltage", accuracy := some 2 },
  { object_id := "bluesun_bank_current_total", name := "Bank Current Total", unit := some "A",
    device_class := some "current", accuracy := some 2 },
  { object_id := "bluesun_bank_soc_avg", name := "Bank SoC Avg", unit := some "%",
    device_class := some "battery", accuracy := some 1 },
  { object_id := "bluesun_bank_soc_min", name := "Bank SoC Min", unit := some "%",
    device_class := some "battery", accuracy := some 1, icon := some "mdi:battery-arrow-down" },
  { object_id := "bluesun_bank_soc_spread", name := "Bank SoC Spread", unit := some "%",
    icon := some "mdi:arrow-expand-horizontal", accuracy := some 1 },
  { object_id := "bluesun_bank_power", name := "Bank Power", unit := some "W",
    device_class := some "power", accuracy := some 0 },
  { object_id := "bluesun_bank_power_charging", name := "Bank Power Charging", unit := some "W",
    device_class := some "power", accuracy := some 0, icon := some "mdi:battery-plus-variant" },
  { object_id := "bluesun_bank_power_discharging", name := "Bank Power Discharging",
    unit := some "W", device_class := some "power", accuracy := some 0,
    icon := some "mdi:battery-minus-variant" },
  { object_id := "bluesun_bank_remaining_ah", name := "Bank Remaining Ah", unit := some "Ah",
    icon := some "mdi:battery-outline", accuracy := some 2 },
  { object_id := "bluesun_bank_nominal_ah", name := "Bank Nominal Ah", unit := some "Ah",
    icon := some "mdi:battery-high", accuracy := some 2 },
  { object_id := "bluesun_bank_min_soh", name := "Bank Min SoH", unit := some "%",
    icon := some "mdi:battery-heart-variant", accuracy := some 1 },
  { object_id := "bluesun_bank_max_cycles", name := "Bank Max Cycles",
    icon := some "mdi:counter", accuracy := some 0 },
  { object_id := "bluesun_bank_max_cell_temp", name := "Bank Max Cell Temp", unit := some "°C",
    device_class := some "temperature", accuracy := some 1 },
  { object_id := "bluesun_bank_charge_current_total", name := "Bank Charge Current Total",
    unit := some "A", device_class := some "current", accuracy := some 2,
    icon := some "mdi:battery-plus-variant" },
  { object_id := "bluesun_bank_discharge_current_total", name := "Bank Discharge Current Total",
    unit := some "A", device_class := some "current", accuracy := some 2,
    icon := some "mdi:battery-minus-variant" },
  { object_id := "bluesun_bank_charge_power_total", name := "Bank Charge Power Total",
    unit := some "W", device_class := some "power", accuracy := some 0,
    icon := some "mdi:battery-plus-variant" },
  { object_id := "bluesun_bank_discharge_power_total", name := "Bank Discharge Power Total",
    unit := some "W", device_class := some "power", accuracy := some 0,
    icon := some "mdi:battery-minus-variant" }]

/-- `_energy_entities()`. -/
def energy_entities : List EntityDef := [
  { object_id := "bluesun_battery_energy_in", name := "Battery Energy In", unit := some "Wh",
    device_class := some "energy", state_class := some "total_increasing",
    icon := some "mdi:battery-arrow-up", accuracy := some 2 },
  { object_id := "bluesun_battery_energy_out", name := "Battery Energy Out", unit := some "Wh",
    device_class := some "energy", state_class := some "total_increasing",
    icon := some "mdi:battery-arrow-down", accuracy := some 2 }]

/-- A diagnostic counter. -/
def counter_entity (object_id name : String) : EntityDef :=
  { object_id, name, state_class := some "total_increasing", icon := some "mdi:counter",
    accuracy := some 0, entity_category := some "diagnostic" }

/-- `_telemetry_entities()`. -/
def telemetry_entities : List EntityDef :=
  [counter_entity "bluesun_octopus_parses_ok" "Octopus Parses OK"] ++
  (List.range' 1 4).map (fun p => counter_entity s!"bluesun_{pp p}_parses" s!"{PP p} Parses") ++
  (List.range' 1 4).map fun p => counter_entity s!"bluesun_{pp p}_soc_polls" s!"{PP p} SoC Polls"

/-- `all_bms_entities()`. -/
def all_bms_entities : List EntityDef :=
  [1, 2, 3, 4].flatMap pia_entities_for_pack ++ [1, 2, 3, 4].flatMap pib_entities_for_pack ++
    serial_entities ++ bank_entities ++ energy_entities ++ telemetry_entities

/-- `build_discovery_payload(entity, ...)`. -/
def build_discovery_payload (entity : EntityDef)
    (device_id device_name topic_prefix availability_topic : String) : PyValue :=
  .dict (
    [text_entry "name" entity.name,
      text_entry "unique_id" entity.object_id,
      text_entry "object_id" entity.object_id,
      text_entry "state_topic" <| topic_prefix ++ s!"/{entity.object_id}/state",
      text_entry "availability_topic" availability_topic,
      text_entry "payload_available" "online",
      text_entry "payload_not_available" "offline",
      (.str "device", .dict [
        (.str "identifiers", .list [.scalar (.str device_id)]),
        text_entry "name" device_name,
        text_entry "manufacturer" "BlueSun / XZH-ElecTech",
        text_entry "model" "BMS16S200A-SP05B (4-pack 16s LiFePO4)",
        text_entry "configuration_url" "https://github.com/gabrielpc1190/SolarInverter2MQTT"])] ++
    (entity.unit.map (text_entry "unit_of_measurement")).toList ++
    (entity.device_class.map (text_entry "device_class")).toList ++
    (entity.state_class.map (text_entry "state_class")).toList ++
    (entity.icon.map (text_entry "icon")).toList ++
    (entity.accuracy.map fun n => (.str "suggested_display_precision", .scalar (.int n))).toList ++
    (if entity.force_update then [(.str "force_update", .scalar (.bool true))] else []) ++
    (entity.entity_category.map (text_entry "entity_category")).toList)

/-- `discovery_topic_for(entity)`. -/
def discovery_topic_for (entity : EntityDef) : String :=
  s!"homeassistant/sensor/{entity.object_id}/config"

/-- A discovery message as it is retained: the config topic and the payload. -/
abbrev Message := String × PyValue

/-- `self._availability_topic`. -/
def availability_topic (bms_cfg : config.BmsCfg) : String :=
  bms_cfg.mqtt_topic_prefix ++ "/availability"

/-- The discovery messages of `_publish_discovery()`, in order. -/
def discovery_messages (bms_cfg : config.BmsCfg) : List Message :=
  all_bms_entities.map fun entity =>
    (discovery_topic_for entity, build_discovery_payload entity bms_cfg.mqtt_device_id
      bms_cfg.mqtt_device_name bms_cfg.mqtt_topic_prefix (availability_topic bms_cfg))

example : all_bms_entities.length = 100 := by decide +kernel

end inverter_bridge.bms.discovery
