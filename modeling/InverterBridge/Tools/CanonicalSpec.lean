import InverterBridge.Tools.CleanupOrphanDiscoveries
import InverterBridge.MqttPublisher.Announced
import InverterBridge.Bms.Discovery

open Python
open inverter_bridge.mqtt_publisher inverter_bridge.bms.discovery

namespace tools

/-! ## `docs/MQTT_CANONICAL.json` -/

def AGGREGATES : List String := [
  "total_battery_state_of_charge", "total_battery_voltage", "total_battery_power",
  "total_bus_voltage", "total_load_power", "total_pv_power", "total_grid_power",
  "total_grid_voltage", "total_grid_frequency", "total_mode", "total_pv_energy_today",
  "total_load_energy_today", "total_battery_charge_ah_today", "total_battery_discharge_ah_today",
  "total_battery_energy_in", "total_battery_energy_out", "total_pv_energy", "total_load_energy",
  "total_grid_energy_in", "total_grid_energy_out"]

def PER_INVERTER_SUFFIXES : List String := [
  "battery_current", "battery_voltage", "bus_voltage", "load_power", "load_power_l1",
  "load_power_l2", "load_apparent_power", "load_apparent_power_l1", "load_apparent_power_l2",
  "load_percentage", "ac_output_voltage", "ac_output_frequency", "grid_voltage", "grid_power",
  "grid_frequency", "temperature", "temperature_dc_dc", "temperature_dc_ac",
  "temperature_transformer", "pv_voltage_mppt1", "pv_voltage_mppt2", "pv_current",
  "pv_current_mppt1", "pv_current_mppt2", "pv_power", "pv_power_mppt1", "pv_power_mppt2",
  "device_mode", "charge_state", "pv_energy_today", "load_energy_today",
  "battery_charge_ah_today", "battery_discharge_ah_today", "pv_energy_yesterday",
  "pv_energy_2_days_ago", "pv_energy_3_days_ago", "pv_energy_4_days_ago", "pv_energy_5_days_ago",
  "pv_energy_6_days_ago", "pv_energy_7_days_ago", "firmware_version", "hardware_version",
  "status", "fault_bits"]

def META : List String := [
  "meta_poll_duration_ms", "meta_poll_duration_per_inverter_ms", "meta_crc_fails_total",
  "meta_uptime_s"]

def BINARY_SENSORS : List String := [
  "inverter_bridge_online"]

/-- The document, without its version and description. -/
def mqtt_canonical : List (Scalar × PyValue) := [
  (.str "aggregates", PyValue.strings AGGREGATES),
  (.str "per_inverter_suffixes", PyValue.strings PER_INVERTER_SUFFIXES),
  (.str "meta", PyValue.strings META),
  (.str "binary_sensors", PyValue.strings BINARY_SENSORS)]

/-- The unique ids of the inverters with these numbers. -/
def inverter_unique_ids (numbers : List Nat) : List String :=
  numbers.flatMap fun i => PER_INVERTER_SUFFIXES.map (Text.numbered "inverter" i)

theorem mem_inverter_unique_ids_iff {numbers : List Nat} {unique_id : String} :
    unique_id ∈ inverter_unique_ids numbers ↔
      ∃ i ∈ numbers, ∃ suffix ∈ PER_INVERTER_SUFFIXES,
        unique_id = Text.numbered "inverter" i suffix := by
  simp only [inverter_unique_ids, List.mem_flatMap, List.mem_map, eq_comm]

namespace cleanup_orphan_discoveries

/-- The document as `load_canonical_spec` loads it. -/
def shipped_spec (n_inverters : Nat) : CanonicalSpec where
  aggregates := AGGREGATES.map .str
  per_inverter_unique_ids := (inverter_unique_ids (List.range' 1 n_inverters)).map .str
  meta_ids := META.map .str
  binary_sensors := BINARY_SENSORS.map .str

theorem per_inverter_strings (text : PyValue → String) (suffixes : List String) (i : Nat) :
    per_inverter text (PyValue.strings suffixes) i =
      .ok ((suffixes.map (Text.numbered "inverter" i)).map .str) := by
  rw [per_inverter, PyValue.strings, List.map_map]
  simp only [PyValue.items, bind, Except.bind, pure, Except.pure, List.map_map]
  rfl

theorem mapM_per_inverter_strings (text : PyValue → String) (suffixes : List String)
    (numbers : List Nat) :
    numbers.mapM (per_inverter text (PyValue.strings suffixes)) =
      .ok (numbers.map fun i => (suffixes.map (Text.numbered "inverter" i)).map .str) := by
  rw [funext (per_inverter_strings text suffixes)]
  exact List.mapM_pure

theorem load_mqtt_canonical (text : PyValue → String) (n_inverters : Nat) :
    load_canonical_spec text (some (.dict mqtt_canonical)) n_inverters =
      .ok (shipped_spec n_inverters) := by
  have haggregates : PyValue.or_empty (PyValue.lookup "aggregates" mqtt_canonical) =
      PyValue.strings AGGREGATES := rfl
  have hsuffixes : PyValue.or_empty (PyValue.lookup "per_inverter_suffixes" mqtt_canonical) =
      PyValue.strings PER_INVERTER_SUFFIXES := rfl
  have hmeta : PyValue.or_empty (PyValue.lookup "meta" mqtt_canonical) = PyValue.strings META := rfl
  have hbinary : PyValue.or_empty (PyValue.lookup "binary_sensors" mqtt_canonical) =
      PyValue.strings BINARY_SENSORS := rfl
  simp only [load_canonical_spec, haggregates, hsuffixes, hmeta, hbinary, PyValue.to_set_strings,
    bind, Except.bind, mapM_per_inverter_strings, pure, Except.pure, shipped_spec,
    inverter_unique_ids, List.flatMap_def, List.map_flatten, List.map_map, Function.comp_def]

end cleanup_orphan_discoveries

/-! ## What is announced, and what the document covers -/

/-- The unique ids of the sensors announced for `n_inverters`, from the document's texts. -/
theorem announced_unique_ids (n_inverters : Nat) :
    (announced n_inverters).map SensorKey.unique_id =
      AGGREGATES ++ inverter_unique_ids (List.range' 1 n_inverters) ++ META := by
  have hsite : (AGGREGATE_SENSORS ++ ENERGY_SENSORS).map (fun sensor =>
      (SensorKey.site sensor.key).unique_id) = AGGREGATES := by decide +kernel
  have hinverter : PER_INVERTER_SENSORS.map Sensor.key = PER_INVERTER_SUFFIXES := by rfl
  have hmeta : META_SENSORS.map (fun sensor => (SensorKey.daemon
      ((Text.after "_meta/" sensor.key).getD sensor.key)).unique_id) = META := by decide +kernel
  rw [announced, inverter_unique_ids, List.range'_eq_map_range, List.map_append, List.map_append,
    List.map_map, List.map_flatMap, List.flatMap_map, List.map_map, ← hsite, ← hinverter, ← hmeta]
  simp only [List.map_map, Function.comp_def, Nat.add_comm 1]
  rfl

/-- The unique ids the document lists begin with other letters. -/
theorem covered_head (numbers : List Nat) : ∀ unique_id ∈
    AGGREGATES ++ inverter_unique_ids numbers ++ META ++ BINARY_SENSORS,
    unique_id.toList.head? ≠ some 'b' := by
  have haggregates : ∀ unique_id ∈ AGGREGATES, unique_id.toList.head? ≠ some 'b' := by
    decide +kernel
  intro unique_id hmem
  simp only [List.mem_append] at hmem
  obtain ((hmem | hmem) | hmem) | hmem := hmem
  · exact haggregates unique_id hmem
  · obtain ⟨i, -, suffix, -, rfl⟩ := mem_inverter_unique_ids_iff.mp hmem
    rw [Text.toList_numbered]
    simp
  · revert unique_id
    decide +kernel
  · revert unique_id
    decide +kernel

/-! ## The unique ids of the BMS -/

theorem bluesun_append (rest : String) : "bluesun_".toList <+: ("bluesun_" ++ rest).toList := by
  rw [String.toList_append]
  exact List.prefix_append _ _

theorem bluesun_pia_entities (p : Nat) :
    ∀ entity ∈ pia_entities_for_pack p, "bluesun_".toList <+: entity.object_id.toList := by
  simp only [pia_entities_for_pack, List.forall_mem_cons, toString, String.append_assoc,
    bluesun_append, and_self, List.not_mem_nil, false_imp_iff, implies_true]

theorem bluesun_pib_entities (p : Nat) :
    ∀ entity ∈ pib_entities_for_pack p, "bluesun_".toList <+: entity.object_id.toList := by
  simp only [pib_entities_for_pack, List.forall_mem_cons, List.forall_mem_append,
    List.forall_mem_map, toString, String.append_assoc, bluesun_append, and_self, List.not_mem_nil,
    false_imp_iff, implies_true]

/-- All unique ids of the BMS begin alike. -/
theorem bluesun_object_ids :
    ∀ entity ∈ all_bms_entities, "bluesun_".toList <+: entity.object_id.toList := by
  have hserial : ∀ entity ∈ serial_entities, "bluesun_".toList <+: entity.object_id.toList := by
    simp only [serial_entities, List.forall_mem_map, toString, String.append_assoc, bluesun_append,
      implies_true]
  have hbank : ∀ entity ∈ bank_entities, "bluesun_".toList <+: entity.object_id.toList := by
    decide +kernel
  have henergy : ∀ entity ∈ energy_entities, "bluesun_".toList <+: entity.object_id.toList := by
    decide +kernel
  have htelemetry : ∀ entity ∈ telemetry_entities,
      "bluesun_".toList <+: entity.object_id.toList := by
    decide +kernel
  simp only [all_bms_entities, List.forall_mem_append, List.forall_mem_flatMap]
  exact ⟨⟨⟨⟨⟨fun p _ => bluesun_pia_entities p, fun p _ => bluesun_pib_entities p⟩, hserial⟩,
    hbank⟩, henergy⟩, htelemetry⟩

end tools
