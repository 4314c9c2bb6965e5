import Mathlib.Data.Rat.Defs

namespace inverter_bridge.srne_map

inductive BlockTier where
  | HOT
  | COLD
  deriving DecidableEq

/-- A run of registers the daemon reads in one query. -/
structure Block where
  addr : UInt16
  count : Nat
  name : String
  tier : BlockTier
  deriving DecidableEq

/-- A register of a block that is decoded into a sensor value. -/
structure Field where
  block_addr : UInt16
  offset : Nat
  key : String
  scale : ℚ
  signed : Bool
  deriving DecidableEq

def BLOCKS : List Block := [
  ⟨0x0100, 15, "battery", .HOT⟩,
  ⟨0x0210, 19, "state", .HOT⟩,
  ⟨0x0223, 23, "phase_b", .HOT⟩,
  ⟨0x0014, 10, "device_info", .COLD⟩,
  ⟨0x010F, 3, "pv2", .HOT⟩,
  ⟨0x0204, 6, "faults", .COLD⟩,
  ⟨0xF000, 8, "runtime_ctrs", .COLD⟩,
  ⟨0xF02C, 18, "daily_stats", .COLD⟩]

def FIELDS : List Field := [
  ⟨0x0100, 0, "battery_state_of_charge", 1, false⟩,
  ⟨0x0100, 1, "battery_voltage", 1 / 10, false⟩,
  -- the register counts discharging as positive, the bridge charging
  ⟨0x0100, 2, "battery_current", -1 / 10, true⟩,
  ⟨0x0100, 7, "pv1_voltage", 1 / 10, false⟩,
  ⟨0x0100, 8, "pv1_current", 1 / 10, false⟩,
  ⟨0x0100, 9, "pv1_power", 1, false⟩,
  ⟨0x0100, 11, "charge_state_code", 1, false⟩,
  ⟨0x0210, 0, "inverter_state_code", 1, false⟩,
  ⟨0x0210, 1, "inverter_substate_code", 1, false⟩,
  ⟨0x0210, 2, "bus_voltage", 1 / 10, false⟩,
  ⟨0x0210, 3, "grid_voltage_l1", 1 / 10, false⟩,
  ⟨0x0210, 4, "grid_current_l1", 1 / 10, false⟩,
  ⟨0x0210, 5, "grid_frequency", 1 / 100, false⟩,
  ⟨0x0210, 6, "ac_output_voltage_l1", 1 / 10, false⟩,
  ⟨0x0210, 7, "ac_output_current_l1", 1 / 10, false⟩,
  ⟨0x0210, 8, "ac_output_frequency", 1 / 100, false⟩,
  ⟨0x0210, 9, "load_percent_alt", 1, false⟩,
  ⟨0x0210, 11, "load_active_phase_a", 1, false⟩,
  ⟨0x0210, 12, "load_apparent_phase_a", 1, false⟩,
  ⟨0x0210, 15, "load_percent", 1, false⟩,
  ⟨0x0210, 16, "temperature_dc_dc", 1 / 10, false⟩,
  ⟨0x0210, 17, "temperature_dc_ac", 1 / 10, false⟩,
  ⟨0x0210, 18, "temperature_transformer", 1 / 10, false⟩,
  ⟨0x0223, 9, "ac_output_voltage_l2", 1 / 10, false⟩,
  ⟨0x0223, 11, "ac_output_current_l2", 1 / 10, false⟩,
  ⟨0x0223, 13, "load_current_phase_b", 1 / 10, false⟩,
  ⟨0x0223, 15, "load_active_phase_b", 1, false⟩,
  ⟨0x0223, 17, "load_apparent_phase_b", 1, false⟩,
  ⟨0x010F, 0, "pv2_voltage", 1 / 10, false⟩,
  ⟨0x010F, 1, "pv2_current", 1 / 10, false⟩,
  ⟨0x010F, 2, "pv2_power", 1, true⟩,
  ⟨0x0014, 0, "firmware_version", 1 / 100, false⟩,
  ⟨0x0014, 3, "hardware_version", 1 / 100, false⟩,
  ⟨0xF000, 0, "pv_energy_yesterday", 1 / 10, false⟩,
  ⟨0xF000, 1, "pv_energy_2_days_ago", 1 / 10, false⟩,
  ⟨0xF000, 2, "pv_energy_3_days_ago", 1 / 10, false⟩,
  ⟨0xF000, 3, "pv_energy_4_days_ago", 1 / 10, false⟩,
  ⟨0xF000, 4, "pv_energy_5_days_ago", 1 / 10, false⟩,
  ⟨0xF000, 5, "pv_energy_6_days_ago", 1 / 10, false⟩,
  ⟨0xF000, 6, "pv_energy_7_days_ago", 1 / 10, false⟩,
  ⟨0xF02C, 1, "battery_charge_ah_today", 1, false⟩,
  ⟨0xF02C, 2, "battery_discharge_ah_today", 1, false⟩,
  ⟨0xF02C, 3, "pv_energy_today", 1 / 10, false⟩,
  ⟨0xF02C, 4, "load_energy_today", 1 / 10, false⟩]

/-- `fields_for(block_addr)`. -/
def fields_for (block_addr : UInt16) : List Field :=
  FIELDS.filter fun f => f.block_addr == block_addr

def INVERTER_STATE_LOOKUP : List (Int × String) :=
  [(0, "Initialization"), (1, "Standby"), (2, "Grid"), (3, "Battery")]

def CHARGE_STATE_LOOKUP : List (Int × String) :=
  [(0, "Idle"), (1, "PV charging"), (2, "Boost charging"), (3, "Float")]

/-- Looking a block up by its address finds it. -/
theorem find?_block_addr {block : Block} (hblock : block ∈ BLOCKS) :
    BLOCKS.find? (fun b => b.addr == block.addr) = some block := by
  revert block
  decide

/-- Every field lies inside its block. -/
theorem field_offset_lt {block : Block} (hblock : block ∈ BLOCKS) {f : Field}
    (hf : f ∈ fields_for block.addr) : f.offset < block.count := by
  revert f block
  decide +kernel

/-- No block decodes two registers into one key. -/
theorem field_keys_nodup {block : Block} (hblock : block ∈ BLOCKS) :
    ((fields_for block.addr).map Field.key).Nodup := by
  revert block
  decide +kernel

end inverter_bridge.srne_map
