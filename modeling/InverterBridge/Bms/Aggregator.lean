import Mathlib.Algebra.Order.Group.PosPart
import Mathlib.Data.Rat.Defs
import Mathlib.Algebra.Order.Ring.Rat
import InverterBridge.Lib.Dict

namespace inverter_bridge.bms.aggregator

/-- A decoded PIA response, as far as it is aggregated. -/
structure PiaData where
  voltage_V : ℚ
  /-- Positive when charging. -/
  current_A : ℚ
  remaining_Ah : ℚ
  nominal_Ah : ℚ
  soc_pct : ℚ
  soh_pct : ℚ
  cycles : Int

/-- A decoded PIB response, as far as it is aggregated. -/
structure PibData where
  cell_temp_C : List (Option ℚ)

/-- The aggregates of the bank. -/
structure BankAggregates where
  voltage_avg_V : Option ℚ
  current_total_A : Option ℚ
  soc_avg_pct : Option ℚ
  soc_min_pct : Option ℚ
  soc_spread_pct : Option ℚ
  power_W : Option ℚ
  remaining_Ah : Option ℚ
  nominal_Ah : Option ℚ
  min_soh_pct : Option ℚ
  max_cycles : Option Int
  max_cell_temp_C : Option ℚ
  power_charging_W : Option ℚ
  power_discharging_W : Option ℚ
  charge_current_total_A : Option ℚ
  discharge_current_total_A : Option ℚ
  charge_power_total_W : Option ℚ
  discharge_power_total_W : Option ℚ

/-- `_avg_or_none(values)`. -/
def avg_or_none (values : List ℚ) : Option ℚ :=
  if values ≠ [] then some (values.sum / values.length) else none

/-- `_sum_or_none(values)`. -/
def sum_or_none (values : List ℚ) : Option ℚ := if values ≠ [] then some values.sum else none

/-- `_max_or_none(values)`. -/
def max_or_none (values : List ℚ) : Option ℚ := values.max?

/-- `_min_or_none(values)`. -/
def min_or_none (values : List ℚ) : Option ℚ := values.min?

/-- `d.values()`. -/
def values {α : Type} (d : Dict Nat α) : List α := d.entries.map fun entry => entry.2

/-- `sum(values) if values else 0.0` over the packs with data, and nothing without any. -/
def pack_total (pack_pairs : List (ℚ × ℚ)) (values : List ℚ) : Option ℚ :=
  if pack_pairs ≠ [] then some (if values ≠ [] then values.sum else 0) else none

/-- `aggregate_bank(pia_by_pack, pib_by_pack)`. -/
def aggregate_bank (pia_by_pack : Dict Nat PiaData) (pib_by_pack : Option (Dict Nat PibData)) :
    BankAggregates :=
  let pib_by_pack := pib_by_pack.getD ∅
  let packs := values pia_by_pack
  let socs := packs.map PiaData.soc_pct
  let voltage_avg := avg_or_none (packs.map PiaData.voltage_V)
  let current_total := sum_or_none (packs.map PiaData.current_A)
  let power := do return (← voltage_avg) * (← current_total)
  let pack_pairs := packs.map fun p => (p.voltage_V, p.current_A)
  let charging := pack_pairs.filter fun pair => 0 < pair.2
  let discharging := pack_pairs.filter fun pair => pair.2 < 0
  let cell_temps := (values pib_by_pack).flatMap fun pib => pib.cell_temp_C.filterMap id
  { voltage_avg_V := voltage_avg
    current_total_A := current_total
    soc_avg_pct := avg_or_none socs
    soc_min_pct := min_or_none socs
    soc_spread_pct := do return (← socs.max?) - (← socs.min?)
    power_W := power
    remaining_Ah := sum_or_none (packs.map PiaData.remaining_Ah)
    nominal_Ah := sum_or_none (packs.map PiaData.nominal_Ah)
    min_soh_pct := min_or_none (packs.map PiaData.soh_pct)
    max_cycles := (packs.map PiaData.cycles).max?
    max_cell_temp_C := max_or_none cell_temps
    power_charging_W := power.map fun power => if 0 < power then power else 0
    power_discharging_W := power.map fun power => if power < 0 then -power else 0
    charge_current_total_A := pack_total pack_pairs (charging.map fun pair => pair.2)
    discharge_current_total_A := pack_total pack_pairs (discharging.map fun pair => -pair.2)
    charge_power_total_W := pack_total pack_pairs (charging.map fun pair => pair.1 * pair.2)
    discharge_power_total_W := pack_total pack_pairs (discharging.map fun pair => pair.1 * -pair.2) }

section

variable (pia_by_pack : Dict Nat PiaData) (pib_by_pack : Option (Dict Nat PibData))

/-- The power is split by its sign. -/
theorem power_charging_eq : (aggregate_bank pia_by_pack pib_by_pack).power_charging_W =
    (aggregate_bank pia_by_pack pib_by_pack).power_W.map posPart := by
  apply congrArg (Option.map · _)
  funext power
  exact posPart_eq_ite_lt.symm

theorem power_discharging_eq : (aggregate_bank pia_by_pack pib_by_pack).power_discharging_W =
    (aggregate_bank pia_by_pack pib_by_pack).power_W.map negPart := by
  apply congrArg (Option.map · _)
  funext power
  exact negPart_eq_ite_lt.symm

/-- There is power as soon as there is a pack. -/
theorem power_W_eq_none_iff :
    (aggregate_bank pia_by_pack pib_by_pack).power_W = none ↔ pia_by_pack.entries = [] := by
  unfold aggregate_bank avg_or_none sum_or_none values
  cases pia_by_pack.entries with
  | nil => simp
  | cons entry entries => simp

end

end inverter_bridge.bms.aggregator
