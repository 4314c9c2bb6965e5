import Mathlib.Algebra.Order.BigOperators.Group.List
import InverterBridge.Bms.Aggregator
import InverterBridge.Lib.Statistics

open Statistics

namespace inverter_bridge.bms.aggregator

/-- The fields derived from PIA data, as numbers. -/
def pia_derived (bank : BankAggregates) : List (Option ℚ) :=
  [bank.voltage_avg_V, bank.current_total_A, bank.soc_avg_pct, bank.soc_min_pct,
    bank.soc_spread_pct, bank.power_W, bank.remaining_Ah, bank.nominal_Ah, bank.min_soh_pct,
    bank.max_cycles.map Int.cast, bank.power_charging_W, bank.power_discharging_W,
    bank.charge_current_total_A, bank.discharge_current_total_A, bank.charge_power_total_W,
    bank.discharge_power_total_W]

/-- The aggregates agree with each other and with the packs they are taken over. -/
structure Consistent (packs : List PiaData) (bank : BankAggregates) : Prop where
  power : ∀ power ∈ bank.power_W, ∃ charging ∈ bank.power_charging_W,
    ∃ discharging ∈ bank.power_discharging_W, 0 ≤ charging ∧ 0 ≤ discharging ∧
      (charging = 0 ∨ discharging = 0) ∧ power = charging - discharging
  current : ∀ total ∈ bank.current_total_A, ∃ charge ∈ bank.charge_current_total_A,
    ∃ discharge ∈ bank.discharge_current_total_A, 0 ≤ charge ∧ 0 ≤ discharge ∧
      total = charge - discharge
  pack_power : ∀ charge ∈ bank.charge_power_total_W, ∀ discharge ∈ bank.discharge_power_total_W,
    charge - discharge = (packs.map fun p => p.voltage_V * p.current_A).sum
  soc : ∀ avg ∈ bank.soc_avg_pct, ∃ low ∈ bank.soc_min_pct, ∃ spread ∈ bank.soc_spread_pct,
    low ≤ avg ∧ avg ≤ low + spread

/-! ## The helpers over a list of readings -/

theorem avg_or_none_eq_none_iff {values : List ℚ} : avg_or_none values = none ↔ values = [] := by
  simp [avg_or_none]

theorem sum_or_none_eq_none_iff {values : List ℚ} : sum_or_none values = none ↔ values = [] := by
  simp [sum_or_none]

theorem pack_total_eq_none_iff {pack_pairs : List (ℚ × ℚ)} {values : List ℚ} :
    pack_total pack_pairs values = none ↔ pack_pairs = [] := by
  simp [pack_total]

/-- An empty sum is zero either way. -/
theorem pack_total_of_ne_nil {pack_pairs : List (ℚ × ℚ)} (hpairs : pack_pairs ≠ [])
    (values : List ℚ) : pack_total pack_pairs values = some values.sum := by
  rw [pack_total, if_pos hpairs]
  by_cases hvalues : values = []
  · rw [hvalues]
    rfl
  · rw [if_pos hvalues]

section perm

variable {values values' : List ℚ}

theorem avg_or_none_perm (h : values.Perm values') : avg_or_none values = avg_or_none values' := by
  simp only [avg_or_none, h.sum_eq, h.length_eq, ne_eq, ← List.length_eq_zero_iff]

theorem sum_or_none_perm (h : values.Perm values') : sum_or_none values = sum_or_none values' := by
  simp only [sum_or_none, h.sum_eq, h.length_eq, ne_eq, ← List.length_eq_zero_iff]

theorem pack_total_perm {pairs pairs' : List (ℚ × ℚ)} (hpairs : pairs.Perm pairs')
    (h : values.Perm values') : pack_total pairs values = pack_total pairs' values' := by
  simp only [pack_total, h.sum_eq, h.length_eq, hpairs.length_eq, ne_eq,
    ← List.length_eq_zero_iff]

end perm

/-! ## The aggregates -/

section

variable (pia_by_pack : Dict Nat PiaData) (pib_by_pack : Option (Dict Nat PibData))

theorem values_eq_nil_iff {α : Type} {d : Dict Nat α} : values d = [] ↔ d.entries = [] :=
  List.map_eq_nil_iff

/-- Every field derived from PIA data is there exactly when some pack has data. -/
theorem forall_pia_derived_eq_none_iff :
    ∀ field ∈ pia_derived (aggregate_bank pia_by_pack pib_by_pack),
      field = none ↔ pia_by_pack.entries = [] := by
  rw [← values_eq_nil_iff]
  cases hpacks : values pia_by_pack with
  | nil => simp [pia_derived, aggregate_bank, hpacks, avg_or_none, sum_or_none, min_or_none,
      pack_total]
  | cons p packs => simp [pia_derived, aggregate_bank, hpacks, avg_or_none, sum_or_none,
      min_or_none, pack_total]

/-- The power is split into its two directions. -/
theorem exists_power_split {power : ℚ}
    (hpower : (aggregate_bank pia_by_pack pib_by_pack).power_W = some power) :
    ∃ charging ∈ (aggregate_bank pia_by_pack pib_by_pack).power_charging_W,
      ∃ discharging ∈ (aggregate_bank pia_by_pack pib_by_pack).power_discharging_W,
        0 ≤ charging ∧ 0 ≤ discharging ∧ (charging = 0 ∨ discharging = 0) ∧
          power = charging - discharging := by
  refine ⟨power⁺, ?_, power⁻, ?_, posPart_nonneg power, negPart_nonneg power, ?_, ?_⟩
  · rw [power_charging_eq, hpower]
    rfl
  · rw [power_discharging_eq, hpower]
    rfl
  · obtain h | h := le_total power 0
    · exact .inl (posPart_eq_zero.mpr h)
    · exact .inr (negPart_eq_zero.mpr h)
  · exact (posPart_sub_negPart power).symm

/-- The currents into and out of the packs, each without a sign, make up the total. -/
theorem exists_current_split {total : ℚ}
    (htotal : (aggregate_bank pia_by_pack pib_by_pack).current_total_A = some total) :
    ∃ charge ∈ (aggregate_bank pia_by_pack pib_by_pack).charge_current_total_A,
      ∃ discharge ∈ (aggregate_bank pia_by_pack pib_by_pack).discharge_current_total_A,
        0 ≤ charge ∧ 0 ≤ discharge ∧ total = charge - discharge := by
  have hcurrents : (values pia_by_pack).map PiaData.current_A ≠ [] := by
    intro hnil
    cases (sum_or_none_eq_none_iff.mpr hnil).symm.trans htotal
  have hpairs : ((values pia_by_pack).map fun p => (p.voltage_V, p.current_A)) ≠ [] := by
    intro hnil
    exact hcurrents (List.map_eq_nil_iff.mpr (List.map_eq_nil_iff.mp hnil))
  have hsum : some ((values pia_by_pack).map PiaData.current_A).sum = some total := by
    rw [← htotal]
    exact (if_pos hcurrents).symm
  refine ⟨_, pack_total_of_ne_nil hpairs _, _, pack_total_of_ne_nil hpairs _, ?_, ?_, ?_⟩
  · apply List.sum_nonneg
    intro current hcurrent
    obtain ⟨pair, hpair, rfl⟩ := List.mem_map.mp hcurrent
    exact (of_decide_eq_true (List.mem_filter.mp hpair).2).le
  · apply List.sum_nonneg
    intro current hcurrent
    obtain ⟨pair, hpair, rfl⟩ := List.mem_map.mp hcurrent
    exact neg_nonneg.mpr (of_decide_eq_true (List.mem_filter.mp hpair).2).le
  · rw [← Option.some.inj hsum, ← sum_eq_sum_filter_sub (fun _ h => h), List.map_map]
    rfl

/-- The powers of the packs that charge and of those that discharge make up the sum over
the packs. -/
theorem charge_power_sub_discharge_power {charge discharge : ℚ}
    (hcharge : (aggregate_bank pia_by_pack pib_by_pack).charge_power_total_W = some charge)
    (hdischarge :
      (aggregate_bank pia_by_pack pib_by_pack).discharge_power_total_W = some discharge) :
    charge - discharge = ((values pia_by_pack).map fun p => p.voltage_V * p.current_A).sum := by
  have hpairs : ((values pia_by_pack).map fun p => (p.voltage_V, p.current_A)) ≠ [] := by
    intro hnil
    cases (pack_total_eq_none_iff.mpr hnil).symm.trans hcharge
  have hin := (pack_total_of_ne_nil hpairs _).symm.trans hcharge
  have hout := (pack_total_of_ne_nil hpairs _).symm.trans hdischarge
  have hzero (pair : ℚ × ℚ) (h : pair.2 = 0) : pair.1 * pair.2 = 0 := mul_eq_zero_of_right _ h
  have hsplit := sum_eq_sum_filter_sub hzero
    ((values pia_by_pack).map fun p => (p.voltage_V, p.current_A))
  rw [List.map_map] at hsplit
  rw [← Option.some.inj hin, ← Option.some.inj hout]
  simp only [mul_neg]
  exact hsplit.symm

/-- The average state of charge lies within the spread over the least. -/
theorem soc_avg_mem_spread {avg : ℚ}
    (havg : (aggregate_bank pia_by_pack pib_by_pack).soc_avg_pct = some avg) :
    ∃ low ∈ (aggregate_bank pia_by_pack pib_by_pack).soc_min_pct,
      ∃ spread ∈ (aggregate_bank pia_by_pack pib_by_pack).soc_spread_pct,
        low ≤ avg ∧ avg ≤ low + spread := by
  unfold aggregate_bank at havg ⊢
  dsimp only at havg ⊢
  generalize (values pia_by_pack).map PiaData.soc_pct = socs at havg ⊢
  have hsocs : socs ≠ [] := by
    intro hnil
    cases (avg_or_none_eq_none_iff.mpr hnil).symm.trans havg
  rw [avg_or_none, if_pos hsocs] at havg
  cases havg
  cases hmin : socs.min? with
  | none => exact absurd (List.min?_eq_none_iff.mp hmin) hsocs
  | some low =>
    cases hmax : socs.max? with
    | none => exact absurd (List.max?_eq_none_iff.mp hmax) hsocs
    | some high =>
      refine ⟨low, hmin, high - low, rfl, min_le_average hmin, ?_⟩
      rw [add_sub_cancel]
      exact average_le_max hmax

/-- The aggregates of every bank are consistent. -/
theorem consistent_aggregate_bank :
    Consistent (values pia_by_pack) (aggregate_bank pia_by_pack pib_by_pack) where
  power _ hpower := exists_power_split pia_by_pack pib_by_pack hpower
  current _ htotal := exists_current_split pia_by_pack pib_by_pack htotal
  pack_power _ hcharge _ hdischarge :=
    charge_power_sub_discharge_power pia_by_pack pib_by_pack hcharge hdischarge
  soc _ havg := soc_avg_mem_spread pia_by_pack pib_by_pack havg

variable {pia_by_pack pib_by_pack}

/-- Nothing depends on the order in which the packs are listed. -/
theorem aggregate_bank_perm {pia_by_pack' : Dict Nat PiaData}
    {pib_by_pack' : Option (Dict Nat PibData)}
    (hpia : pia_by_pack.entries.Perm pia_by_pack'.entries)
    (hpib : (pib_by_pack.getD ∅).entries.Perm (pib_by_pack'.getD ∅).entries) :
    aggregate_bank pia_by_pack pib_by_pack = aggregate_bank pia_by_pack' pib_by_pack' := by
  have hpacks : (values pia_by_pack).Perm (values pia_by_pack') := hpia.map _
  have hpairs := hpacks.map fun p => (p.voltage_V, p.current_A)
  have hcharging := hpairs.filter fun pair => 0 < pair.2
  have hdischarging := hpairs.filter fun pair => pair.2 < 0
  have htemps : ((values (pib_by_pack.getD ∅)).flatMap fun pib => pib.cell_temp_C.filterMap id).Perm
      ((values (pib_by_pack'.getD ∅)).flatMap fun pib => pib.cell_temp_C.filterMap id) :=
    (hpib.map _).flatMap_right _
  have hsocs := hpacks.map PiaData.soc_pct
  unfold aggregate_bank
  dsimp only
  rw [avg_or_none_perm (hpacks.map PiaData.voltage_V),
    sum_or_none_perm (hpacks.map PiaData.current_A), avg_or_none_perm hsocs,
    min_or_none, min?_perm hsocs, max?_perm hsocs,
    sum_or_none_perm (hpacks.map PiaData.remaining_Ah),
    sum_or_none_perm (hpacks.map PiaData.nominal_Ah),
    min_or_none, min?_perm (hpacks.map PiaData.soh_pct), max?_perm (hpacks.map PiaData.cycles),
    max_or_none, max?_perm htemps,
    pack_total_perm hpairs (hcharging.map _), pack_total_perm hpairs (hdischarging.map _),
    pack_total_perm hpairs (hcharging.map _), pack_total_perm hpairs (hdischarging.map _)]
  rfl

variable (pia_by_pack pib_by_pack)

/-- Aggregates taken over any packs are there or missing together, agree with each other, and
do not depend on the order of the packs. -/
theorem bank_aggregates_consistent :
    (∀ field ∈ pia_derived (aggregate_bank pia_by_pack pib_by_pack),
      field = none ↔ pia_by_pack.entries = []) ∧
    Consistent (values pia_by_pack) (aggregate_bank pia_by_pack pib_by_pack) ∧
    ∀ (pia_by_pack' : Dict Nat PiaData) (pib_by_pack' : Option (Dict Nat PibData)),
      pia_by_pack.entries.Perm pia_by_pack'.entries →
      (pib_by_pack.getD ∅).entries.Perm (pib_by_pack'.getD ∅).entries →
      aggregate_bank pia_by_pack pib_by_pack = aggregate_bank pia_by_pack' pib_by_pack' := by
  refine ⟨forall_pia_derived_eq_none_iff pia_by_pack pib_by_pack,
    consistent_aggregate_bank pia_by_pack pib_by_pack, ?_⟩
  intro pia_by_pack' pib_by_pack' hpia hpib
  exact aggregate_bank_perm hpia hpib

end

end inverter_bridge.bms.aggregator
