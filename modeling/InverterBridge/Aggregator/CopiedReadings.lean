import InverterBridge.Aggregator.InverterSums

open Python
open inverter_bridge.parsers inverter_bridge.srne_map

namespace inverter_bridge.aggregator

/-! ## The readings that are published as they are -/

/-- What the sections copy from the block of this name: the key of a reading and the sensor that
shows it. -/
def copied_readings (name : String) : List (String × String) :=
  match name with
  | "battery" =>
    [("battery_current", "battery_current"), ("battery_voltage", "battery_voltage"),
      ("pv1_voltage", "pv_voltage_mppt1"), ("pv1_current", "pv_current_mppt1")]
  | "state" =>
    [("load_percent", "load_percentage"), ("ac_output_frequency", "ac_output_frequency"),
      ("grid_frequency", "grid_frequency"), ("grid_voltage_l1", "grid_voltage"),
      ("temperature_dc_dc", "temperature_dc_dc"), ("temperature_dc_ac", "temperature_dc_ac"),
      ("temperature_transformer", "temperature_transformer"), ("bus_voltage", "bus_voltage")]
  | "pv2" => [("pv2_voltage", "pv_voltage_mppt2"), ("pv2_current", "pv_current_mppt2")]
  | "daily_stats" => daily_keys.map fun k => (k, k)
  | "runtime_ctrs" => history_keys.map fun k => (k, k)
  | "device_info" => diag_keys.map fun k => (k, k)
  | _ => []

section

variable {inv : PolledBlocks}

theorem battery_values_copied {b : ParsedBlock} (hb : inv.blocks.lookup "battery" = some b) :
    ∀ r ∈ copied_readings "battery",
      (r.2, Value.num (reading_or_zero (some b) r.1)) ∈ inverter_values inv.blocks := by
  obtain ⟨⟨acc', assigned⟩, hbody⟩ := battery_body_ok inv ⟨[], [], []⟩ 1
  have hbattery := battery_body_assignsSame ⟨[], [], []⟩ _ _ _ _ _ hbody
  unfold battery_body at hbody
  simp only [hb, bind_eq_ok_iff] at hbody
  obtain ⟨soc, -, v, hv, i_a, hi, hresult⟩ := hbody
  simp only [pure, Except.pure, Except.ok.injEq, Prod.mk.injEq] at hresult
  rw [inverter_values, ← hbattery, ← hresult.2]
  simp [copied_readings, reading_or_zero_of_field hv, reading_or_zero_of_field hi, section_values,
    pv_body, hb]

theorem state_values_copied {s : ParsedBlock} (hs : inv.blocks.lookup "state" = some s) :
    ∀ r ∈ copied_readings "state",
      (r.2, Value.num (reading_or_zero (some s) r.1)) ∈ inverter_values inv.blocks := by
  obtain ⟨⟨acc', assigned⟩, hbody⟩ := state_body_ok inv ⟨none, 0, false⟩ 1
  have hsubset := state_values_subset hbody
  unfold state_body at hbody
  simp only [hs, bind_eq_ok_iff] at hbody
  obtain ⟨active_a, -, active_b, -, apparent_a, -, load_percent, hpercent, ac_freq, hac, grid_freq,
    hgrid, grid_v, hv, grid_c, -, t₁, h₁, t₂, h₂, t₃, h₃, code, -, bus_v, hbus, ac_v, -,
    hresult⟩ := hbody
  simp only [pure, Except.pure, Except.ok.injEq, Prod.mk.injEq] at hresult
  intro r hr
  apply hsubset
  rw [← hresult.2]
  revert r
  simp [copied_readings, reading_or_zero_of_field hpercent, reading_or_zero_of_field hac,
    reading_or_zero_of_field hgrid, reading_or_zero_of_field hv, reading_or_zero_of_field h₁,
    reading_or_zero_of_field h₂, reading_or_zero_of_field h₃, reading_or_zero_of_field hbus]

theorem pv2_values_copied {b : ParsedBlock} (hb : inv.blocks.lookup "pv2" = some b) :
    ∀ r ∈ copied_readings "pv2",
      (r.2, Value.num (reading_or_zero (some b) r.1)) ∈ inverter_values inv.blocks := by
  simp [copied_readings, inverter_values, section_values, pv_body, hb]

/-- The cold section copies the readings that are there. -/
theorem cold_values_copied {name : String} {keys : List String}
    (hsection : (name, keys) ∈
      [("daily_stats", daily_keys), ("runtime_ctrs", history_keys), ("device_info", diag_keys)])
    {b : ParsedBlock} (hb : inv.blocks.lookup name = some b) {k : String} (hk : k ∈ keys) {x : ℚ}
    (hx : b.fields.lookup k = some x) : (k, Value.num x) ∈ inverter_values inv.blocks := by
  have hread : (k, x) ∈ present_readings keys (inv.blocks.lookup name) :=
    mem_present_readings_iff.mpr ⟨hk, by rw [hb, Option.bind_some, hx]⟩
  have hnum : (k, Value.num x) ∈ (present_readings keys (inv.blocks.lookup name)).map
      fun r => (r.1, Value.num r.2) := List.mem_map.mpr ⟨_, hread, rfl⟩
  simp only [List.mem_cons, Prod.mk.injEq, List.not_mem_nil, or_false] at hsection
  simp only [inverter_values, section_values, cold_body, List.mem_append, List.map_append]
  obtain ⟨rfl, rfl⟩ | ⟨rfl, rfl⟩ | ⟨rfl, rfl⟩ := hsection
  · exact .inr (.inl (.inl (.inl hnum)))
  · exact .inr (.inl (.inl (.inr hnum)))
  · exact .inr (.inl (.inr hnum))

/-- A reading that is copied is published as it was read. -/
theorem last_value_of_copied {name : String} {b : ParsedBlock}
    (hb : inv.blocks.lookup name = some b) {k sensor : String}
    (hcopied : (k, sensor) ∈ copied_readings name) {x : ℚ} (hx : b.fields.lookup k = some x) :
    last_value (inverter_values inv.blocks) sensor = some (.num x) := by
  apply last_value_of_mem
  have hzero : reading_or_zero (some b) k = x := by
    rw [reading_or_zero, field_get, hx, Option.getD_some]
  have hcopies := hcopied
  unfold copied_readings at hcopies
  split at hcopies
  case h_1 => exact hzero ▸ battery_values_copied hb _ hcopied
  case h_2 => exact hzero ▸ state_values_copied hb _ hcopied
  case h_3 => exact hzero ▸ pv2_values_copied hb _ hcopied
  case h_4 | h_5 | h_6 =>
    obtain ⟨_, hk, heq⟩ := List.mem_map.mp hcopies
    cases heq
    exact cold_values_copied (by simp) hb hk hx
  case h_7 => cases hcopies

end

/-- The `i`-th inverter polled is number `i + 1` of what is aggregated. -/
theorem lookup_inverter_key_of_polled {per_inverter : List PolledBlocks} {out : Out}
    (hout : aggregate_inverters (per_inverter.map PolledBlocks.blocks) = .ok out) {i : Nat}
    {polled : PolledBlocks} (hpolled : per_inverter[i]? = some polled) (k : String) :
    out.lookup (inverter_key (i + 1) k) = last_value (inverter_values polled.blocks) k := by
  obtain ⟨stages⟩ := Stages.of_ok hout
  rw [stages.lookup_inverter_key, inverter_number, if_pos (Nat.le_add_left 1 i),
    Nat.add_sub_cancel, List.getElem?_map, hpolled]
  rfl

end inverter_bridge.aggregator
