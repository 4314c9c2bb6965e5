import InverterBridge.Aggregator.Aggregate

open Python
open inverter_bridge.parsers inverter_bridge.srne_map

namespace inverter_bridge.aggregator

/-! ## The loops over inverters -/

section

variable {α : Type} {body : α → Nat → Blocks → Except PyError (α × List (String × Value))}
  {acc acc' : α} {out out' : Out} {per_inverter : List Blocks}

/-- A loop over inverters succeeds when its body does for each of them. -/
theorem for_inverters_ok (i : Nat) (acc : α) (out : Out) (per_inverter : List Blocks)
    (hbody : ∀ inv ∈ per_inverter, ∀ acc i, ∃ result, body acc i inv = .ok result) :
    ∃ result, for_inverters body i acc out per_inverter = .ok result := by
  induction per_inverter generalizing i acc out with
  | nil => exact ⟨(acc, out), rfl⟩
  | cons inv per_inverter ih =>
    obtain ⟨⟨acc', assigned⟩, hinv⟩ := hbody inv (by simp) acc i
    obtain ⟨result, hrest⟩ := ih (i + 1) acc'
      (Dict.assign out (assigned.map fun entry => (inverter_key i entry.1, entry.2)))
      fun other hother => hbody other (by simp [hother])
    exact ⟨result, by rw [for_inverters, hinv]; exact hrest⟩

/-- What the body preserves of the accumulator for every inverter, the loop preserves. -/
theorem for_inverters_preserves {I : α → Prop} {i : Nat}
    (hbody : ∀ inv ∈ per_inverter, ∀ acc i acc' assigned,
      I acc → body acc i inv = .ok (acc', assigned) → I acc')
    (hacc : I acc) (hloop : for_inverters body i acc out per_inverter = .ok (acc', out')) :
    I acc' := by
  induction per_inverter generalizing i acc out with
  | nil =>
    rw [for_inverters, Except.ok.injEq, Prod.mk.injEq] at hloop
    exact hloop.1 ▸ hacc
  | cons inv per_inverter ih =>
    rw [for_inverters, bind_eq_ok_iff] at hloop
    obtain ⟨⟨mid, assigned⟩, hinv, hrest⟩ := hloop
    have hmid : I mid := hbody inv (by simp) acc i mid assigned hacc hinv
    exact ih (fun other hother => hbody other (by simp [hother])) hmid hrest

/-- When the body assigns the keys `keys inv` for inverter `inv`, the loop adds
exactly these, under each inverter's number. -/
theorem mem_for_inverters (keys : Blocks → List String) (k : String) {i : Nat}
    (hkeys : ∀ acc i inv acc' assigned, body acc i inv = .ok (acc', assigned) →
      assigned.map Prod.fst = keys inv)
    (hloop : for_inverters body i acc out per_inverter = .ok (acc', out')) :
    k ∈ out' ↔ k ∈ out ∨
      ∃ j inv, per_inverter[j]? = some inv ∧ ∃ key ∈ keys inv, k = inverter_key (i + j) key := by
  induction per_inverter generalizing i acc out with
  | nil =>
    rw [for_inverters, Except.ok.injEq, Prod.mk.injEq] at hloop
    simp [hloop.2]
  | cons inv per_inverter ih =>
    rw [for_inverters, bind_eq_ok_iff] at hloop
    obtain ⟨⟨mid, assigned⟩, hinv, hrest⟩ := hloop
    rw [ih hrest, Dict.mem_assign, List.map_map, or_assoc]
    have hassigned : k ∈ assigned.map (fun entry => inverter_key i entry.1) ↔
        ∃ key ∈ keys inv, k = inverter_key i key := by
      rw [← hkeys acc i inv mid assigned hinv]
      simp [eq_comm]
    refine or_congr_right ?_
    constructor
    · rintro (hnow | ⟨j, later, hlater, key, hkey, rfl⟩)
      · exact ⟨0, inv, rfl, hassigned.mp hnow⟩
      · exact ⟨j + 1, later, hlater, key, hkey, by rw [Nat.add_assoc, Nat.add_comm 1]⟩
    · rintro ⟨j, later, hlater, key, hkey, rfl⟩
      cases j with
      | zero =>
        rw [List.getElem?_cons_zero, Option.some.injEq] at hlater
        exact .inl (hassigned.mpr ⟨key, hlater ▸ hkey, rfl⟩)
      | succ j => exact .inr ⟨j, later, hlater, key, hkey, by rw [Nat.add_assoc, Nat.add_comm 1]⟩

end

/-! ## The keys of one inverter -/

def battery_keys (inv : Blocks) : List String :=
  if (inv.lookup "battery").isSome then ["battery_current", "battery_voltage", "charge_state"] else []

def state_keys (inv : Blocks) : List String :=
  if (inv.lookup "state").isSome then
    ["load_power", "load_power_l1", "load_power_l2", "load_apparent_power_l1"] ++
    (if ((inv.lookup "phase_b").bind fun p => p.fields.lookup "load_apparent_phase_b").isSome then
      ["load_apparent_power_l2", "load_apparent_power"] else ["load_apparent_power"]) ++
    ["load_percentage", "ac_output_frequency", "grid_frequency", "grid_voltage", "grid_power",
      "temperature", "temperature_dc_dc", "temperature_dc_ac", "temperature_transformer",
      "device_mode", "bus_voltage"] ++
    (if ((inv.lookup "phase_b").bind fun p => p.fields.lookup "ac_output_voltage_l2").isSome then
      ["ac_output_voltage"] else [])
  else []

def pv_keys : List String :=
  ["pv_voltage_mppt1", "pv_voltage_mppt2", "pv_current_mppt1", "pv_current_mppt2", "pv_current",
    "pv_power_mppt1", "pv_power_mppt2", "pv_power"]

def cold_keys (inv : Blocks) : List String :=
  (present_readings daily_keys (inv.lookup "daily_stats") ++
    present_readings history_keys (inv.lookup "runtime_ctrs") ++
    present_readings diag_keys (inv.lookup "device_info")).map Prod.fst ++
  if (inv.lookup "faults").isSome then ["fault_bits"] else []

/-- All keys emitted for one inverter, without its number. -/
def emitted_keys (inv : Blocks) : List String :=
  battery_keys inv ++ state_keys inv ++ pv_keys ++ cold_keys inv

theorem keys_battery_body {acc acc' : BankReadings} {i : Nat} {inv : Blocks}
    {assigned : List (String × Value)} (hbody : battery_body acc i inv = .ok (acc', assigned)) :
    assigned.map Prod.fst = battery_keys inv := by
  unfold battery_body at hbody
  unfold battery_keys
  cases hb : inv.lookup "battery" with
  | none =>
    simp only [hb, Except.ok.injEq, Prod.mk.injEq] at hbody
    simp [← hbody.2]
  | some b =>
    simp only [hb, bind_eq_ok_iff] at hbody
    obtain ⟨soc, -, v, -, i_a, -, hresult⟩ := hbody
    simp only [pure, Except.pure, Except.ok.injEq, Prod.mk.injEq] at hresult
    simp [← hresult.2]

theorem keys_apparent_values (apparent_a : ℚ) (phase_b : Option ParsedBlock) :
    (apparent_values apparent_a phase_b).map Prod.fst =
      if (phase_b.bind fun p => p.fields.lookup "load_apparent_phase_b").isSome then
        ["load_apparent_power_l2", "load_apparent_power"] else ["load_apparent_power"] := by
  unfold apparent_values
  cases phase_b.bind fun p => p.fields.lookup "load_apparent_phase_b" <;> rfl

theorem keys_output_voltage {s : ParsedBlock} {phase_b : Option ParsedBlock}
    {values : List (String × Value)} (hvalues : output_voltage s phase_b = .ok values) :
    values.map Prod.fst =
      if (phase_b.bind fun p => p.fields.lookup "ac_output_voltage_l2").isSome then
        ["ac_output_voltage"] else [] := by
  unfold output_voltage at hvalues
  cases hv : phase_b.bind fun p => p.fields.lookup "ac_output_voltage_l2" with
  | none =>
    simp only [hv, Except.ok.injEq] at hvalues
    simp [← hvalues]
  | some v_l2 =>
    simp only [hv, bind_eq_ok_iff] at hvalues
    obtain ⟨v_l1, -, hresult⟩ := hvalues
    simp only [pure, Except.pure, Except.ok.injEq] at hresult
    simp [← hresult]

theorem keys_state_body {acc acc' : SiteState} {i : Nat} {inv : Blocks}
    {assigned : List (String × Value)} (hbody : state_body acc i inv = .ok (acc', assigned)) :
    assigned.map Prod.fst = state_keys inv := by
  unfold state_body at hbody
  unfold state_keys
  cases hs : inv.lookup "state" with
  | none =>
    simp only [hs, Except.ok.injEq, Prod.mk.injEq] at hbody
    simp [← hbody.2]
  | some s =>
    simp only [hs, bind_eq_ok_iff] at hbody
    obtain ⟨active_a, -, active_b, -, apparent_a, -, load_percent, -, ac_freq, -, grid_freq, -,
      grid_v, -, grid_c, -, t₁, -, t₂, -, t₃, -, code, -, bus_v, -, ac_v, hac, hresult⟩ := hbody
    simp only [pure, Except.pure, Except.ok.injEq, Prod.mk.injEq] at hresult
    rw [← hresult.2]
    simp [keys_apparent_values, keys_output_voltage hac]

theorem keys_pv_body {acc acc' : ℚ × Bool} {i : Nat} {inv : Blocks}
    {assigned : List (String × Value)} (hbody : pv_body acc i inv = .ok (acc', assigned)) :
    assigned.map Prod.fst = pv_keys := by
  simp only [pv_body, Except.ok.injEq, Prod.mk.injEq] at hbody
  rw [← hbody.2]
  rfl

theorem keys_cold_body {acc acc' : Dict String ℚ} {i : Nat} {inv : Blocks}
    {assigned : List (String × Value)} (hbody : cold_body acc i inv = .ok (acc', assigned)) :
    assigned.map Prod.fst = cold_keys inv := by
  simp only [cold_body, Except.ok.injEq, Prod.mk.injEq] at hbody
  rw [← hbody.2, cold_keys, List.map_append, List.map_map]
  cases inv.lookup "faults" <;> rfl

/-! ## The keys of the whole site -/

/-- The stages of an aggregation that succeeds. -/
structure Stages (per_inverter : List Blocks) (out : Out) where
  bank : BankReadings
  after_battery : Out
  site : SiteState
  after_state : Out
  grid : List (String × Value)
  pv : ℚ × Bool
  after_pv : Out
  daily_sums : Dict String ℚ
  after_cold : Out
  battery_loop : for_inverters battery_body 1 ⟨[], [], []⟩ ∅ per_inverter =
    .ok (bank, after_battery)
  state_loop : for_inverters state_body 1 ⟨none, 0, false⟩
    (Dict.assign after_battery (battery_totals bank)) per_inverter = .ok (site, after_state)
  grid_eq : grid_totals site.inv1_state = .ok grid
  pv_loop : for_inverters pv_body 1 (0, false)
    (Dict.assign (Dict.assign after_state (load_totals site after_state)) grid) per_inverter =
      .ok (pv, after_pv)
  cold_loop : for_inverters cold_body 1 ∅ (Dict.assign after_pv (pv_totals pv)) per_inverter =
    .ok (daily_sums, after_cold)
  out_eq : out = Dict.assign after_cold (daily_totals daily_sums)

theorem Stages.of_ok {per_inverter : List Blocks} {out : Out}
    (h : aggregate_inverters per_inverter = .ok out) : Nonempty (Stages per_inverter out) := by
  simp only [aggregate_inverters, bind_eq_ok_iff] at h
  obtain ⟨⟨bank, out₁⟩, hbank, ⟨site, out₂⟩, hsite, grid, hgrid, ⟨pv, out₃⟩, hpv,
    ⟨daily_sums, out₄⟩, hdaily, hout⟩ := h
  simp only [pure, Except.pure, Except.ok.injEq] at hout
  exact ⟨⟨bank, out₁, site, out₂, grid, pv, out₃, daily_sums, out₄, hbank, hsite, hgrid, hpv,
    hdaily, hout.symm⟩⟩

namespace Stages

variable {per_inverter : List Blocks} {out : Out} {k : String}

/-- The keys assigned outside of the loops. -/
def site_keys (stages : Stages per_inverter out) : List String :=
  (battery_totals stages.bank ++ load_totals stages.site stages.after_state ++ stages.grid ++
    pv_totals stages.pv ++ daily_totals stages.daily_sums).map Prod.fst

/-- The keys emitted are those of the inverters' sections and those of the site. -/
theorem mem_iff (stages : Stages per_inverter out) :
    k ∈ out ↔ (∃ j inv, per_inverter[j]? = some inv ∧
      ∃ key ∈ emitted_keys inv, k = inverter_key (1 + j) key) ∨ k ∈ stages.site_keys := by
  have hcold := mem_for_inverters cold_keys k (fun _ _ _ _ _ h => keys_cold_body h) stages.cold_loop
  have hpv := mem_for_inverters (fun _ => pv_keys) k (fun _ _ _ _ _ h => keys_pv_body h)
    stages.pv_loop
  have hstate := mem_for_inverters state_keys k (fun _ _ _ _ _ h => keys_state_body h)
    stages.state_loop
  have hbattery := mem_for_inverters battery_keys k (fun _ _ _ _ _ h => keys_battery_body h)
    stages.battery_loop
  have hout : k ∈ out ↔
      k ∈ stages.after_cold ∨ k ∈ (daily_totals stages.daily_sums).map Prod.fst := by
    rw [← Dict.mem_assign, ← stages.out_eq]
  rw [hout, hcold, Dict.mem_assign, hpv, Dict.mem_assign, Dict.mem_assign, hstate, Dict.mem_assign,
    hbattery]
  simp only [AList.notMem_empty, false_or, emitted_keys, site_keys, List.map_append, List.mem_append]
  constructor
  · grind
  · grind

end Stages

end inverter_bridge.aggregator
