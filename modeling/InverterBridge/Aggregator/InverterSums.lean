import InverterBridge.Aggregator.DailyTotals
import InverterBridge.Aggregator.InverterValues
import InverterBridge.Aggregator.PowerSigns

open Python
open inverter_bridge.parsers inverter_bridge.srne_map

namespace inverter_bridge.aggregator

/-! ## How many decimals a reading has -/

/-- The scale of the field `k` of the block called `name` has no more than `digits` decimals. -/
def FieldDecimals (name k : String) (digits : Nat) : Prop :=
  ∀ block ∈ BLOCKS, block.name = name → ∀ f ∈ fields_for block.addr, f.key = k →
    (f.scale * 10 ^ digits).den = 1

instance (name k : String) (digits : Nat) : Decidable (FieldDecimals name k digits) :=
  inferInstanceAs (Decidable (∀ block ∈ BLOCKS, block.name = name →
    ∀ f ∈ fields_for block.addr, f.key = k → (f.scale * 10 ^ digits).den = 1))

/-- Such a reading has no more decimals, whatever the register holds: the rounding of
`parse_block` does nothing to it. -/
theorem FieldDecimals.decimals {name k : String} {digits : Nat} (h : FieldDecimals name k digits)
    (hdigits : digits ≤ 4) {b : ParsedBlock} (hdecoded : Decoded name b) {x : ℚ}
    (hx : b.fields.lookup k = some x) : Decimals digits x := by
  obtain ⟨block, hblock, hname, f, hf, hkey, rfl⟩ := hdecoded.exists_field hx
  have hscale : Decimals digits f.scale :=
    ⟨(f.scale * 10 ^ digits).num, (Rat.den_eq_one_iff _).mp (h block hblock hname f hf hkey) |>.symm⟩
  unfold field_value
  dsimp only
  rw [((hscale.intCast_mul _).mono hdigits).py_round_eq]
  exact hscale.intCast_mul _

theorem FieldDecimals.decimals_or_zero {name k : String} {digits : Nat}
    (h : FieldDecimals name k digits) (hdigits : digits ≤ 4) (inv : PolledBlocks) :
    Decimals digits (reading_or_zero (inv.blocks.lookup name) k) := by
  cases hb : inv.blocks.lookup name with
  | none => exact Decimals.zero
  | some b =>
    rw [reading_or_zero, field_get]
    cases hx : b.fields.lookup k with
    | none => exact Decimals.zero
    | some x => exact h.decimals hdigits (inv.decoded name b hb) hx

/-! ## The values of one inverter -/

/-- Every key that the state section can assign. -/
def state_sensors : List String :=
  ["load_power", "load_power_l1", "load_power_l2", "load_apparent_power_l1"] ++
    ["load_apparent_power_l2", "load_apparent_power"] ++
    ["load_percentage", "ac_output_frequency", "grid_frequency", "grid_voltage", "grid_power",
      "temperature", "temperature_dc_dc", "temperature_dc_ac", "temperature_transformer",
      "device_mode", "bus_voltage"] ++ ["ac_output_voltage"]

/-- Every key that the cold section can assign. -/
def cold_sensors : List String := daily_keys ++ history_keys ++ diag_keys ++ ["fault_bits"]

/-- Every key that can be emitted for an inverter. -/
def inverter_sensors : List String :=
  ["battery_current", "battery_voltage", "charge_state"] ++ state_sensors ++ pv_keys ++ cold_sensors

theorem battery_keys_sublist (inv : Blocks) :
    (battery_keys inv).Sublist ["battery_current", "battery_voltage", "charge_state"] := by
  unfold battery_keys
  split_ifs
  · exact List.Sublist.refl _
  · exact List.nil_sublist _

theorem state_keys_sublist (inv : Blocks) : (state_keys inv).Sublist state_sensors := by
  unfold state_keys
  by_cases hs : (inv.lookup "state").isSome
  · rw [if_pos hs]
    refine (((List.Sublist.refl _).append ?_).append (List.Sublist.refl _)).append ?_
    · split_ifs
      · exact List.Sublist.refl _
      · exact (List.Sublist.refl _).cons _
    · split_ifs
      · exact List.Sublist.refl _
      · exact List.nil_sublist _
  · rw [if_neg hs]
    exact List.nil_sublist _

theorem cold_keys_sublist (inv : Blocks) : (cold_keys inv).Sublist cold_sensors := by
  unfold cold_keys
  rw [List.map_append, List.map_append]
  refine (((keys_present_readings_sublist _ _).append (keys_present_readings_sublist _ _)).append
    (keys_present_readings_sublist _ _)).append ?_
  split_ifs
  · exact List.Sublist.refl _
  · exact List.nil_sublist _

theorem emitted_keys_sublist (inv : Blocks) : (emitted_keys inv).Sublist inverter_sensors :=
  (((battery_keys_sublist inv).append (state_keys_sublist inv)).append (List.Sublist.refl _)).append
    (cold_keys_sublist inv)

/-- A key of the state section is emitted by no other. -/
theorem mem_state_keys {inv : Blocks} {k : String} (hk : k ∈ state_sensors)
    (h : k ∈ emitted_keys inv) : k ∈ state_keys inv := by
  have hother : ∀ k ∈ state_sensors, k ∉ ["battery_current", "battery_voltage", "charge_state"] ∧
      k ∉ pv_keys ∧ k ∉ cold_sensors := by decide
  obtain ⟨hbattery, hpv, hcold⟩ := hother k hk
  simp only [emitted_keys, List.mem_append] at h
  obtain ((hmem | hmem) | hmem) | hmem := h
  · exact absurd ((battery_keys_sublist inv).subset hmem) hbattery
  · exact hmem
  · exact absurd hmem hpv
  · exact absurd ((cold_keys_sublist inv).subset hmem) hcold

/-- A daily counter is emitted only by the section that reads it. -/
theorem mem_daily_keys {inv : Blocks} {k : String} (hk : k ∈ daily_keys)
    (h : k ∈ emitted_keys inv) :
    k ∈ (present_readings daily_keys (inv.lookup "daily_stats")).map Prod.fst := by
  have hother : ∀ k ∈ daily_keys, k ∉ ["battery_current", "battery_voltage", "charge_state"] ∧
      k ∉ state_sensors ∧ k ∉ pv_keys ∧ k ∉ history_keys ∧ k ∉ diag_keys ∧ k ≠ "fault_bits" := by
    decide
  obtain ⟨hbattery, hstate, hpv, hhistory, hdiag, hfault⟩ := hother k hk
  simp only [emitted_keys, cold_keys, List.map_append, List.mem_append] at h
  obtain ((hmem | hmem) | hmem) | ((hmem | hmem) | hmem) | hmem := h
  · exact absurd ((battery_keys_sublist inv).subset hmem) hbattery
  · exact absurd ((state_keys_sublist inv).subset hmem) hstate
  · exact absurd hmem hpv
  · exact hmem
  · exact absurd (mem_present_readings hmem).1 hhistory
  · exact absurd (mem_present_readings hmem).1 hdiag
  · split_ifs at hmem
    · exact absurd (List.mem_singleton.mp hmem) hfault
    · cases hmem

/-- No key is assigned twice for one inverter. -/
theorem emitted_keys_nodup (inv : Blocks) : (emitted_keys inv).Nodup :=
  (emitted_keys_sublist inv).nodup (by decide)

section

variable (inv : PolledBlocks)

theorem keys_inverter_values :
    (inverter_values inv.blocks).map Prod.fst = emitted_keys inv.blocks := by
  have hkeys {α : Type} {body : α → Nat → Blocks → Except PyError (α × List (String × Value))}
      {acc₀ : α} (hok : ∃ result, body acc₀ 1 inv.blocks = .ok result) {keys : List String}
      (hassigned : ∀ acc' assigned, body acc₀ 1 inv.blocks = .ok (acc', assigned) →
        assigned.map Prod.fst = keys) :
      (section_values body acc₀ inv.blocks).map Prod.fst = keys := by
    obtain ⟨⟨acc', assigned⟩, hbody⟩ := hok
    rw [section_values, hbody]
    exact hassigned acc' assigned hbody
  rw [inverter_values, List.map_append, List.map_append, List.map_append, emitted_keys,
    hkeys (battery_body_ok inv _ _) fun _ _ => keys_battery_body,
    hkeys (state_body_ok inv _ _) fun _ _ => keys_state_body,
    hkeys ⟨_, rfl⟩ fun _ _ => keys_pv_body, hkeys ⟨_, rfl⟩ fun _ _ => keys_cold_body]

variable {inv}

theorem last_value_of_mem {k : String} {v : Value} (hmem : (k, v) ∈ inverter_values inv.blocks) :
    last_value (inverter_values inv.blocks) k = some v := by
  apply Dict.lookup_assign_of_mem
  · rw [keys_inverter_values]
    exact emitted_keys_nodup inv.blocks
  · exact hmem

theorem last_value_eq_none {k : String} (hk : k ∉ emitted_keys inv.blocks) :
    last_value (inverter_values inv.blocks) k = none := by
  rw [last_value, Dict.lookup_assign_of_not_mem, AList.lookup_empty]
  rwa [keys_inverter_values]

/-! ## What the loops assign and accumulate -/

/-- The active power of an inverter's first leg. -/
def load_l1 (inv : Blocks) : ℚ := reading_or_zero (inv.lookup "state") "load_active_phase_a"

/-- The active power of an inverter's second leg. -/
def load_l2 (inv : Blocks) : ℚ := reading_or_zero (inv.lookup "phase_b") "load_active_phase_b"

/-- Grid voltage times grid current of an inverter. -/
def grid_watts (inv : Blocks) : ℚ :=
  reading_or_zero (inv.lookup "state") "grid_voltage_l1" *
    reading_or_zero (inv.lookup "state") "grid_current_l1"

theorem reading_or_zero_of_field {s : ParsedBlock} {k : String} {x : ℚ} (h : field s k = .ok x) :
    reading_or_zero (some s) k = x := by
  unfold field at h
  split at h
  case h_1 y hy =>
    cases h
    rw [reading_or_zero, field_get, hy, Option.getD_some]
  case h_2 => cases h

theorem active_phase_b_eq {phase_b : Option ParsedBlock} {x : ℚ}
    (h : active_phase_b phase_b = .ok x) : reading_or_zero phase_b "load_active_phase_b" = x := by
  cases phase_b with
  | none =>
    cases h
    rfl
  | some p => exact reading_or_zero_of_field h

/-- What the state loop does with an inverter whose `state` was read. -/
theorem state_body_spec {s : ParsedBlock} (hs : inv.blocks.lookup "state" = some s)
    (acc : SiteState) (i : Nat) :
    ∃ assigned, state_body acc i inv.blocks =
        .ok (⟨if i = 1 then some s else acc.inv1_state,
          acc.site_load_active_total + (load_l1 inv.blocks + load_l2 inv.blocks), true⟩, assigned) ∧
      ("load_power", .num (py_round (load_l1 inv.blocks + load_l2 inv.blocks) 1)) ∈ assigned ∧
      ("load_power_l1", .num (py_round (load_l1 inv.blocks) 1)) ∈ assigned ∧
      ("load_power_l2", .num (py_round (load_l2 inv.blocks) 1)) ∈ assigned ∧
      ("load_apparent_power_l1",
        .num (py_round (reading_or_zero (some s) "load_apparent_phase_a") 1)) ∈ assigned ∧
      apparent_values (reading_or_zero (some s) "load_apparent_phase_a")
        (inv.blocks.lookup "phase_b") ⊆ assigned ∧
      ("grid_power", .num (py_round (grid_watts inv.blocks) 1)) ∈ assigned := by
  obtain ⟨⟨acc', assigned⟩, hbody⟩ := state_body_ok inv acc i
  have hresult := hbody
  unfold state_body at hresult
  simp only [hs, bind_eq_ok_iff] at hresult
  obtain ⟨active_a, ha, active_b, hb, apparent_a, happarent, load_percent, -, ac_freq, -,
    grid_freq, -, grid_v, hv, grid_c, hc, t₁, -, t₂, -, t₃, -, code, -, bus_v, -, ac_v, -,
    hresult⟩ := hresult
  simp only [pure, Except.pure, Except.ok.injEq, Prod.mk.injEq] at hresult
  rw [load_l1, load_l2, grid_watts, hs, reading_or_zero_of_field ha, active_phase_b_eq hb,
    reading_or_zero_of_field happarent, reading_or_zero_of_field hv, reading_or_zero_of_field hc]
  refine ⟨assigned, by rw [hbody, ← hresult.1], ?_⟩
  rw [← hresult.2]
  refine ⟨by simp, by simp, by simp, by simp, fun entry hentry => ?_, by simp⟩
  simp only [List.mem_append]
  exact .inl (.inl (.inr hentry))

/-- The load of an inverter whose `state` was read. -/
def load_active (inv : Blocks) : Option ℚ :=
  (inv.lookup "state").map fun _ => load_l1 inv + load_l2 inv

/-- The state loop adds up the loads of the inverters whose `state` was read. -/
theorem state_loop_total {polled : List PolledBlocks} {i : Nat} {acc site : SiteState}
    {out out' : Out} (hloop : for_inverters state_body i acc out
      (polled.map PolledBlocks.blocks) = .ok (site, out')) :
    site.site_load_active_total = acc.site_load_active_total +
      ((polled.map PolledBlocks.blocks).filterMap load_active).sum := by
  induction polled generalizing i acc out with
  | nil =>
    rw [List.map_nil, for_inverters, Except.ok.injEq, Prod.mk.injEq] at hloop
    simp [hloop.1]
  | cons inv polled ih =>
    rw [List.map_cons, for_inverters, bind_eq_ok_iff] at hloop
    obtain ⟨⟨mid, assigned⟩, hinv, hrest⟩ := hloop
    rw [ih hrest, List.map_cons]
    cases hs : inv.blocks.lookup "state" with
    | none =>
      simp only [state_body, hs, Except.ok.injEq, Prod.mk.injEq] at hinv
      have hnone : load_active inv.blocks = none := by rw [load_active, hs]; rfl
      rw [List.filterMap_cons_none hnone, hinv.1]
    | some s =>
      obtain ⟨values, hbody, -⟩ := state_body_spec hs acc i
      rw [hbody, Except.ok.injEq, Prod.mk.injEq] at hinv
      have hsome : load_active inv.blocks = some (load_l1 inv.blocks + load_l2 inv.blocks) := by
        rw [load_active, hs]
        rfl
      rw [List.filterMap_cons_some hsome, List.sum_cons, ← hinv.1, add_assoc]

/-- The PV power of an inverter's first MPPT. -/
def pv_mppt1 (inv : Blocks) : ℚ := reading_or_zero (inv.lookup "battery") "pv1_power"

/-- The PV power of an inverter's second MPPT, a negative reading being idle. -/
def pv_mppt2 (inv : Blocks) : ℚ :=
  let pv2_raw := reading_or_zero (inv.lookup "pv2") "pv2_power"
  if pv2_raw < 0 then 0 else pv2_raw

theorem pv_loop_total {per_inverter : List Blocks} {i : Nat} {acc pv : ℚ × Bool}
    {out out' : Out} (hloop : for_inverters pv_body i acc out per_inverter = .ok (pv, out')) :
    pv.1 = acc.1 + (per_inverter.map fun inv => pv_mppt1 inv + pv_mppt2 inv).sum := by
  induction per_inverter generalizing i acc out with
  | nil =>
    rw [for_inverters, Except.ok.injEq, Prod.mk.injEq] at hloop
    simp [hloop.1]
  | cons inv per_inverter ih =>
    rw [for_inverters, bind_eq_ok_iff] at hloop
    obtain ⟨⟨mid, assigned⟩, hinv, hrest⟩ := hloop
    simp only [pv_body, Except.ok.injEq, Prod.mk.injEq] at hinv
    rw [ih hrest, List.map_cons, List.sum_cons, ← hinv.1, add_assoc]
    rfl

/-- What is read of the loads and of the MPPTs are whole watts. -/
theorem whole_watts (inv : PolledBlocks) (digits : Nat) :
    Decimals digits (load_l1 inv.blocks) ∧ Decimals digits (load_l2 inv.blocks) ∧
      Decimals digits (pv_mppt1 inv.blocks) ∧ Decimals digits (pv_mppt2 inv.blocks) := by
  have hread {name k : String} (h : FieldDecimals name k 0) :
      Decimals digits (reading_or_zero (inv.blocks.lookup name) k) :=
    (h.decimals_or_zero (Nat.zero_le 4) inv).mono (Nat.zero_le digits)
  refine ⟨hread (by decide +kernel), hread (by decide +kernel), hread (by decide +kernel), ?_⟩
  unfold pv_mppt2
  dsimp only
  split_ifs
  · exact Decimals.zero
  · exact hread (by decide +kernel)

/-! ## What is published for one inverter -/

theorem state_values_subset {acc result : SiteState} {i : Nat} {assigned : List (String × Value)}
    (hbody : state_body acc i inv.blocks = .ok (result, assigned)) :
    assigned ⊆ inverter_values inv.blocks := by
  rw [state_body_assignsSame ⟨none, 0, false⟩ _ _ _ _ _ hbody]
  intro entry hentry
  simp only [inverter_values, List.mem_append]
  exact .inl (.inl (.inr hentry))

/-- Without its `state` nothing of the state section is emitted. -/
theorem last_value_without_state (hs : inv.blocks.lookup "state" = none) {k : String}
    (hk : k ∈ state_sensors) : last_value (inverter_values inv.blocks) k = none := by
  apply last_value_eq_none
  intro hmem
  have hkeys := mem_state_keys hk hmem
  rw [state_keys, hs] at hkeys
  cases hkeys

/-- The load values of an inverter whose `state` was read: rounding does nothing to them. -/
theorem last_value_load {s : ParsedBlock} (hs : inv.blocks.lookup "state" = some s) :
    last_value (inverter_values inv.blocks) "load_power" =
        some (.num (load_l1 inv.blocks + load_l2 inv.blocks)) ∧
      last_value (inverter_values inv.blocks) "load_power_l1" = some (.num (load_l1 inv.blocks)) ∧
      last_value (inverter_values inv.blocks) "load_power_l2" = some (.num (load_l2 inv.blocks)) := by
  obtain ⟨assigned, hbody, htotal, hl1, hl2, -⟩ := state_body_spec hs ⟨none, 0, false⟩ 1
  have hsubset := state_values_subset hbody
  obtain ⟨hdec1, hdec2, -⟩ := whole_watts inv 1
  rw [(hdec1.add hdec2).py_round_eq] at htotal
  rw [hdec1.py_round_eq] at hl1
  rw [hdec2.py_round_eq] at hl2
  exact ⟨last_value_of_mem (hsubset htotal), last_value_of_mem (hsubset hl1),
    last_value_of_mem (hsubset hl2)⟩

/-- The apparent power of an inverter is the sum of its legs; the second leg is there when
`phase_b` was read. -/
theorem last_value_apparent {s : ParsedBlock} (hs : inv.blocks.lookup "state" = some s) :
    ∃ (l1 : ℚ) (legs : List ℚ),
      last_value (inverter_values inv.blocks) "load_apparent_power_l1" = some (.num l1) ∧
      (last_value (inverter_values inv.blocks) "load_apparent_power_l2").toList = legs.map .num ∧
      last_value (inverter_values inv.blocks) "load_apparent_power" = some (.num (l1 + legs.sum)) := by
  obtain ⟨assigned, hbody, -, -, -, hl1, happarent, -⟩ := state_body_spec hs ⟨none, 0, false⟩ 1
  have hsubset := state_values_subset hbody
  have hdec1 : Decimals 1 (reading_or_zero (some s) "load_apparent_phase_a") := by
    have hfield : FieldDecimals "state" "load_apparent_phase_a" 0 := by decide +kernel
    rw [← hs]
    exact (hfield.decimals_or_zero (by decide) inv).mono (by decide)
  rw [hdec1.py_round_eq] at hl1
  cases hb : (inv.blocks.lookup "phase_b").bind fun p =>
      p.fields.lookup "load_apparent_phase_b" with
  | none =>
    have hno : "load_apparent_power_l2" ∉ emitted_keys inv.blocks := by
      intro hmem
      have hkeys := mem_state_keys (by decide) hmem
      revert hkeys
      simp only [state_keys, hs, hb, Option.isSome_some, if_true, Option.isSome_none,
        Bool.false_eq_true, if_false]
      split_ifs <;> decide
    rw [apparent_values, hb, hdec1.py_round_eq] at happarent
    refine ⟨_, [], last_value_of_mem (hsubset hl1), by rw [last_value_eq_none hno]; rfl, ?_⟩
    rw [List.sum_nil, add_zero]
    exact last_value_of_mem (hsubset (happarent List.mem_cons_self))
  | some apparent_b =>
    obtain ⟨p, hp, hread⟩ := Option.bind_eq_some_iff.mp hb
    have hfield : FieldDecimals "phase_b" "load_apparent_phase_b" 0 := by decide +kernel
    have hdec2 : Decimals 1 apparent_b :=
      (hfield.decimals (by decide) (inv.decoded "phase_b" p hp) hread).mono (by decide)
    rw [apparent_values, hb] at happarent
    dsimp only at happarent
    rw [hdec2.py_round_eq, (hdec1.add hdec2).py_round_eq] at happarent
    refine ⟨_, [apparent_b], last_value_of_mem (hsubset hl1), ?_, ?_⟩
    · rw [last_value_of_mem (hsubset (happarent List.mem_cons_self))]
      rfl
    · rw [List.sum_singleton]
      exact last_value_of_mem (hsubset (happarent (List.mem_cons_of_mem _ List.mem_cons_self)))

/-- The PV values of an inverter. -/
theorem last_value_pv :
    last_value (inverter_values inv.blocks) "pv_power" =
        some (.num (pv_mppt1 inv.blocks + pv_mppt2 inv.blocks)) ∧
      last_value (inverter_values inv.blocks) "pv_power_mppt1" = some (.num (pv_mppt1 inv.blocks)) ∧
      last_value (inverter_values inv.blocks) "pv_power_mppt2" =
        some (.num (pv_mppt2 inv.blocks)) := by
  obtain ⟨-, -, hdec1, hdec2⟩ := whole_watts inv 1
  have hvalues {entry : String × Value}
      (hentry : entry ∈ section_values pv_body (0, false) inv.blocks) :
      entry ∈ inverter_values inv.blocks := by
    simp only [inverter_values, List.mem_append]
    exact .inl (.inr hentry)
  have hpower : ("pv_power", .num (py_round (pv_mppt1 inv.blocks + pv_mppt2 inv.blocks) 1)) ∈
      section_values pv_body (0, false) inv.blocks := by
    simp [section_values, pv_body, pv_mppt1, pv_mppt2]
  have hmppt1 : ("pv_power_mppt1", .num (py_round (pv_mppt1 inv.blocks) 1)) ∈
      section_values pv_body (0, false) inv.blocks := by
    simp [section_values, pv_body, pv_mppt1]
  have hmppt2 : ("pv_power_mppt2", .num (py_round (pv_mppt2 inv.blocks) 1)) ∈
      section_values pv_body (0, false) inv.blocks := by
    simp [section_values, pv_body, pv_mppt2]
  rw [(hdec1.add hdec2).py_round_eq] at hpower
  rw [hdec1.py_round_eq] at hmppt1
  rw [hdec2.py_round_eq] at hmppt2
  exact ⟨last_value_of_mem (hvalues hpower), last_value_of_mem (hvalues hmppt1),
    last_value_of_mem (hvalues hmppt2)⟩

/-- A daily counter is published as it was read. -/
theorem last_value_daily {k : String} (hk : k ∈ daily_keys) :
    last_value (inverter_values inv.blocks) k = (daily_reading k inv.blocks).map .num := by
  cases hread : daily_reading k inv.blocks with
  | none =>
    apply last_value_eq_none
    intro hmem
    obtain ⟨⟨key, v⟩, hv, rfl⟩ := List.mem_map.mp (mem_daily_keys hk hmem)
    rw [daily_reading, (mem_present_readings_iff.mp hv).2] at hread
    cases hread
  | some v =>
    apply last_value_of_mem
    have hmem : (k, v) ∈ present_readings daily_keys (inv.blocks.lookup "daily_stats") :=
      mem_present_readings_iff.mpr ⟨hk, hread⟩
    simp only [inverter_values, section_values, cold_body, List.mem_append, List.map_append]
    exact .inr (.inl (.inl (.inl (List.mem_map.mpr ⟨_, hmem, rfl⟩))))

end

end inverter_bridge.aggregator
