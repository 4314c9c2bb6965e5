import InverterBridge.Aggregator.Keys

open Python
open inverter_bridge.modbus inverter_bridge.parsers inverter_bridge.srne_map

namespace inverter_bridge.aggregator

/-- The blocks of one poll: each was decoded, and is stored under its own name. -/
structure PolledBlocks where
  blocks : Blocks
  decoded : ∀ name b, blocks.lookup name = some b → Decoded name b

/-- A poll that got nothing. -/
def PolledBlocks.empty : PolledBlocks := ⟨∅, fun name b h => by simp at h⟩

/-- `out[block.name] = parse_block(block.addr, frame)`. -/
def PolledBlocks.store (out : PolledBlocks) (block : Block) (hblock : block ∈ BLOCKS)
    (frame : ModbusFrame) (parsed : ParsedBlock)
    (hparse : parse_block block.addr frame = .ok parsed) :
    PolledBlocks where
  blocks := out.blocks.insert block.name parsed
  decoded name b hb := by
    by_cases hname : name = block.name
    · rw [hname, AList.lookup_insert, Option.some.injEq] at hb
      exact ⟨block, hblock, hname.symm, frame, hb ▸ hparse⟩
    · rw [AList.lookup_insert_ne hname] at hb
      exact out.decoded name b hb

/-- Dicts that were each decoded are those of a list of polls. -/
theorem exists_polled_list {per_inverter : List Blocks}
    (h : ∀ blocks ∈ per_inverter, ∃ polled : PolledBlocks, polled.blocks = blocks) :
    ∃ polled : List PolledBlocks, polled.map PolledBlocks.blocks = per_inverter := by
  induction per_inverter with
  | nil => exact ⟨[], rfl⟩
  | cons blocks per_inverter ih =>
    rw [List.forall_mem_cons] at h
    obtain ⟨⟨inv, rfl⟩, hrest⟩ := h
    obtain ⟨polled, rfl⟩ := ih hrest
    exact ⟨inv :: polled, rfl⟩

theorem field_ok_of_decoded {name k : String} {b : ParsedBlock} (hdecoded : Decoded name b)
    (hfield : FieldOf name k) : ∃ x, field b k = .ok x := by
  obtain ⟨x, hx⟩ := hdecoded.exists_lookup hfield
  exact ⟨x, by rw [field, hx]⟩

theorem battery_body_ok (inv : PolledBlocks) (acc : BankReadings) (i : Nat) :
    ∃ result, battery_body acc i inv.blocks = .ok result := by
  unfold battery_body
  cases hb : inv.blocks.lookup "battery" with
  | none => exact ⟨_, rfl⟩
  | some b =>
    have hdecoded := inv.decoded "battery" b hb
    obtain ⟨soc, hsoc⟩ := field_ok_of_decoded (k := "battery_state_of_charge") hdecoded (by decide +kernel)
    obtain ⟨v, hv⟩ := field_ok_of_decoded (k := "battery_voltage") hdecoded (by decide +kernel)
    obtain ⟨i_a, hi⟩ := field_ok_of_decoded (k := "battery_current") hdecoded (by decide +kernel)
    simp only [hsoc, hv, hi]
    exact ⟨_, rfl⟩

theorem active_phase_b_ok (inv : PolledBlocks) :
    ∃ x, active_phase_b (inv.blocks.lookup "phase_b") = .ok x := by
  unfold active_phase_b
  cases hb : inv.blocks.lookup "phase_b" with
  | none => exact ⟨0, rfl⟩
  | some b => exact field_ok_of_decoded (inv.decoded "phase_b" b hb) (by decide +kernel)

theorem output_voltage_ok {s : ParsedBlock} (hdecoded : Decoded "state" s)
    (phase_b : Option ParsedBlock) : ∃ values, output_voltage s phase_b = .ok values := by
  obtain ⟨v_l1, hl1⟩ := field_ok_of_decoded (k := "ac_output_voltage_l1") hdecoded (by decide +kernel)
  unfold output_voltage
  cases phase_b.bind fun p => p.fields.lookup "ac_output_voltage_l2" with
  | none => exact ⟨[], rfl⟩
  | some v_l2 => exact ⟨_, by rw [hl1]; rfl⟩

theorem state_body_ok (inv : PolledBlocks) (acc : SiteState) (i : Nat) :
    ∃ result, state_body acc i inv.blocks = .ok result := by
  unfold state_body
  cases hs : inv.blocks.lookup "state" with
  | none => exact ⟨_, rfl⟩
  | some s =>
    have hdecoded := inv.decoded "state" s hs
    have hread : ∀ k ∈ ["load_active_phase_a", "load_apparent_phase_a", "load_percent",
        "ac_output_frequency", "grid_frequency", "grid_voltage_l1", "grid_current_l1",
        "temperature_dc_dc", "temperature_dc_ac", "temperature_transformer", "inverter_state_code",
        "bus_voltage"], ∃ x, field s k = .ok x := by
      intro k hk
      have hfield : ∀ k ∈ ["load_active_phase_a", "load_apparent_phase_a", "load_percent",
        "ac_output_frequency", "grid_frequency", "grid_voltage_l1", "grid_current_l1",
        "temperature_dc_dc", "temperature_dc_ac", "temperature_transformer", "inverter_state_code",
        "bus_voltage"], FieldOf "state" k := by decide +kernel
      exact field_ok_of_decoded hdecoded (hfield k hk)
    simp only [List.forall_mem_cons] at hread
    obtain ⟨⟨_, h₁⟩, ⟨_, h₂⟩, ⟨_, h₃⟩, ⟨_, h₄⟩, ⟨_, h₅⟩, ⟨_, h₆⟩, ⟨_, h₇⟩, ⟨_, h₈⟩, ⟨_, h₉⟩,
      ⟨_, h₁₀⟩, ⟨_, h₁₁⟩, ⟨_, h₁₂⟩, -⟩ := hread
    obtain ⟨active_b, hb⟩ := active_phase_b_ok inv
    obtain ⟨voltage, hv⟩ := output_voltage_ok hdecoded (inv.blocks.lookup "phase_b")
    simp only [h₁, h₂, h₃, h₄, h₅, h₆, h₇, h₈, h₉, h₁₀, h₁₁, h₁₂, hb, hv]
    exact ⟨_, rfl⟩

theorem grid_totals_ok {inv1_state : Option ParsedBlock}
    (hstate : ∀ s, inv1_state = some s → Decoded "state" s) :
    ∃ grid, grid_totals inv1_state = .ok grid := by
  unfold grid_totals
  cases inv1_state with
  | none => exact ⟨[], rfl⟩
  | some s =>
    have hdecoded := hstate s rfl
    obtain ⟨v, hv⟩ := field_ok_of_decoded (k := "grid_voltage_l1") hdecoded (by decide +kernel)
    obtain ⟨f, hf⟩ := field_ok_of_decoded (k := "grid_frequency") hdecoded (by decide +kernel)
    obtain ⟨c, hc⟩ := field_ok_of_decoded (k := "grid_current_l1") hdecoded (by decide +kernel)
    obtain ⟨u, hu⟩ := field_ok_of_decoded (k := "bus_voltage") hdecoded (by decide +kernel)
    simp only [hv, hf, hc, hu]
    exact ⟨_, rfl⟩

theorem decoded_inv1_state (polled : List PolledBlocks) {out out' : Out} {site : SiteState}
    (hloop : for_inverters state_body 1 ⟨none, 0, false⟩ out (polled.map PolledBlocks.blocks) =
      .ok (site, out')) :
    ∀ s, site.inv1_state = some s → Decoded "state" s := by
  refine for_inverters_preserves
    (I := fun acc => ∀ s, acc.inv1_state = some s → Decoded "state" s) ?_ (by simp) hloop
  intro blocks hblocks acc i acc' assigned hacc hbody
  obtain ⟨inv, -, rfl⟩ := List.mem_map.mp hblocks
  unfold state_body at hbody
  cases hs : inv.blocks.lookup "state" with
  | none =>
    simp only [hs, Except.ok.injEq, Prod.mk.injEq] at hbody
    rw [← hbody.1]
    exact hacc
  | some s =>
    simp only [hs, bind_eq_ok_iff] at hbody
    obtain ⟨_, -, _, -, _, -, _, -, _, -, _, -, _, -, _, -, _, -, _, -, _, -, _, -, _, -, _, -,
      hresult⟩ := hbody
    simp only [pure, Except.pure, Except.ok.injEq, Prod.mk.injEq] at hresult
    intro s' hs'
    rw [← hresult.1] at hs'
    simp only at hs'
    split_ifs at hs' with hfirst
    · rw [Option.some.injEq] at hs'
      exact inv.decoded "state" s' (hs' ▸ hs)
    · exact hacc s' hs'

/-- Whatever the polls returned can be aggregated. -/
theorem aggregate_inverters_ok (polled : List PolledBlocks) :
    ∃ out, aggregate_inverters (polled.map PolledBlocks.blocks) = .ok out := by
  have hbattery : ∀ inv ∈ polled.map PolledBlocks.blocks, ∀ acc i,
      ∃ result, battery_body acc i inv = .ok result := by
    intro blocks hblocks acc i
    obtain ⟨inv, -, rfl⟩ := List.mem_map.mp hblocks
    exact battery_body_ok inv acc i
  have hstate : ∀ inv ∈ polled.map PolledBlocks.blocks, ∀ acc i,
      ∃ result, state_body acc i inv = .ok result := by
    intro blocks hblocks acc i
    obtain ⟨inv, -, rfl⟩ := List.mem_map.mp hblocks
    exact state_body_ok inv acc i
  have hpv : ∀ inv ∈ polled.map PolledBlocks.blocks, ∀ acc i,
      ∃ result, pv_body acc i inv = .ok result := fun inv _ acc i => ⟨_, rfl⟩
  have hcold : ∀ inv ∈ polled.map PolledBlocks.blocks, ∀ acc i,
      ∃ result, cold_body acc i inv = .ok result := fun inv _ acc i => ⟨_, rfl⟩
  unfold aggregate_inverters
  obtain ⟨⟨bank, out₁⟩, hout₁⟩ := for_inverters_ok 1 ⟨[], [], []⟩ ∅ _ hbattery
  obtain ⟨⟨site, out₂⟩, hout₂⟩ := for_inverters_ok 1 ⟨none, 0, false⟩
    (Dict.assign out₁ (battery_totals bank)) _ hstate
  obtain ⟨grid, hgrid⟩ := grid_totals_ok (decoded_inv1_state polled hout₂)
  obtain ⟨⟨pv, out₃⟩, hout₃⟩ := for_inverters_ok 1 (0, false)
    (Dict.assign (Dict.assign out₂ (load_totals site out₂)) grid) _ hpv
  obtain ⟨⟨daily_sums, out₄⟩, hout₄⟩ := for_inverters_ok 1 ∅ (Dict.assign out₃ (pv_totals pv)) _ hcold
  exact ⟨Dict.assign out₄ (daily_totals daily_sums),
    by simp only [hout₁, hout₂, hgrid, hout₃, hout₄, bind, Except.bind, pure, Except.pure]⟩

end inverter_bridge.aggregator
