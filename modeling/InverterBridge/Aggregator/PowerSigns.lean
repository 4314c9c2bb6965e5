import InverterBridge.Aggregator.InverterValues

open Python
open inverter_bridge.parsers inverter_bridge.srne_map

namespace inverter_bridge.aggregator

/-! ## Readings without a sign -/

/-- The register map decodes no sign into the field `k` of the block called `name`. -/
def Unsigned (name k : String) : Prop :=
  ∀ block ∈ BLOCKS, block.name = name → ∀ f ∈ fields_for block.addr, f.key = k →
    f.signed = false ∧ 0 ≤ f.scale

instance (name k : String) : Decidable (Unsigned name k) :=
  inferInstanceAs (Decidable (∀ block ∈ BLOCKS, block.name = name →
    ∀ f ∈ fields_for block.addr, f.key = k → f.signed = false ∧ 0 ≤ f.scale))

theorem field_value_nonneg {f : Field} (hsigned : f.signed = false) (hscale : 0 ≤ f.scale)
    (raw : UInt16) : 0 ≤ field_value f raw := by
  rw [field_value, hsigned]
  apply py_round_nonneg
  exact mul_nonneg (by simp) hscale

/-- Whatever the registers hold, such a reading is not negative. -/
theorem Unsigned.nonneg {name k : String} (hunsigned : Unsigned name k) {b : ParsedBlock}
    (hdecoded : Decoded name b) {x : ℚ} (hx : b.fields.lookup k = some x) : 0 ≤ x := by
  obtain ⟨block, hblock, hname, f, hf, hkey, rfl⟩ := hdecoded.exists_field hx
  obtain ⟨hsigned, hscale⟩ := hunsigned block hblock hname f hf hkey
  exact field_value_nonneg hsigned hscale _

theorem Unsigned.field_nonneg {name k : String} (hunsigned : Unsigned name k) {b : ParsedBlock}
    (hdecoded : Decoded name b) {x : ℚ} (hx : field b k = .ok x) : 0 ≤ x := by
  apply hunsigned.nonneg hdecoded
  unfold field at hx
  split at hx
  case h_1 y hy =>
    cases hx
    exact hy
  case h_2 => cases hx

theorem Unsigned.reading_or_zero_nonneg {name k : String} (hunsigned : Unsigned name k)
    (inv : PolledBlocks) : 0 ≤ reading_or_zero (inv.blocks.lookup name) k := by
  cases hb : inv.blocks.lookup name with
  | none => exact le_refl 0
  | some b =>
    rw [reading_or_zero, field_get]
    cases hx : b.fields.lookup k with
    | none => exact le_refl 0
    | some x => exact hunsigned.nonneg (inv.decoded name b hb) hx

/-! ## The site's values -/

/-- The loops over inverters leave every other key alone. -/
theorem lookup_for_inverters {α : Type}
    {body : α → Nat → Blocks → Except PyError (α × List (String × Value))} {i : Nat}
    {acc acc' : α} {out out' : Out} {per_inverter : List Blocks} {k : String}
    (hk : ¬ "inverter".toList ++ ['_'] <+: k.toList)
    (hloop : for_inverters body i acc out per_inverter = .ok (acc', out')) :
    out'.lookup k = out.lookup k := by
  induction per_inverter generalizing i acc out with
  | nil =>
    rw [for_inverters, Except.ok.injEq, Prod.mk.injEq] at hloop
    rw [hloop.2]
  | cons inv per_inverter ih =>
    rw [for_inverters, bind_eq_ok_iff] at hloop
    obtain ⟨⟨mid, assigned⟩, -, hrest⟩ := hloop
    rw [ih hrest]
    apply Dict.lookup_assign_of_not_mem
    rw [List.map_map, List.mem_map]
    rintro ⟨entry, -, heq⟩
    exact Text.ne_numbered hk i entry.1 heq.symm

namespace Stages

variable {per_inverter : List Blocks} {out : Out}

/-- The values assigned outside of the loops. -/
def site_values (stages : Stages per_inverter out) : List (String × Value) :=
  battery_totals stages.bank ++ load_totals stages.site stages.after_state ++ stages.grid ++
    pv_totals stages.pv ++ daily_totals stages.daily_sums

/-- What is published for the site is what its sections assign. -/
theorem lookup_site_key (stages : Stages per_inverter out) {k : String}
    (hk : ¬ "inverter".toList ++ ['_'] <+: k.toList) :
    out.lookup k = last_value stages.site_values k := by
  have hout : out.lookup k =
      (Dict.assign stages.after_cold (daily_totals stages.daily_sums)).lookup k :=
    congrArg (AList.lookup k) stages.out_eq
  have hassign (before : Out) (values : List (String × Value)) :
      (Dict.assign before values).lookup k = (last_value values k).or (before.lookup k) :=
    Dict.lookup_assign before values k
  rw [hout, hassign, lookup_for_inverters hk stages.cold_loop, hassign,
    lookup_for_inverters hk stages.pv_loop, hassign, hassign,
    lookup_for_inverters hk stages.state_loop, hassign,
    lookup_for_inverters hk stages.battery_loop, AList.lookup_empty, Option.or_none,
    site_values, last_value_append, last_value_append, last_value_append, last_value_append]

theorem mem_site_values (stages : Stages per_inverter out) {k : String} {v : Value}
    (hk : ¬ "inverter".toList ++ ['_'] <+: k.toList) (hv : out.lookup k = some v) :
    (k, v) ∈ stages.site_values := by
  rw [stages.lookup_site_key hk] at hv
  obtain hempty | hmem := Dict.lookup_or_mem_of_lookup_assign hv
  · cases hempty
  · exact hmem

end Stages

/-! ## The powers the integrator takes for non-negative -/

/-- A power has no sign: a key other than these three, or a number that is not negative. -/
def NonNegPower (entry : String × Value) : Prop :=
  entry.1 ∈ ["load_power", "pv_power", "grid_power"] → ∃ x, entry.2 = .num x ∧ 0 ≤ x

theorem nonNegPower_num {k : String} {x : ℚ} (hx : 0 ≤ x) : NonNegPower (k, .num x) :=
  fun _ => ⟨x, rfl, hx⟩

theorem nonNegPower_of_not_mem {k : String} {v : Value}
    (hk : k ∉ ["load_power", "pv_power", "grid_power"]) : NonNegPower (k, v) :=
  fun hmem => absurd hmem hk

section

variable {polled : List PolledBlocks} {out : Out}

theorem battery_totals_nonNegPower (acc : BankReadings) :
    ∀ entry ∈ battery_totals acc, NonNegPower entry := by
  unfold battery_totals
  split_ifs
  · simp only [List.forall_mem_cons]
    exact ⟨nonNegPower_of_not_mem (by decide), nonNegPower_of_not_mem (by decide),
      nonNegPower_of_not_mem (by decide), nofun⟩
  · nofun

theorem daily_totals_nonNegPower (stages : Stages (polled.map PolledBlocks.blocks) out) :
    ∀ entry ∈ daily_totals stages.daily_sums, NonNegPower entry := by
  intro entry hentry
  have hkey := (stages.exists_daily_stats (keys_daily_totals.mp (List.mem_map_of_mem hentry))).1
  have hother : ∀ k ∈ daily_keys, k ∉ ["load_power", "pv_power", "grid_power"] := by decide
  exact nonNegPower_of_not_mem (hother _ hkey)

/-- The load registers of both phases have no sign. -/
theorem site_load_nonneg (stages : Stages (polled.map PolledBlocks.blocks) out) :
    0 ≤ stages.site.site_load_active_total := by
  refine for_inverters_preserves (I := fun acc => 0 ≤ acc.site_load_active_total) ?_ (le_refl 0)
    stages.state_loop
  intro blocks hblocks acc i acc' assigned hacc hbody
  obtain ⟨inv, -, rfl⟩ := List.mem_map.mp hblocks
  unfold state_body at hbody
  cases hs : inv.blocks.lookup "state" with
  | none =>
    simp only [hs, Except.ok.injEq, Prod.mk.injEq] at hbody
    exact hbody.1 ▸ hacc
  | some s =>
    simp only [hs, bind_eq_ok_iff] at hbody
    obtain ⟨active_a, ha, active_b, hb, _, -, _, -, _, -, _, -, _, -, _, -, _, -, _, -, _, -, _, -,
      _, -, _, -, hresult⟩ := hbody
    simp only [pure, Except.pure, Except.ok.injEq, Prod.mk.injEq] at hresult
    rw [← hresult.1]
    have hphase_a : Unsigned "state" "load_active_phase_a" := by decide +kernel
    have hphase_b : Unsigned "phase_b" "load_active_phase_b" := by decide +kernel
    have ha_nonneg : 0 ≤ active_a := hphase_a.field_nonneg (inv.decoded "state" s hs) ha
    have hb_nonneg : 0 ≤ active_b := by
      unfold active_phase_b at hb
      cases hp : inv.blocks.lookup "phase_b" with
      | none =>
        rw [hp] at hb
        cases hb
        exact le_refl 0
      | some p =>
        rw [hp] at hb
        exact hphase_b.field_nonneg (inv.decoded "phase_b" p hp) hb
    exact add_nonneg hacc (add_nonneg ha_nonneg hb_nonneg)

theorem load_totals_nonNegPower (stages : Stages (polled.map PolledBlocks.blocks) out) :
    ∀ entry ∈ load_totals stages.site stages.after_state, NonNegPower entry := by
  unfold load_totals
  split_ifs
  · rw [List.forall_mem_cons]
    refine ⟨nonNegPower_num (py_round_nonneg 1 (site_load_nonneg stages)), ?_⟩
    split
    · rw [List.forall_mem_singleton]
      exact nonNegPower_of_not_mem (by decide)
    · nofun
  · nofun

/-- Neither have the grid registers: the product of voltage and current cannot be negative. -/
theorem grid_nonNegPower (stages : Stages (polled.map PolledBlocks.blocks) out) :
    ∀ entry ∈ stages.grid, NonNegPower entry := by
  have hgrid := stages.grid_eq
  unfold grid_totals at hgrid
  cases hinv1 : stages.site.inv1_state with
  | none =>
    rw [hinv1, Except.ok.injEq] at hgrid
    rw [← hgrid]
    nofun
  | some s =>
    have hdecoded := decoded_inv1_state polled stages.state_loop s hinv1
    simp only [hinv1, bind_eq_ok_iff] at hgrid
    obtain ⟨grid_voltage, hv, grid_frequency, -, grid_current, hc, bus_voltage, -, hresult⟩ := hgrid
    simp only [pure, Except.pure, Except.ok.injEq] at hresult
    have hvoltage : Unsigned "state" "grid_voltage_l1" := by decide +kernel
    have hcurrent : Unsigned "state" "grid_current_l1" := by decide +kernel
    have hv_nonneg : 0 ≤ grid_voltage := hvoltage.field_nonneg hdecoded hv
    have hc_nonneg : 0 ≤ grid_current := hcurrent.field_nonneg hdecoded hc
    rw [← hresult]
    simp only [List.forall_mem_cons]
    exact ⟨nonNegPower_of_not_mem (by decide), nonNegPower_of_not_mem (by decide),
      nonNegPower_num (py_round_nonneg 1 (mul_nonneg hv_nonneg hc_nonneg)),
      nonNegPower_of_not_mem (by decide), nofun⟩

/-- The first MPPT register has no sign, and the second is clamped. -/
theorem pv_nonneg (stages : Stages (polled.map PolledBlocks.blocks) out) : 0 ≤ stages.pv.1 := by
  refine for_inverters_preserves (I := fun acc : ℚ × Bool => 0 ≤ acc.1) ?_ (le_refl 0) stages.pv_loop
  intro blocks hblocks acc i acc' assigned hacc hbody
  obtain ⟨inv, -, rfl⟩ := List.mem_map.mp hblocks
  simp only [pv_body, Except.ok.injEq, Prod.mk.injEq] at hbody
  rw [← hbody.1]
  have hpv1 : Unsigned "battery" "pv1_power" := by decide +kernel
  have hpv1_nonneg := hpv1.reading_or_zero_nonneg inv
  have hclamp : ∀ raw : ℚ, 0 ≤ if raw < 0 then 0 else raw := by
    intro raw
    split_ifs with hneg
    · exact le_refl 0
    · exact not_lt.mp hneg
  exact add_nonneg hacc (add_nonneg hpv1_nonneg (hclamp _))

theorem pv_totals_nonNegPower (stages : Stages (polled.map PolledBlocks.blocks) out) :
    ∀ entry ∈ pv_totals stages.pv, NonNegPower entry := by
  unfold pv_totals
  split_ifs
  · rw [List.forall_mem_singleton]
    exact nonNegPower_num (py_round_nonneg 1 (pv_nonneg stages))
  · nofun

/-- Load, PV and grid power are never negative, whatever the registers hold. -/
theorem power_nonneg (hout : aggregate_inverters (polled.map PolledBlocks.blocks) = .ok out)
    {k : String} (hk : k ∈ ["load_power", "pv_power", "grid_power"]) {v : Value}
    (hv : out.lookup k = some v) : ∃ x, v = .num x ∧ 0 ≤ x := by
  obtain ⟨stages⟩ := Stages.of_ok hout
  have hsite : ∀ k ∈ ["load_power", "pv_power", "grid_power"],
      ¬ "inverter".toList ++ ['_'] <+: k.toList := by decide
  have hmem := stages.mem_site_values (hsite k hk) hv
  simp only [Stages.site_values, List.mem_append] at hmem
  have hpower : NonNegPower (k, v) := by
    obtain (((hmem | hmem) | hmem) | hmem) | hmem := hmem
    · exact battery_totals_nonNegPower _ _ hmem
    · exact load_totals_nonNegPower stages _ hmem
    · exact grid_nonNegPower stages _ hmem
    · exact pv_totals_nonNegPower stages _ hmem
    · exact daily_totals_nonNegPower stages _ hmem
  exact hpower hk

end

end inverter_bridge.aggregator
