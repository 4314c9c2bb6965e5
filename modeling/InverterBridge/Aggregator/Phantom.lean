import InverterBridge.Aggregator.Keys

open Python
open inverter_bridge.parsers inverter_bridge.srne_map

namespace inverter_bridge.aggregator

/-- The blocks whose registers the value `inverter_<i>_<key>` is computed from. -/
def derived_from (key : String) : List String :=
  if key ∈ ["battery_current", "battery_voltage", "charge_state", "pv_voltage_mppt1",
    "pv_current_mppt1", "pv_power_mppt1"] then ["battery"]
  else if key ∈ ["pv_voltage_mppt2", "pv_current_mppt2", "pv_power_mppt2"] then ["pv2"]
  else if key ∈ ["pv_current", "pv_power"] then ["battery", "pv2"]
  else if key ∈ ["load_power", "load_apparent_power", "ac_output_voltage"] then ["state", "phase_b"]
  else if key ∈ ["load_power_l2", "load_apparent_power_l2"] then ["phase_b"]
  else if key ∈ ["load_power_l1", "load_apparent_power_l1", "load_percentage", "ac_output_frequency",
    "grid_frequency", "grid_voltage", "grid_power", "temperature", "temperature_dc_dc",
    "temperature_dc_ac", "temperature_transformer", "device_mode", "bus_voltage"] then ["state"]
  else if key ∈ daily_keys then ["daily_stats"]
  else if key ∈ history_keys then ["runtime_ctrs"]
  else if key ∈ diag_keys then ["device_info"]
  else if key = "fault_bits" then ["faults"]
  else []

/-- The blocks whose registers the site value `key` is computed from. -/
def site_derived_from (key : String) : List String :=
  if key ∈ ["battery_state_of_charge", "battery_voltage", "battery_power"] then ["battery"]
  else if key = "load_power" then ["state", "phase_b"]
  else if key ∈ ["mode", "grid_voltage", "grid_frequency", "grid_power", "bus_voltage"] then ["state"]
  else if key = "pv_power" then ["battery", "pv2"]
  else if key ∈ daily_keys then ["daily_stats"]
  else []

/-- Every value emitted for an inverter has a block of that inverter behind it. -/
def NoPhantomReadings (per_inverter : List Blocks) (out : Out) : Prop :=
  ∀ i key, inverter_key i key ∈ out →
    ∃ j inv, i = j + 1 ∧ per_inverter[j]? = some inv ∧ ∃ name ∈ derived_from key, name ∈ inv

/-- An inverter whose blocks are enough for the values the aggregator always emits:
both MPPT blocks, and the second phase when the first is there. -/
structure CoversEmitted (inv : Blocks) : Prop where
  battery : "battery" ∈ inv
  pv2 : "pv2" ∈ inv
  phase_b : "state" ∈ inv → "phase_b" ∈ inv

/-! ## What each section derives its keys from -/

theorem mem_present_readings {keys : List String} {block : Option ParsedBlock} {k : String}
    (hk : k ∈ (present_readings keys block).map Prod.fst) : k ∈ keys ∧ block.isSome := by
  unfold present_readings at hk
  cases block with
  | none => simp at hk
  | some b =>
    simp only [List.mem_map, List.mem_filterMap, Option.map_eq_some_iff] at hk
    obtain ⟨reading, ⟨key, hkey, v, -, rfl⟩, rfl⟩ := hk
    exact ⟨hkey, rfl⟩

theorem battery_keys_derived {inv : Blocks} {key : String} (hkey : key ∈ battery_keys inv) :
    ∃ name ∈ derived_from key, name ∈ inv := by
  unfold battery_keys at hkey
  split_ifs at hkey with hb
  · have hderived : ∀ key ∈ ["battery_current", "battery_voltage", "charge_state"],
        "battery" ∈ derived_from key := by decide
    exact ⟨"battery", hderived key hkey, AList.lookup_isSome.mp hb⟩
  · cases hkey

theorem mem_of_bind_isSome {inv : Blocks} {name k : String}
    (h : ((inv.lookup name).bind fun b => b.fields.lookup k).isSome) : name ∈ inv := by
  cases hb : inv.lookup name with
  | none => simp [hb] at h
  | some b => exact Dict.mem_iff_lookup.mpr ⟨b, hb⟩

/-- The state section has its block behind it, except for the second phase. -/
theorem state_keys_derived {inv : Blocks} {key : String} (hkey : key ∈ state_keys inv) :
    key = "load_power_l2" ∧ "state" ∈ inv ∨ ∃ name ∈ derived_from key, name ∈ inv := by
  have hfirst : ∀ key ∈ ["load_power", "load_power_l1", "load_power_l2", "load_apparent_power_l1"],
      key = "load_power_l2" ∨ "state" ∈ derived_from key := by decide
  have hrest : ∀ key ∈ ["load_percentage", "ac_output_frequency", "grid_frequency", "grid_voltage",
      "grid_power", "temperature", "temperature_dc_dc", "temperature_dc_ac",
      "temperature_transformer", "device_mode", "bus_voltage"], "state" ∈ derived_from key := by
    decide
  by_cases hs : (inv.lookup "state").isSome
  · have hstate : "state" ∈ inv := AList.lookup_isSome.mp hs
    simp only [state_keys, hs, if_true, List.mem_append] at hkey
    obtain ((hmem | happarent) | hmem) | hvoltage := hkey
    · obtain hl2 | hderived := hfirst key hmem
      · exact .inl ⟨hl2, hstate⟩
      · exact .inr ⟨"state", hderived, hstate⟩
    · right
      split_ifs at happarent with hleg
      · exact ⟨"phase_b", by revert key; decide, mem_of_bind_isSome hleg⟩
      · rw [List.mem_singleton] at happarent
        exact ⟨"state", by rw [happarent]; decide, hstate⟩
    · exact .inr ⟨"state", hrest key hmem, hstate⟩
    · right
      split_ifs at hvoltage with hleg
      · rw [List.mem_singleton] at hvoltage
        exact ⟨"phase_b", by rw [hvoltage]; decide, mem_of_bind_isSome hleg⟩
      · cases hvoltage
  · simp [state_keys, hs] at hkey

theorem cold_keys_derived {inv : Blocks} {key : String} (hkey : key ∈ cold_keys inv) :
    ∃ name ∈ derived_from key, name ∈ inv := by
  have hdaily : ∀ key ∈ daily_keys, "daily_stats" ∈ derived_from key := by decide
  have hhistory : ∀ key ∈ history_keys, "runtime_ctrs" ∈ derived_from key := by decide
  have hdiag : ∀ key ∈ diag_keys, "device_info" ∈ derived_from key := by decide
  simp only [cold_keys, List.map_append, List.mem_append] at hkey
  obtain ((hread | hread) | hread) | hfault := hkey
  · obtain ⟨hmem, hblock⟩ := mem_present_readings hread
    exact ⟨_, hdaily key hmem, AList.lookup_isSome.mp hblock⟩
  · obtain ⟨hmem, hblock⟩ := mem_present_readings hread
    exact ⟨_, hhistory key hmem, AList.lookup_isSome.mp hblock⟩
  · obtain ⟨hmem, hblock⟩ := mem_present_readings hread
    exact ⟨_, hdiag key hmem, AList.lookup_isSome.mp hblock⟩
  · split_ifs at hfault with hblock
    · rw [List.mem_singleton] at hfault
      subst hfault
      exact ⟨"faults", by decide, AList.lookup_isSome.mp hblock⟩
    · cases hfault

/-- With both MPPT blocks there, everything emitted has a block behind it. -/
theorem emitted_keys_derived {inv : Blocks} (hcovers : CoversEmitted inv) {key : String}
    (hkey : key ∈ emitted_keys inv) : ∃ name ∈ derived_from key, name ∈ inv := by
  have hpv : ∀ key ∈ pv_keys, "battery" ∈ derived_from key ∨ "pv2" ∈ derived_from key := by decide
  simp only [emitted_keys, List.mem_append] at hkey
  obtain ((hmem | hmem) | hmem) | hmem := hkey
  · exact battery_keys_derived hmem
  · obtain ⟨rfl, hstate⟩ | hderived := state_keys_derived hmem
    · exact ⟨"phase_b", by decide, hcovers.phase_b hstate⟩
    · exact hderived
  · obtain hbattery | hpv2 := hpv key hmem
    · exact ⟨"battery", hbattery, hcovers.battery⟩
    · exact ⟨"pv2", hpv2, hcovers.pv2⟩
  · exact cold_keys_derived hmem

/-- An inverter that lacks one of these blocks gets a value made up for it. -/
theorem exists_phantom_key {inv : Blocks} (hcovers : ¬ CoversEmitted inv) :
    ∃ key ∈ emitted_keys inv, ∀ name ∈ derived_from key, name ∉ inv := by
  by_cases hbattery : "battery" ∈ inv
  · by_cases hpv2 : "pv2" ∈ inv
    · have hphase : "state" ∈ inv ∧ "phase_b" ∉ inv := by
        by_contra hphase
        exact hcovers ⟨hbattery, hpv2, fun hstate => by_contra fun hb => hphase ⟨hstate, hb⟩⟩
      refine ⟨"load_power_l2", ?_, by simpa [derived_from] using hphase.2⟩
      simp [emitted_keys, state_keys, AList.lookup_isSome.mpr hphase.1]
    · exact ⟨"pv_power_mppt2", by simp [emitted_keys, pv_keys], by simpa [derived_from] using hpv2⟩
  · exact ⟨"pv_power_mppt1", by simp [emitted_keys, pv_keys], by simpa [derived_from] using hbattery⟩

/-! ## What the site values are derived from -/

/-- No site value is named like one of an inverter. -/
theorem site_derived_from_inverter_key (i : Nat) (key : String) :
    site_derived_from (inverter_key i key) = [] := by
  have hne : ∀ k : String, ¬ "inverter".toList ++ ['_'] <+: k.toList → inverter_key i key ≠ k :=
    fun k hk heq => Text.ne_numbered hk i key heq.symm
  simp (disch := decide) [site_derived_from, daily_keys, hne]

theorem keys_battery_totals {acc : BankReadings} {k : String}
    (hk : k ∈ (battery_totals acc).map Prod.fst) :
    acc.socs ≠ [] ∧ k ∈ ["battery_state_of_charge", "battery_voltage", "battery_power"] := by
  unfold battery_totals at hk
  split_ifs at hk with hsocs
  · exact ⟨hsocs, hk⟩
  · cases hk

theorem keys_load_totals {acc : SiteState} {out : Out} {k : String}
    (hk : k ∈ (load_totals acc out).map Prod.fst) :
    acc.site_load_any ∧ k ∈ ["load_power", "mode"] := by
  unfold load_totals at hk
  split_ifs at hk with hany
  · refine ⟨hany, ?_⟩
    cases hmode : out.lookup (inverter_key 1 "device_mode") with
    | none =>
      rw [hmode] at hk
      exact List.mem_cons.mpr (.inl (List.mem_singleton.mp hk))
    | some mode =>
      rw [hmode] at hk
      exact hk
  · cases hk

theorem keys_grid_totals {inv1_state : Option ParsedBlock} {grid : List (String × Value)}
    {k : String} (hgrid : grid_totals inv1_state = .ok grid) (hk : k ∈ grid.map Prod.fst) :
    inv1_state.isSome ∧
      k ∈ ["grid_voltage", "grid_frequency", "grid_power", "bus_voltage"] := by
  unfold grid_totals at hgrid
  cases inv1_state with
  | none =>
    rw [Except.ok.injEq] at hgrid
    rw [← hgrid] at hk
    cases hk
  | some s =>
    simp only [bind_eq_ok_iff] at hgrid
    obtain ⟨grid_voltage, -, grid_frequency, -, grid_current, -, bus_voltage, -, hresult⟩ := hgrid
    simp only [pure, Except.pure, Except.ok.injEq] at hresult
    rw [← hresult] at hk
    exact ⟨rfl, hk⟩

theorem keys_pv_totals {acc : ℚ × Bool} {k : String} (hk : k ∈ (pv_totals acc).map Prod.fst) :
    acc.2 ∧ k = "pv_power" := by
  unfold pv_totals at hk
  split_ifs at hk with hany
  · exact ⟨hany, List.mem_singleton.mp hk⟩
  · cases hk

theorem keys_daily_totals {daily_sums : Dict String ℚ} {k : String} :
    k ∈ (daily_totals daily_sums).map Prod.fst ↔ k ∈ daily_sums := by
  rw [daily_totals, List.map_map, AList.mem_keys, AList.keys, List.keys]
  rfl

theorem mem_foldl_add_daily {readings : List (String × ℚ)} {daily_sums : Dict String ℚ}
    {k : String} :
    k ∈ readings.foldl add_daily daily_sums ↔ k ∈ daily_sums ∨ k ∈ readings.map Prod.fst := by
  induction readings generalizing daily_sums with
  | nil => simp
  | cons reading readings ih =>
    rw [List.foldl_cons, ih, add_daily, AList.mem_insert, List.map_cons, List.mem_cons]
    tauto

namespace Stages

variable {per_inverter : List Blocks} {out : Out}

theorem exists_battery (stages : Stages per_inverter out) (hsocs : stages.bank.socs ≠ []) :
    ∃ inv ∈ per_inverter, "battery" ∈ inv := by
  by_contra hnone
  push Not at hnone
  apply hsocs
  refine for_inverters_preserves (I := fun acc => acc.socs = []) ?_ rfl stages.battery_loop
  intro inv hinv acc i acc' assigned hacc hbody
  rw [battery_body, AList.lookup_eq_none.mpr (hnone inv hinv), Except.ok.injEq,
    Prod.mk.injEq] at hbody
  rw [← hbody.1, hacc]

/-- Behind everything the state loop leaves there is an inverter with that block. -/
theorem exists_state (stages : Stages per_inverter out)
    (hsite : stages.site.site_load_any ∨ stages.site.inv1_state.isSome) :
    ∃ inv ∈ per_inverter, "state" ∈ inv := by
  by_contra hnone
  push Not at hnone
  have hstart : stages.site = ⟨none, 0, false⟩ := by
    refine for_inverters_preserves (I := fun acc => acc = ⟨none, 0, false⟩) ?_ rfl stages.state_loop
    intro inv hinv acc i acc' assigned hacc hbody
    rw [state_body, AList.lookup_eq_none.mpr (hnone inv hinv), Except.ok.injEq,
      Prod.mk.injEq] at hbody
    rw [← hbody.1, hacc]
  simp [hstart] at hsite

theorem exists_pv (stages : Stages per_inverter out) (hany : stages.pv.2) :
    ∃ name ∈ ["battery", "pv2"], ∃ inv ∈ per_inverter, name ∈ inv := by
  by_contra hnone
  push Not at hnone
  have hstart : stages.pv.2 = false := by
    refine for_inverters_preserves (I := fun acc => acc.2 = false) ?_ rfl stages.pv_loop
    intro inv hinv acc i acc' assigned hacc hbody
    have hbattery := AList.lookup_eq_none.mpr (hnone "battery" (by simp) inv hinv)
    have hpv2 := AList.lookup_eq_none.mpr (hnone "pv2" (by simp) inv hinv)
    simp only [pv_body, Except.ok.injEq, Prod.mk.injEq] at hbody
    rw [← hbody.1]
    simp [hacc, hbattery, hpv2]
  rw [hstart] at hany
  cases hany

theorem exists_daily_stats (stages : Stages per_inverter out) {k : String}
    (hk : k ∈ stages.daily_sums) :
    k ∈ daily_keys ∧ ∃ inv ∈ per_inverter, "daily_stats" ∈ inv := by
  revert k
  refine for_inverters_preserves
    (I := fun acc => ∀ {k}, k ∈ acc → k ∈ daily_keys ∧ ∃ inv ∈ per_inverter, "daily_stats" ∈ inv)
    ?_ (fun h => absurd h (AList.notMem_empty _)) stages.cold_loop
  intro inv hinv acc i acc' assigned hacc hbody k hk
  simp only [cold_body, Except.ok.injEq, Prod.mk.injEq] at hbody
  rw [← hbody.1, mem_foldl_add_daily] at hk
  obtain hold | hread := hk
  · exact hacc hold
  · obtain ⟨hkey, hblock⟩ := mem_present_readings hread
    exact ⟨hkey, inv, hinv, AList.lookup_isSome.mp hblock⟩

/-- A site value is only emitted when some inverter has a block behind it. -/
theorem site_keys_derived (stages : Stages per_inverter out) {k : String}
    (hk : k ∈ stages.site_keys) :
    ∃ name ∈ site_derived_from k, ∃ inv ∈ per_inverter, name ∈ inv := by
  simp only [site_keys, List.map_append, List.mem_append] at hk
  obtain (((hmem | hmem) | hmem) | hmem) | hmem := hk
  · obtain ⟨hsocs, hkey⟩ := keys_battery_totals hmem
    have hderived : ∀ k ∈ ["battery_state_of_charge", "battery_voltage", "battery_power"],
        "battery" ∈ site_derived_from k := by decide
    exact ⟨"battery", hderived k hkey, stages.exists_battery hsocs⟩
  · obtain ⟨hany, hkey⟩ := keys_load_totals hmem
    have hderived : ∀ k ∈ ["load_power", "mode"], "state" ∈ site_derived_from k := by decide
    exact ⟨"state", hderived k hkey, stages.exists_state (.inl hany)⟩
  · obtain ⟨hinv1, hkey⟩ := keys_grid_totals stages.grid_eq hmem
    have hderived : ∀ k ∈ ["grid_voltage", "grid_frequency", "grid_power", "bus_voltage"],
        "state" ∈ site_derived_from k := by decide
    exact ⟨"state", hderived k hkey, stages.exists_state (.inr hinv1)⟩
  · obtain ⟨hany, rfl⟩ := keys_pv_totals hmem
    obtain ⟨name, hname, hinv⟩ := stages.exists_pv hany
    exact ⟨name, by simpa [site_derived_from, daily_keys] using hname, hinv⟩
  · obtain ⟨hkey, hinv⟩ := stages.exists_daily_stats (keys_daily_totals.mp hmem)
    have hderived : ∀ k ∈ daily_keys, "daily_stats" ∈ site_derived_from k := by decide
    exact ⟨"daily_stats", hderived k hkey, hinv⟩

/-- Which values are emitted for an inverter depends on its own blocks only. -/
theorem mem_inverter_key_iff (stages : Stages per_inverter out) (i : Nat) (key : String) :
    inverter_key i key ∈ out ↔
      ∃ j inv, i = j + 1 ∧ per_inverter[j]? = some inv ∧ key ∈ emitted_keys inv := by
  rw [stages.mem_iff]
  constructor
  · rintro (⟨j, inv, hinv, key', hkey', heq⟩ | hsite)
    · obtain ⟨rfl, rfl⟩ := Text.numbered_inj.mp heq
      exact ⟨j, inv, Nat.add_comm 1 j, hinv, hkey'⟩
    · obtain ⟨name, hname, -⟩ := stages.site_keys_derived hsite
      rw [site_derived_from_inverter_key] at hname
      cases hname
  · rintro ⟨j, inv, rfl, hinv, hkey⟩
    exact .inl ⟨j, inv, hinv, key, hkey, by rw [Nat.add_comm]⟩

/-- There is no made-up reading exactly when every inverter has the blocks the
aggregator takes for granted. -/
theorem noPhantomReadings_iff (stages : Stages per_inverter out) :
    NoPhantomReadings per_inverter out ↔ ∀ inv ∈ per_inverter, CoversEmitted inv := by
  constructor
  · intro hno inv hinv
    by_contra hcovers
    obtain ⟨key, hkey, hphantom⟩ := exists_phantom_key hcovers
    obtain ⟨j, hj⟩ := List.mem_iff_getElem?.mp hinv
    obtain ⟨j', inv', hindex, hinv', name, hname, hmem⟩ := hno (j + 1) key
      ((stages.mem_inverter_key_iff _ _).mpr ⟨j, inv, rfl, hj, hkey⟩)
    obtain rfl : j = j' := by omega
    rw [hj, Option.some.injEq] at hinv'
    subst hinv'
    exact hphantom name hname hmem
  · intro hcovers i key hmem
    obtain ⟨j, inv, rfl, hinv, hkey⟩ := (stages.mem_inverter_key_iff _ _).mp hmem
    exact ⟨j, inv, rfl, hinv,
      emitted_keys_derived (hcovers inv (List.mem_of_getElem? hinv)) hkey⟩

end Stages

end inverter_bridge.aggregator
