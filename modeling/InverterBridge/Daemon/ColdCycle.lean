import InverterBridge.Aggregator.DailyTotals
import InverterBridge.Daemon.Cycles

open Python TransitionSystem
open inverter_bridge.parsers inverter_bridge.srne_map inverter_bridge.aggregator

namespace inverter_bridge.daemon

/-- The values a cycle publishes from its blocks. A cold cycle publishes nothing
when there are none. -/
def Cycle.values (cycle : Cycle) : Except PyError Out :=
  aggregate_inverters (cycle.per_inverter.map PolledBlocks.blocks)

/-- A block of the hot tier is called `name`. -/
def HotName (name : String) : Prop := ∃ block ∈ BLOCKS, block.name = name ∧ block.tier = .HOT

instance (name : String) : Decidable (HotName name) :=
  inferInstanceAs (Decidable (∃ block ∈ BLOCKS, block.name = name ∧ block.tier = .HOT))

/-- A sensor key whose value is computed from a hot block. -/
def HotDerived (k : String) : Prop :=
  (∃ i key, k = inverter_key i key ∧ ∃ name ∈ derived_from key, HotName name) ∨
    ∃ name ∈ site_derived_from k, HotName name

theorem not_hotName_of_cold {out : PolledBlocks} (hcold : OfTier .COLD out) {name : String}
    (hname : name ∈ out.blocks) : ¬ HotName name := by
  have hall : ∀ block ∈ BLOCKS, block.tier = .COLD → ¬ HotName block.name := by decide
  obtain ⟨block, hblock, rfl, htier⟩ := hcold name hname
  exact hall block hblock htier

/-- The values of one inverter that are derived from hot blocks, in a cold cycle: the
PV section emits its keys without looking for a block. -/
theorem hot_emitted_iff {out : PolledBlocks} (hcold : OfTier .COLD out) {key : String} :
    (key ∈ emitted_keys out.blocks ∧ ∃ name ∈ derived_from key, HotName name) ↔ key ∈ pv_keys := by
  have hbattery : battery_keys out.blocks = [] := by
    have hnot : "battery" ∉ out.blocks := fun hmem => not_hotName_of_cold hcold hmem (by decide)
    rw [battery_keys, AList.lookup_eq_none.mpr hnot]
    rfl
  have hstate : state_keys out.blocks = [] := by
    have hnot : "state" ∉ out.blocks := fun hmem => not_hotName_of_cold hcold hmem (by decide)
    rw [state_keys, AList.lookup_eq_none.mpr hnot]
    rfl
  have hpv : ∀ key ∈ pv_keys, ∃ name ∈ derived_from key, HotName name := by decide
  have hrest : ∀ key ∈ daily_keys ++ history_keys ++ diag_keys ++ ["fault_bits"],
      ∀ name ∈ derived_from key, ¬ HotName name := by decide
  have hcold_keys : ∀ key ∈ cold_keys out.blocks,
      key ∈ daily_keys ++ history_keys ++ diag_keys ++ ["fault_bits"] := by
    intro key hkey
    simp only [cold_keys, List.map_append, List.mem_append] at hkey ⊢
    obtain ((hread | hread) | hread) | hfault := hkey
    · exact .inl (.inl (.inl (mem_present_readings hread).1))
    · exact .inl (.inl (.inr (mem_present_readings hread).1))
    · exact .inl (.inr (mem_present_readings hread).1)
    · split_ifs at hfault
      · exact .inr hfault
      · cases hfault
  rw [emitted_keys, hbattery, hstate, List.append_nil, List.nil_append, List.mem_append]
  constructor
  · rintro ⟨hkey | hkey, name, hname, hhot⟩
    · exact hkey
    · exact absurd hhot (hrest key (hcold_keys key hkey) name hname)
  · exact fun hkey => ⟨.inl hkey, hpv key hkey⟩

/-- No site value is computed from both tiers. -/
theorem site_derived_from_cold {k name : String} (hname : name ∈ site_derived_from k)
    (hcold : ¬ HotName name) : ∀ other ∈ site_derived_from k, ¬ HotName other := by
  have hlists : ∀ names ∈ [["battery"], ["state", "phase_b"], ["state"], ["battery", "pv2"],
      ["daily_stats"], []], ∀ name ∈ names, ¬ HotName name → ∀ other ∈ names, ¬ HotName other := by
    decide
  have hmem : site_derived_from k ∈ [["battery"], ["state", "phase_b"], ["state"],
      ["battery", "pv2"], ["daily_stats"], []] := by
    unfold site_derived_from
    split_ifs <;> simp
  exact hlists _ hmem name hname hcold

variable {κ δ : Type} [DecidableEq κ] {d : Daemon κ δ} {s : State κ}

/-- A cold cycle makes up the PV readings of every inverter, and no other reading
that belongs to the hot tier. -/
theorem hot_values_of_cold_cycle (hreach : Reachable (step d) init s) {cycle : Cycle}
    (hcycle : cycle ∈ s.log) (hcold : cycle.tier = .COLD) :
    ∃ out, cycle.values = .ok out ∧ ∀ k, k ∈ out ∧ HotDerived k ↔
      ∃ j < d.inverters.length, ∃ key ∈ pv_keys, k = inverter_key (j + 1) key := by
  obtain ⟨hlength, htier⟩ := (cycleInOrder_of_reachable hreach).log cycle hcycle
  rw [hcold] at htier
  obtain ⟨out, hout⟩ := aggregate_inverters_ok cycle.per_inverter
  obtain ⟨stages⟩ := Stages.of_ok hout
  refine ⟨out, hout, fun k => ⟨?_, ?_⟩⟩
  · rintro ⟨hk, hhot⟩
    rw [stages.mem_iff] at hk
    obtain ⟨j, blocks, hj, key, hkey, rfl⟩ | hsite := hk
    · rw [List.getElem?_map, Option.map_eq_some_iff] at hj
      obtain ⟨inv, hinv, rfl⟩ := hj
      obtain ⟨i, key', heq, hderived⟩ | ⟨name, hname, -⟩ := hhot
      · obtain ⟨-, rfl⟩ := Text.numbered_inj.mp heq
        have hpv := (hot_emitted_iff (htier inv (List.mem_of_getElem? hinv))).mp ⟨hkey, hderived⟩
        exact ⟨j, hlength ▸ (List.getElem?_eq_some_iff.mp hinv).1, key, hpv, by rw [Nat.add_comm]⟩
      · rw [site_derived_from_inverter_key] at hname
        cases hname
    · obtain ⟨name, hname, blocks, hblocks, hmem⟩ := stages.site_keys_derived hsite
      obtain ⟨inv, hinv, rfl⟩ := List.mem_map.mp hblocks
      obtain ⟨i, key, rfl, -⟩ | ⟨other, hother, hhot⟩ := hhot
      · rw [site_derived_from_inverter_key] at hname
        cases hname
      · exact absurd hhot
          (site_derived_from_cold hname (not_hotName_of_cold (htier inv hinv) hmem) other hother)
  · rintro ⟨j, hj, key, hkey, rfl⟩
    have hinv : cycle.per_inverter[j]? = some cycle.per_inverter[j] :=
      List.getElem?_eq_getElem (hlength.symm ▸ hj)
    obtain ⟨hemitted, hderived⟩ :=
      (hot_emitted_iff (htier _ (List.mem_of_getElem? hinv))).mpr hkey
    refine ⟨(stages.mem_inverter_key_iff _ _).mpr ⟨j, _, rfl, ?_, hemitted⟩,
      .inl ⟨j + 1, key, rfl, hderived⟩⟩
    rw [List.getElem?_map, hinv]
    rfl

/-- No reading is made up exactly when every inverter has the blocks that the
aggregator takes for granted. In a cold cycle that is never so: it publishes values
for hot sensors whenever there is an inverter. -/
theorem no_phantom_readings_iff (d : Daemon κ δ) :
    (∀ per_inverter out, aggregate_inverters per_inverter = .ok out →
      (NoPhantomReadings per_inverter out ↔ ∀ inv ∈ per_inverter, CoversEmitted inv)) ∧
    ∀ s, Reachable (step d) init s → ∀ cycle ∈ s.log, cycle.tier = .COLD →
      ∃ out, cycle.values = .ok out ∧
        ((∀ k ∈ out, ¬ HotDerived k) ↔ d.inverters = []) := by
  refine ⟨fun per_inverter out hout => ?_, fun s hreach cycle hcycle hcold => ?_⟩
  · obtain ⟨stages⟩ := Stages.of_ok hout
    exact stages.noPhantomReadings_iff
  · obtain ⟨out, hout, hvalues⟩ := hot_values_of_cold_cycle hreach hcycle hcold
    refine ⟨out, hout, fun hno => ?_, fun hempty k hk hhot => ?_⟩
    · by_contra hsome
      have hfirst := (hvalues (inverter_key (0 + 1) "pv_power")).mpr
        ⟨0, List.length_pos_iff.mpr hsome, "pv_power", by decide, rfl⟩
      exact hno _ hfirst.1 hfirst.2
    · obtain ⟨j, hj, -⟩ := (hvalues k).mp ⟨hk, hhot⟩
      rw [hempty] at hj
      exact absurd hj (Nat.not_lt_zero j)

/-- An inverter that answers nothing still gets a PV power. -/
theorem empty_poll_has_phantom_reading :
    ¬ ∀ per_inverter out, aggregate_inverters per_inverter = .ok out →
      NoPhantomReadings per_inverter out := by
  intro hall
  obtain ⟨out, hout⟩ := aggregate_inverters_ok [.empty]
  obtain ⟨stages⟩ := Stages.of_ok hout
  have hcovers := stages.noPhantomReadings_iff.mp (hall _ out hout) ∅ (by simp [PolledBlocks.empty])
  exact AList.notMem_empty _ hcovers.battery

/-! ## Daily totals over a run -/

/-- The slots of a cycle of `n` inverters. -/
def Cycle.slots (n : Nat) (cycle : Cycle) : Fin n → PolledBlocks :=
  fun i => cycle.per_inverter.getD i .empty

/-- The finished cold cycles, the oldest first. -/
def cold_cycles (log : List Cycle) : List Cycle :=
  (log.filter fun cycle => cycle.tier = .COLD).reverse

theorem site_total_slots (hreach : Reachable (step d) init s) {cycle : Cycle}
    (hcycle : cycle ∈ s.log) (k : String) :
    site_total k (cycle.slots d.inverters.length) =
      published k (cycle.per_inverter.map PolledBlocks.blocks) := by
  have hlength := ((cycleInOrder_of_reachable hreach).log cycle hcycle).length_eq
  have hslots : List.ofFn (cycle.slots d.inverters.length) = cycle.per_inverter := by
    rw [← hlength]
    refine List.ext_getElem (by simp) fun i hi hi' => ?_
    simp [Cycle.slots, hi']
  rw [site_total, hslots]

/-- In every run in which an inverter whose daily counters were read once is read in
every later cold cycle that reads any, no site total of them falls while the
counters themselves do not. -/
theorem cold_totals_nonDecreasing (hreach : Reachable (step d) init s)
    (hpattern : ((cold_cycles s.log).map
        fun cycle => answered (cycle.slots d.inverters.length)).Pairwise
      fun earlier later => later ≠ ∅ → earlier ⊆ later)
    (hcounters : CountersNonDecreasing ((cold_cycles s.log).map (Cycle.slots d.inverters.length))) :
    (cold_cycles s.log).Pairwise fun earlier later => ∀ k ∈ daily_keys, ∀ x y,
      published k (earlier.per_inverter.map PolledBlocks.blocks) = some (.num x) →
      published k (later.per_inverter.map PolledBlocks.blocks) = some (.num y) → x ≤ y := by
  have htotals : TotalsNonDecreasing ((cold_cycles s.log).map (Cycle.slots d.inverters.length)) := by
    refine totals_nonDecreasing_of_pattern ?_ hcounters
    rw [List.map_map]
    exact hpattern
  rw [TotalsNonDecreasing, List.pairwise_map] at htotals
  refine htotals.imp_of_mem fun {earlier later} hearlier hlater hle k hk x y hx hy => ?_
  have hlog : ∀ cycle ∈ cold_cycles s.log, cycle ∈ s.log :=
    fun cycle hcycle => (List.mem_filter.mp (List.mem_reverse.mp hcycle)).1
  rw [← site_total_slots hreach (hlog _ hearlier)] at hx
  rw [← site_total_slots hreach (hlog _ hlater)] at hy
  exact hle k hk x y hx hy

end inverter_bridge.daemon
