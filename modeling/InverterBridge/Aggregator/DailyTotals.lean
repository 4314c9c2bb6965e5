import Mathlib.Algebra.BigOperators.Fin
import Mathlib.Algebra.Order.BigOperators.Group.Finset
import InverterBridge.Aggregator.Decoded
import InverterBridge.Aggregator.Phantom

open Python
open inverter_bridge.parsers inverter_bridge.srne_map

namespace inverter_bridge.aggregator

/-- The daily counter `k` of one inverter, when its `daily_stats` block was read. -/
def daily_reading (k : String) (inv : Blocks) : Option ℚ :=
  (inv.lookup "daily_stats").bind fun b => b.fields.lookup k

/-- The value published under `k` for the inverters of one cycle. -/
def published (k : String) (per_inverter : List Blocks) : Option Value :=
  match aggregate_inverters per_inverter with
  | .ok out => out.lookup k
  | .error _ => none

/-! ## The sums of one cycle -/

theorem lookup_add_daily (daily_sums : Dict String ℚ) (reading : String × ℚ) (k : String) :
    (add_daily daily_sums reading).lookup k =
      if k = reading.1 then some ((daily_sums.lookup k).getD 0 + reading.2)
      else daily_sums.lookup k := by
  unfold add_daily
  split_ifs with hk
  · rw [hk, AList.lookup_insert]
  · rw [AList.lookup_insert_ne hk]

theorem lookup_foldl_add_daily_of_not_mem {readings : List (String × ℚ)}
    (daily_sums : Dict String ℚ) {k : String} (hk : k ∉ readings.map Prod.fst) :
    (readings.foldl add_daily daily_sums).lookup k = daily_sums.lookup k := by
  induction readings generalizing daily_sums with
  | nil => rfl
  | cons reading readings ih =>
    rw [List.map_cons, List.mem_cons, not_or] at hk
    rw [List.foldl_cons, ih _ hk.2, lookup_add_daily, if_neg hk.1]

/-- An inverter's readings have distinct keys, so each adds to its own sum once. -/
theorem lookup_foldl_add_daily_of_mem {readings : List (String × ℚ)} (daily_sums : Dict String ℚ)
    {k : String} {v : ℚ} (hnodup : (readings.map Prod.fst).Nodup) (hmem : (k, v) ∈ readings) :
    (readings.foldl add_daily daily_sums).lookup k =
      some ((daily_sums.lookup k).getD 0 + v) := by
  induction readings generalizing daily_sums with
  | nil => cases hmem
  | cons reading readings ih =>
    rw [List.map_cons, List.nodup_cons] at hnodup
    rw [List.foldl_cons]
    cases List.mem_cons.mp hmem with
    | inl heq =>
      subst heq
      rw [lookup_foldl_add_daily_of_not_mem _ hnodup.1, lookup_add_daily, if_pos rfl]
    | inr htail =>
      have hne : k ≠ reading.1 := by
        rintro rfl
        exact hnodup.1 (List.mem_map.mpr ⟨_, htail, rfl⟩)
      rw [ih _ hnodup.2 htail, lookup_add_daily, if_neg hne]

theorem keys_present_readings_sublist (keys : List String) (block : Option ParsedBlock) :
    ((present_readings keys block).map Prod.fst).Sublist keys := by
  unfold present_readings
  cases block with
  | none => simp
  | some b =>
    rw [List.map_filterMap]
    induction keys with
    | nil => simp
    | cons k keys ih =>
      cases hk : b.fields.lookup k with
      | none => simpa [List.filterMap_cons, hk] using ih.cons k
      | some v => simpa [List.filterMap_cons, hk] using ih.cons_cons k

theorem mem_present_readings_iff {keys : List String} {block : Option ParsedBlock} {k : String}
    {v : ℚ} :
    (k, v) ∈ present_readings keys block ↔
      k ∈ keys ∧ (block.bind fun b => b.fields.lookup k) = some v := by
  unfold present_readings
  cases block with
  | none => simp
  | some b =>
    simp only [List.mem_filterMap, Option.map_eq_some_iff, Prod.mk.injEq, Option.bind_some]
    constructor
    · rintro ⟨key, hkey, x, hx, rfl, rfl⟩
      exact ⟨hkey, hx⟩
    · rintro ⟨hkey, hx⟩
      exact ⟨k, hkey, v, hx, rfl, rfl⟩

/-- The cold loop sums up the counters that were read. -/
theorem lookup_cold_loop {k : String} (hk : k ∈ daily_keys) {i : Nat}
    {daily_sums result : Dict String ℚ}
    {out out' : Out} {per_inverter : List Blocks}
    (hloop : for_inverters cold_body i daily_sums out per_inverter = .ok (result, out')) :
    result.lookup k =
      if per_inverter.filterMap (daily_reading k) = [] then daily_sums.lookup k
      else some ((daily_sums.lookup k).getD 0 + (per_inverter.filterMap (daily_reading k)).sum) := by
  induction per_inverter generalizing i daily_sums out with
  | nil =>
    rw [for_inverters, Except.ok.injEq, Prod.mk.injEq] at hloop
    simp [hloop.1]
  | cons inv per_inverter ih =>
    rw [for_inverters, bind_eq_ok_iff] at hloop
    obtain ⟨⟨mid, assigned⟩, hinv, hrest⟩ := hloop
    simp only [cold_body, Except.ok.injEq, Prod.mk.injEq] at hinv
    have hmid := ih hrest
    rw [← hinv.1] at hmid
    cases hread : daily_reading k inv with
    | none =>
      have hnot : k ∉ (present_readings daily_keys (inv.lookup "daily_stats")).map Prod.fst := by
        intro hmem
        obtain ⟨⟨key, v⟩, hv, rfl⟩ := List.mem_map.mp hmem
        rw [daily_reading, (mem_present_readings_iff.mp hv).2] at hread
        cases hread
      rw [hmid, lookup_foldl_add_daily_of_not_mem _ hnot, List.filterMap_cons_none hread]
    | some v =>
      have hmem : (k, v) ∈ present_readings daily_keys (inv.lookup "daily_stats") :=
        mem_present_readings_iff.mpr ⟨hk, hread⟩
      have hnodup := (keys_present_readings_sublist daily_keys (inv.lookup "daily_stats")).nodup
        (by decide)
      rw [hmid, lookup_foldl_add_daily_of_mem _ hnodup hmem, List.filterMap_cons_some hread,
        if_neg (List.cons_ne_nil _ _), List.sum_cons]
      by_cases hempty : per_inverter.filterMap (daily_reading k) = []
      · simp [hempty]
      · simp [hempty, add_assoc]

/-- The site total of a daily counter: the sum over the inverters that were read,
and nothing when none was. -/
theorem Stages.lookup_daily {per_inverter : List Blocks} {out : Out}
    (stages : Stages per_inverter out) {k : String} (hk : k ∈ daily_keys) :
    out.lookup k =
      if per_inverter.filterMap (daily_reading k) = [] then none
      else some (.num (py_round (per_inverter.filterMap (daily_reading k)).sum 2)) := by
  have hsums := lookup_cold_loop hk stages.cold_loop
  rw [AList.lookup_empty, Option.getD_none, zero_add] at hsums
  have hsite : site_derived_from k = ["daily_stats"] := by
    have hall : ∀ k ∈ daily_keys, site_derived_from k = ["daily_stats"] := by decide
    exact hall k hk
  have hother : ∀ k ∈ daily_keys,
      k ∉ ["battery_state_of_charge", "battery_voltage", "battery_power"] ∧
      k ∉ ["load_power", "mode"] ∧
      k ∉ ["grid_voltage", "grid_frequency", "grid_power", "bus_voltage"] ∧ k ≠ "pv_power" := by
    decide
  obtain ⟨hbattery, hload, hgrid, hpv⟩ := hother k hk
  split_ifs at hsums ⊢ with hempty
  · -- neither a loop nor another section of the site assigns this key
    rw [AList.lookup_eq_none, stages.mem_iff]
    rintro (⟨j, inv, -, key, -, heq⟩ | hmem)
    · rw [heq, site_derived_from_inverter_key] at hsite
      cases hsite
    · simp only [Stages.site_keys, List.map_append, List.mem_append] at hmem
      obtain (((hmem | hmem) | hmem) | hmem) | hmem := hmem
      · exact hbattery (keys_battery_totals hmem).2
      · exact hload (keys_load_totals hmem).2
      · exact hgrid (keys_grid_totals stages.grid_eq hmem).2
      · exact hpv (keys_pv_totals hmem).2
      · rw [keys_daily_totals, ← AList.lookup_isSome, hsums] at hmem
        cases hmem
  · rw [stages.out_eq]
    apply Dict.lookup_assign_of_mem
    · rw [daily_totals, List.map_map]
      exact stages.daily_sums.nodupKeys
    · exact List.mem_map.mpr ⟨⟨k, _⟩, AList.mem_lookup_iff.mp hsums, rfl⟩

/-! ## Totals over a run of cold cycles -/

section

variable {N : Nat}

/-- The value published under `k` in a cycle of `N` inverters. -/
def site_total (k : String) (cycle : Fin N → PolledBlocks) : Option Value :=
  published k ((List.ofFn cycle).map PolledBlocks.blocks)

/-- The inverters whose `daily_stats` were read in a cycle. -/
def answered (cycle : Fin N → PolledBlocks) : Finset (Fin N) :=
  Finset.univ.filter fun i => "daily_stats" ∈ (cycle i).blocks

/-- No daily counter of an inverter ever falls between two reads of it. -/
def CountersNonDecreasing (cycles : List (Fin N → PolledBlocks)) : Prop :=
  cycles.Pairwise fun earlier later => ∀ i, ∀ k ∈ daily_keys, ∀ x y,
    daily_reading k (earlier i).blocks = some x → daily_reading k (later i).blocks = some y → x ≤ y

/-- No published site total of a daily counter ever falls. -/
def TotalsNonDecreasing (cycles : List (Fin N → PolledBlocks)) : Prop :=
  cycles.Pairwise fun earlier later => ∀ k ∈ daily_keys, ∀ x y,
    site_total k earlier = some (.num x) → site_total k later = some (.num y) → x ≤ y

theorem exists_daily_reading {k : String} (hk : k ∈ daily_keys) (inv : PolledBlocks)
    (hmem : "daily_stats" ∈ inv.blocks) : ∃ x, daily_reading k inv.blocks = some x ∧ 0 ≤ x := by
  obtain ⟨b, hb⟩ := Dict.mem_iff_lookup.mp hmem
  obtain ⟨block, hblock, hname, -, hfields⟩ := (inv.decoded "daily_stats" b hb).exists_block
  have hunsigned : ∀ k ∈ daily_keys, ∀ block ∈ BLOCKS, block.name = "daily_stats" →
      ∃ f ∈ fields_for block.addr, f.key = k ∧ f.signed = false ∧ 0 ≤ f.scale := by
    decide +kernel
  obtain ⟨f, hf, rfl, hsigned, hscale⟩ := hunsigned k hk block hblock hname
  refine ⟨field_value f (b.regs_raw.getD f.offset 0), ?_, ?_⟩
  · rw [daily_reading, hb, Option.bind_some, hfields]
    exact lookup_decoded_fields hblock hf b.regs_raw
  · have hzero : py_round 0 4 = 0 := py_round_eq_self (n := 0) (by simp)
    rw [← hzero, field_value, hsigned]
    apply py_round_mono
    simp only [Bool.false_eq_true, if_false, Int.cast_natCast]
    positivity

/-- An inverter that was not read adds nothing. -/
theorem daily_reading_of_not_mem {k : String} {inv : Blocks} (hmem : "daily_stats" ∉ inv) :
    daily_reading k inv = none := by
  rw [daily_reading, AList.lookup_eq_none.mpr hmem, Option.bind_none]

theorem sum_filterMap {α : Type} (read : α → Option ℚ) (invs : List α) :
    (invs.filterMap read).sum = (invs.map fun inv => (read inv).getD 0).sum := by
  induction invs with
  | nil => rfl
  | cons inv invs ih =>
    cases hread : read inv with
    | none => simp [List.filterMap_cons_none hread, hread, ih]
    | some x => simp [List.filterMap_cons_some hread, hread, ih]

theorem site_total_eq {k : String} (hk : k ∈ daily_keys) (cycle : Fin N → PolledBlocks) :
    site_total k cycle =
      if answered cycle = ∅ then none
      else some (.num (py_round (∑ i, (daily_reading k (cycle i).blocks).getD 0) 2)) := by
  obtain ⟨out, hout⟩ := aggregate_inverters_ok (List.ofFn cycle)
  obtain ⟨stages⟩ := Stages.of_ok hout
  have hsum : (((List.ofFn cycle).map PolledBlocks.blocks).filterMap (daily_reading k)).sum =
      ∑ i, (daily_reading k (cycle i).blocks).getD 0 := by
    rw [sum_filterMap, List.map_map, List.map_ofFn, List.sum_ofFn]
    rfl
  have hempty : ((List.ofFn cycle).map PolledBlocks.blocks).filterMap (daily_reading k) = [] ↔
      answered cycle = ∅ := by
    rw [List.filterMap_eq_nil_iff, answered, Finset.filter_eq_empty_iff]
    constructor
    · intro hnone i _ hmem
      obtain ⟨x, hx, -⟩ := exists_daily_reading hk (cycle i) hmem
      have hread := hnone (cycle i).blocks (List.mem_map_of_mem (List.mem_ofFn.mpr ⟨i, rfl⟩))
      rw [hx] at hread
      cases hread
    · intro hnot blocks hblocks
      obtain ⟨inv, hinv, rfl⟩ := List.mem_map.mp hblocks
      obtain ⟨i, rfl⟩ := List.mem_ofFn.mp hinv
      exact daily_reading_of_not_mem (hnot (Finset.mem_univ i))
  rw [site_total, published, hout]
  simp only [stages.lookup_daily hk, hsum, hempty]

/-- An inverter whose four daily counters all stand at the register value `raw`. -/
def counters_at (raw : UInt16) : PolledBlocks :=
  PolledBlocks.empty.store ⟨0xF02C, 18, "daily_stats", .COLD⟩ (by decide)
    ⟨1, 3, List.replicate 18 raw⟩ _ (parse_block_ok (by decide) List.length_replicate)

/-- A cycle in which the inverters of `responding` are read, and only the counters of
`busy` have moved. -/
def one_busy (busy : Fin N) (responding : Finset (Fin N)) (i : Fin N) : PolledBlocks :=
  if i ∈ responding then counters_at (if i = busy then 10 else 0) else PolledBlocks.empty

theorem answered_one_busy (busy : Fin N) (responding : Finset (Fin N)) :
    answered (one_busy busy responding) = responding := by
  ext i
  rw [answered, Finset.mem_filter_univ, one_busy]
  by_cases hi : i ∈ responding
  · rw [if_pos hi]
    exact iff_of_true ((AList.mem_insert _).mpr (.inl rfl)) hi
  · rw [if_neg hi]
    exact iff_of_false (AList.notMem_empty _) hi

theorem daily_reading_one_busy (k : String) (busy : Fin N) (responding : Finset (Fin N))
    (i : Fin N) :
    daily_reading k (one_busy busy responding i).blocks =
      if i ∈ responding then daily_reading k (counters_at (if i = busy then 10 else 0)).blocks
      else none := by
  unfold one_busy
  split_ifs
  · rfl
  · rfl
  · rfl

theorem site_total_one_busy (busy : Fin N) {responding : Finset (Fin N)}
    (hsome : responding ≠ ∅) :
    site_total "pv_energy_today" (one_busy busy responding) =
      some (.num (if busy ∈ responding then 1 else 0)) := by
  have hreading : ∀ i, (daily_reading "pv_energy_today" (one_busy busy responding i).blocks).getD 0 =
      if i = busy then if busy ∈ responding then 1 else 0 else 0 := by
    have hmoved : daily_reading "pv_energy_today" (counters_at 10).blocks = some 1 := by
      decide +kernel
    have hstill : daily_reading "pv_energy_today" (counters_at 0).blocks = some 0 := by
      decide +kernel
    intro i
    rw [daily_reading_one_busy]
    by_cases hbusy : i = busy
    · rw [if_pos hbusy, if_pos hbusy, hmoved, hbusy]
      split_ifs <;> rfl
    · rw [if_neg hbusy, if_neg hbusy, hstill]
      split_ifs <;> rfl
  rw [site_total_eq (by decide), answered_one_busy, if_neg hsome,
    Finset.sum_congr rfl fun i _ => hreading i, Finset.sum_ite_eq' Finset.univ busy,
    if_pos (Finset.mem_univ busy)]
  split_ifs
  · rw [py_round_eq_self (n := 100) (by norm_num)]
  · rw [py_round_eq_self (n := 0) (by norm_num)]

/-- The totals do not fall while every inverter that was read once is read again
whenever another one is. -/
theorem totals_nonDecreasing_of_pattern {cycles : List (Fin N → PolledBlocks)}
    (hpattern : (cycles.map answered).Pairwise fun earlier later => later ≠ ∅ → earlier ⊆ later)
    (hcounters : CountersNonDecreasing cycles) : TotalsNonDecreasing cycles := by
  rw [List.pairwise_map] at hpattern
  refine (hpattern.and hcounters).imp ?_
  rintro earlier later ⟨hsubset, hle⟩ k hk x y hx hy
  rw [site_total_eq hk] at hx hy
  split_ifs at hx hy with hearlier hlater
  simp only [Option.some.injEq, Value.num.injEq] at hx hy
  rw [← hx, ← hy]
  apply py_round_mono
  apply Finset.sum_le_sum
  intro i _
  by_cases hi : i ∈ answered earlier
  · have hi' : i ∈ answered later := hsubset hlater hi
    obtain ⟨x, hx, -⟩ := exists_daily_reading hk (earlier i) (Finset.mem_filter.mp hi).2
    obtain ⟨y, hy, -⟩ := exists_daily_reading hk (later i) (Finset.mem_filter.mp hi').2
    rw [hx, hy]
    exact hle i k hk x y hx hy
  · have hzero : daily_reading k (earlier i).blocks = none :=
      daily_reading_of_not_mem fun hmem => hi (Finset.mem_filter.mpr ⟨Finset.mem_univ i, hmem⟩)
    rw [hzero]
    cases hread : daily_reading k (later i).blocks with
    | none => exact le_rfl
    | some y =>
      by_cases hi' : "daily_stats" ∈ (later i).blocks
      · obtain ⟨y', hy', hnonneg⟩ := exists_daily_reading hk (later i) hi'
        rw [hread, Option.some.injEq] at hy'
        exact hy' ▸ hnonneg
      · rw [daily_reading_of_not_mem hi'] at hread
        cases hread

/-- A failure pattern keeps the site totals from falling, whatever the counters
do, exactly when no inverter that was read once is missing from a later cycle in
which another one is read. -/
theorem totals_nonDecreasing_iff (pattern : List (Finset (Fin N))) :
    (∀ cycles : List (Fin N → PolledBlocks), cycles.map answered = pattern →
      CountersNonDecreasing cycles → TotalsNonDecreasing cycles) ↔
    pattern.Pairwise fun earlier later => later ≠ ∅ → earlier ⊆ later := by
  constructor
  · intro hall
    have htotals : ∀ busy, TotalsNonDecreasing (pattern.map (one_busy busy)) := by
      intro busy
      apply hall
      · rw [List.map_map]
        simp [Function.comp_def, answered_one_busy]
      · unfold CountersNonDecreasing
        rw [List.pairwise_map]
        refine List.pairwise_of_forall fun earlier later i k hk x y hx hy => ?_
        rw [daily_reading_one_busy] at hx hy
        rw [Option.ite_none_right_eq_some] at hx hy
        exact (Option.some.inj (hx.2.symm.trans hy.2)).le
    rw [List.pairwise_iff_getElem]
    intro s t hs ht hst hsome busy hbusy
    by_contra hmissing
    have htotal := htotals busy
    unfold TotalsNonDecreasing at htotal
    rw [List.pairwise_map, List.pairwise_iff_getElem] at htotal
    have hle := htotal s t hs ht hst "pv_energy_today" (by decide) 1 0
      (by rw [site_total_one_busy busy (Finset.ne_empty_of_mem hbusy), if_pos hbusy])
      (by rw [site_total_one_busy busy hsome, if_neg hmissing])
    norm_num at hle
  · rintro hpattern cycles rfl hcounters
    exact totals_nonDecreasing_of_pattern hpattern hcounters

/-- Two inverters have produced 1 kWh each; when the second one's read fails in the
next cycle, the site total falls from 2 to 1. -/
theorem totals_fall_on_failed_read :
    ¬ ∀ (N : Nat) (cycles : List (Fin N → PolledBlocks)),
      CountersNonDecreasing cycles → TotalsNonDecreasing cycles := by
  intro hall
  let both : Fin 2 → PolledBlocks := fun _ => counters_at 10
  let first : Fin 2 → PolledBlocks := ![counters_at 10, PolledBlocks.empty]
  have hcounters : CountersNonDecreasing [both, first] := by
    rw [CountersNonDecreasing, List.pairwise_pair, Fin.forall_fin_two]
    refine ⟨fun k _ x y hx hy => ?_, fun k _ x y _ hy => ?_⟩
    · exact (Option.some.inj (hx.symm.trans hy)).le
    · have hmissing : daily_reading k (first 1).blocks = none :=
        daily_reading_of_not_mem (AList.notMem_empty _)
      rw [hmissing] at hy
      cases hy
  have htotals := hall 2 [both, first] hcounters
  rw [TotalsNonDecreasing, List.pairwise_pair] at htotals
  have hboth : site_total "pv_energy_today" both = some (.num 2) := by decide +kernel
  have hfirst : site_total "pv_energy_today" first = some (.num 1) := by decide +kernel
  have hle := htotals "pv_energy_today" (by decide) 2 1 hboth hfirst
  norm_num at hle

end

end inverter_bridge.aggregator
