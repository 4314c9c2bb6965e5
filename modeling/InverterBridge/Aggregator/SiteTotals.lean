import InverterBridge.Aggregator.InverterSums

open Python
open inverter_bridge.parsers inverter_bridge.srne_map

namespace inverter_bridge.aggregator

/-! ## Totals and their parts -/

/-- Wherever `total` is emitted, all that is emitted under `parts` are numbers, and it is
their sum. -/
def IsSumOf (out : Out) (total : String) (parts : List String) : Prop :=
  ∀ v, out.lookup total = some v →
    ∃ xs : List ℚ, parts.filterMap out.lookup = xs.map .num ∧ v = .num xs.sum

/-- `inverter_1_<k>` to `inverter_<N>_<k>`. -/
def inverter_keys (N : Nat) (k : String) : List String :=
  (List.range N).map fun j => inverter_key (j + 1) k

/-! ## The totals of the site -/

/-- `N` inverters' totals are the sums of what is published beside them. -/
structure TotalsAreSums (N : Nat) (out : Out) : Prop where
  load : IsSumOf out "load_power" (inverter_keys N "load_power")
  load_legs : ∀ i v, out.lookup (inverter_key i "load_power") = some v →
    ∃ l1 l2, out.lookup (inverter_key i "load_power_l1") = some (.num l1) ∧
      out.lookup (inverter_key i "load_power_l2") = some (.num l2) ∧ v = .num (l1 + l2)
  pv : IsSumOf out "pv_power" (inverter_keys N "pv_power")
  pv_every : ∀ k ∈ inverter_keys N "pv_power", k ∈ out
  pv_mppts : ∀ i v, out.lookup (inverter_key i "pv_power") = some v →
    ∃ mppt1 mppt2, out.lookup (inverter_key i "pv_power_mppt1") = some (.num mppt1) ∧
      out.lookup (inverter_key i "pv_power_mppt2") = some (.num mppt2) ∧ v = .num (mppt1 + mppt2)
  apparent : ∀ i, IsSumOf out (inverter_key i "load_apparent_power")
    [inverter_key i "load_apparent_power_l1", inverter_key i "load_apparent_power_l2"]
  daily : ∀ k ∈ daily_keys, IsSumOf out k (inverter_keys N k)

theorem filterMap_range_getElem? {α β : Type} (f : α → Option β) (xs : List α) :
    (List.range xs.length).filterMap (fun j => xs[j]?.bind f) = xs.filterMap f := by
  induction xs with
  | nil => rfl
  | cons x xs ih =>
    rw [List.length_cons, List.range_succ_eq_map, List.filterMap_cons, List.filterMap_map,
      List.filterMap_cons, ← ih]
    rfl

section

variable {polled : List PolledBlocks} {out : Out}

/-- What is published under a key for all inverters, in their order. -/
theorem filterMap_inverter_keys (stages : Stages (polled.map PolledBlocks.blocks) out)
    (k : String) :
    (inverter_keys polled.length k).filterMap out.lookup =
      (polled.map PolledBlocks.blocks).filterMap fun inv => last_value (inverter_values inv) k := by
  have hlen : polled.length = (polled.map PolledBlocks.blocks).length := by rw [List.length_map]
  rw [inverter_keys, List.filterMap_map, hlen,
    ← filterMap_range_getElem? _ (polled.map PolledBlocks.blocks)]
  apply List.filterMap_congr
  intro j _
  exact stages.lookup_inverter_key (j + 1) k

/-- A total that sums up the inverters' parts is the sum of what is emitted of them. -/
theorem isSumOf_inverter_keys (stages : Stages (polled.map PolledBlocks.blocks) out)
    {total k : String} {part : Blocks → Option ℚ}
    (hpart : ∀ inv ∈ polled,
      last_value (inverter_values inv.blocks) k = (part inv.blocks).map .num)
    (htotal : ∀ v, out.lookup total = some v →
      v = .num ((polled.map PolledBlocks.blocks).filterMap part).sum) :
    IsSumOf out total (inverter_keys polled.length k) := by
  intro v hv
  refine ⟨_, ?_, htotal v hv⟩
  rw [filterMap_inverter_keys stages, List.filterMap_map, List.filterMap_map, List.map_filterMap]
  apply List.filterMap_congr
  exact hpart

/-- What is published for inverter `i` is what one of the polled inverters' sections assign. -/
theorem exists_of_lookup_inverter_key (stages : Stages (polled.map PolledBlocks.blocks) out)
    {i : Nat} {k : String} {v : Value} (hv : out.lookup (inverter_key i k) = some v) :
    ∃ inv : PolledBlocks, last_value (inverter_values inv.blocks) k = some v ∧
      ∀ key, out.lookup (inverter_key i key) = last_value (inverter_values inv.blocks) key := by
  rw [stages.lookup_inverter_key] at hv
  obtain ⟨blocks, hblocks, hv⟩ := Option.bind_eq_some_iff.mp hv
  have hnumber := hblocks
  unfold inverter_number at hblocks
  split_ifs at hblocks
  obtain ⟨inv, -, rfl⟩ := List.mem_map.mp (List.mem_of_getElem? hblocks)
  exact ⟨inv, hv, fun key => by rw [stages.lookup_inverter_key, hnumber, Option.bind_some]⟩

theorem last_value_of_not_mem {values : List (String × Value)} {k : String}
    (hk : k ∉ values.map Prod.fst) : last_value values k = none := by
  rw [last_value, Dict.lookup_assign_of_not_mem hk, AList.lookup_empty]

/-- What the grid section assigns is read from inverter 1. -/
theorem grid_totals_spec {s : ParsedBlock} {grid : List (String × Value)}
    (hgrid : grid_totals (some s) = .ok grid) :
    grid.map Prod.fst = ["grid_voltage", "grid_frequency", "grid_power", "bus_voltage"] ∧
      ("grid_power", .num (py_round (reading_or_zero (some s) "grid_voltage_l1" *
        reading_or_zero (some s) "grid_current_l1") 1)) ∈ grid := by
  simp only [grid_totals, bind_eq_ok_iff] at hgrid
  obtain ⟨grid_voltage, hv, grid_frequency, -, grid_current, hc, bus_voltage, -, hresult⟩ := hgrid
  simp only [pure, Except.pure, Except.ok.injEq] at hresult
  rw [reading_or_zero_of_field hv, reading_or_zero_of_field hc, ← hresult]
  exact ⟨rfl, by simp⟩

/-- The powers of the site are assigned by one section each. -/
theorem lookup_site_powers (stages : Stages (polled.map PolledBlocks.blocks) out) :
    out.lookup "load_power" =
        last_value (load_totals stages.site stages.after_state) "load_power" ∧
      out.lookup "grid_power" = last_value stages.grid "grid_power" ∧
      out.lookup "pv_power" = last_value (pv_totals stages.pv) "pv_power" := by
  have hdaily {k : String} (hk : k ∉ daily_keys) :
      last_value (daily_totals stages.daily_sums) k = none :=
    last_value_of_not_mem fun h => hk (stages.exists_daily_stats (keys_daily_totals.mp h)).1
  have hbattery {k : String}
      (hk : k ∉ ["battery_state_of_charge", "battery_voltage", "battery_power"]) :
      last_value (battery_totals stages.bank) k = none :=
    last_value_of_not_mem fun h => hk (keys_battery_totals h).2
  have hload {k : String} (hk : k ∉ ["load_power", "mode"]) :
      last_value (load_totals stages.site stages.after_state) k = none :=
    last_value_of_not_mem fun h => hk (keys_load_totals h).2
  have hgrid {k : String}
      (hk : k ∉ ["grid_voltage", "grid_frequency", "grid_power", "bus_voltage"]) :
      last_value stages.grid k = none :=
    last_value_of_not_mem fun h => hk (keys_grid_totals stages.grid_eq h).2
  have hpv {k : String} (hk : k ≠ "pv_power") : last_value (pv_totals stages.pv) k = none :=
    last_value_of_not_mem fun h => hk (keys_pv_totals h).2
  refine ⟨?_, ?_, ?_⟩
  all_goals
    rw [stages.lookup_site_key (by decide), Stages.site_values, last_value_append, last_value_append,
      last_value_append, last_value_append, hdaily (by decide), hbattery (by decide), Option.none_or]
  · rw [hpv (by decide), hgrid (by decide), Option.none_or, Option.none_or, Option.or_none]
  · rw [hpv (by decide), hload (by decide), Option.none_or, Option.none_or, Option.or_none]
  · rw [hgrid (by decide), hload (by decide), Option.none_or, Option.none_or, Option.or_none]

/-- The site's load is the sum of the loads of the inverters whose `state` was read. -/
theorem load_total (stages : Stages (polled.map PolledBlocks.blocks) out) {v : Value}
    (hv : out.lookup "load_power" = some v) :
    v = .num ((polled.map PolledBlocks.blocks).filterMap load_active).sum := by
  have htotal := state_loop_total stages.state_loop
  rw [zero_add] at htotal
  have hwhole : Decimals 1 ((polled.map PolledBlocks.blocks).filterMap load_active).sum := by
    apply Decimals.sum
    intro x hx
    obtain ⟨blocks, hblocks, hload⟩ := List.mem_filterMap.mp hx
    obtain ⟨inv, -, rfl⟩ := List.mem_map.mp hblocks
    obtain ⟨s, -, rfl⟩ := Option.map_eq_some_iff.mp hload
    obtain ⟨hl1, hl2, -⟩ := whole_watts inv 1
    exact hl1.add hl2
  rw [(lookup_site_powers stages).1, load_totals] at hv
  split_ifs at hv
  · have hfirst : .num (py_round stages.site.site_load_active_total 1) = v := by
      split at hv
      all_goals
        refine Option.some.inj (Eq.trans (Eq.symm ?_) hv)
        apply Dict.lookup_assign_of_mem
        · simp
        · exact List.mem_cons_self
    rw [← hfirst, htotal, hwhole.py_round_eq]
  · cases hv

/-- The site's PV power is the sum over all its inverters. -/
theorem pv_total (stages : Stages (polled.map PolledBlocks.blocks) out) {v : Value}
    (hv : out.lookup "pv_power" = some v) :
    v = .num ((polled.map PolledBlocks.blocks).map fun inv => pv_mppt1 inv + pv_mppt2 inv).sum := by
  have htotal := pv_loop_total stages.pv_loop
  rw [zero_add] at htotal
  have hwhole : Decimals 1 ((polled.map PolledBlocks.blocks).map fun inv =>
      pv_mppt1 inv + pv_mppt2 inv).sum := by
    apply Decimals.sum
    intro x hx
    obtain ⟨blocks, hblocks, rfl⟩ := List.mem_map.mp hx
    obtain ⟨inv, -, rfl⟩ := List.mem_map.mp hblocks
    obtain ⟨-, -, hpv1, hpv2⟩ := whole_watts inv 1
    exact hpv1.add hpv2
  rw [(lookup_site_powers stages).2.2, pv_totals] at hv
  split_ifs at hv
  · rw [last_value, Dict.lookup_assign_of_mem (by simp) List.mem_cons_self, Option.some.injEq] at hv
    rw [← hv, htotal, hwhole.py_round_eq]
  · cases hv

/-- The total of a daily counter is the sum of what was read of it. -/
theorem daily_total (stages : Stages (polled.map PolledBlocks.blocks) out) {k : String}
    (hk : k ∈ daily_keys) {v : Value} (hv : out.lookup k = some v) :
    v = .num ((polled.map PolledBlocks.blocks).filterMap (daily_reading k)).sum := by
  have hfields : ∀ k ∈ daily_keys, FieldDecimals "daily_stats" k 1 := by decide +kernel
  have htenths : Decimals 2 ((polled.map PolledBlocks.blocks).filterMap (daily_reading k)).sum := by
    apply Decimals.sum
    intro x hx
    obtain ⟨blocks, hblocks, hread⟩ := List.mem_filterMap.mp hx
    obtain ⟨inv, -, rfl⟩ := List.mem_map.mp hblocks
    obtain ⟨b, hb, hfield⟩ := Option.bind_eq_some_iff.mp hread
    exact ((hfields k hk).decimals (by decide) (inv.decoded "daily_stats" b hb) hfield).mono
      (by decide)
  rw [stages.lookup_daily hk] at hv
  split_ifs at hv
  rw [Option.some.injEq] at hv
  rw [← hv, htenths.py_round_eq]

theorem last_value_load_active (inv : PolledBlocks) :
    last_value (inverter_values inv.blocks) "load_power" =
      (load_active inv.blocks).map .num := by
  rw [load_active]
  cases hs : inv.blocks.lookup "state" with
  | none =>
    rw [last_value_without_state hs (by decide)]
    rfl
  | some s => exact (last_value_load hs).1

end

/-- Site totals are the sums of their parts, for any number of inverters, whichever of their
blocks were read and whatever the registers hold. -/
theorem totals_are_sums (polled : List PolledBlocks) :
    ∃ out, aggregate_inverters (polled.map PolledBlocks.blocks) = .ok out ∧
      TotalsAreSums polled.length out := by
  obtain ⟨out, hout⟩ := aggregate_inverters_ok polled
  obtain ⟨stages⟩ := Stages.of_ok hout
  refine ⟨out, hout, ?_⟩
  constructor
  case load =>
    exact isSumOf_inverter_keys stages (fun inv _ => last_value_load_active inv)
      fun v => load_total stages
  case load_legs =>
    intro i v hv
    obtain ⟨inv, hvalue, hkeys⟩ := exists_of_lookup_inverter_key stages hv
    rw [last_value_load_active] at hvalue
    obtain ⟨total, hload, rfl⟩ := Option.map_eq_some_iff.mp hvalue
    obtain ⟨s, hs, rfl⟩ := Option.map_eq_some_iff.mp hload
    obtain ⟨-, hl1, hl2⟩ := last_value_load hs
    exact ⟨_, _, by rw [hkeys, hl1], by rw [hkeys, hl2], rfl⟩
  case pv =>
    refine @isSumOf_inverter_keys polled out stages "pv_power" "pv_power"
      (fun inv => some (pv_mppt1 inv + pv_mppt2 inv)) (fun _ _ => last_value_pv.1) fun v hv => ?_
    rw [List.filterMap_eq_map']
    exact pv_total stages hv
  case pv_every =>
    intro k hk
    obtain ⟨j, hj, rfl⟩ := List.mem_map.mp hk
    have hinv := List.getElem?_eq_getElem (List.mem_range.mp hj)
    have hlookup := stages.lookup_inverter_key (j + 1) "pv_power"
    rw [inverter_number, if_pos (by omega), Nat.add_sub_cancel, List.getElem?_map, hinv,
      Option.map_some, Option.bind_some, last_value_pv.1] at hlookup
    exact Dict.mem_iff_lookup.mpr ⟨_, hlookup⟩
  case pv_mppts =>
    intro i v hv
    obtain ⟨inv, hvalue, hkeys⟩ := exists_of_lookup_inverter_key stages hv
    obtain ⟨htotal, hmppt1, hmppt2⟩ := @last_value_pv inv
    rw [htotal, Option.some.injEq] at hvalue
    exact ⟨_, _, by rw [hkeys, hmppt1], by rw [hkeys, hmppt2], hvalue.symm⟩
  case apparent =>
    intro i v hv
    obtain ⟨inv, hvalue, hkeys⟩ := exists_of_lookup_inverter_key stages hv
    cases hs : inv.blocks.lookup "state" with
    | none =>
      rw [last_value_without_state hs (by decide)] at hvalue
      cases hvalue
    | some s =>
      obtain ⟨l1, legs, hl1, hl2, htotal⟩ := last_value_apparent hs
      rw [htotal, Option.some.injEq] at hvalue
      refine ⟨l1 :: legs, ?_, hvalue.symm⟩
      rw [← hkeys] at hl1 hl2
      simp only [List.map_cons, ← hl2, List.filterMap_cons, hl1, List.filterMap_nil]
      cases out.lookup (inverter_key i "load_apparent_power_l2") <;> rfl
  case daily =>
    intro k hk
    exact isSumOf_inverter_keys stages (fun inv _ => last_value_daily hk)
      fun v => daily_total stages hk

end inverter_bridge.aggregator
