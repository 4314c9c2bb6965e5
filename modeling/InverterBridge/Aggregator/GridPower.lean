import InverterBridge.Aggregator.SiteTotals

open Python
open inverter_bridge.parsers inverter_bridge.srne_map

namespace inverter_bridge.aggregator

/-! ## Whose grid power is the site's -/

/-- Behind inverter 1 the state loop keeps the block it has got. -/
theorem state_loop_keeps_inv1_state {polled : List PolledBlocks} {i : Nat} (hi : 1 < i)
    {acc site : SiteState} {out out' : Out}
    (hloop : for_inverters state_body i acc out (polled.map PolledBlocks.blocks) =
      .ok (site, out')) : site.inv1_state = acc.inv1_state := by
  induction polled generalizing i acc out with
  | nil =>
    rw [List.map_nil, for_inverters, Except.ok.injEq, Prod.mk.injEq] at hloop
    rw [hloop.1]
  | cons inv polled ih =>
    rw [List.map_cons, for_inverters, bind_eq_ok_iff] at hloop
    obtain ⟨⟨mid, assigned⟩, hinv, hrest⟩ := hloop
    rw [ih (Nat.lt_succ_of_lt hi) hrest]
    cases hs : inv.blocks.lookup "state" with
    | none =>
      simp only [state_body, hs, Except.ok.injEq, Prod.mk.injEq] at hinv
      rw [hinv.1]
    | some s =>
      obtain ⟨values, hbody, -⟩ := state_body_spec hs acc i
      rw [hbody, Except.ok.injEq, Prod.mk.injEq, if_neg (Nat.ne_of_gt hi)] at hinv
      rw [← hinv.1]

/-- The state loop picks the state of inverter 1. -/
theorem state_loop_inv1_state {polled : List PolledBlocks} {site : SiteState} {out out' : Out}
    (hloop : for_inverters state_body 1 ⟨none, 0, false⟩ out (polled.map PolledBlocks.blocks) =
      .ok (site, out')) :
    site.inv1_state = polled.head?.bind fun inv => inv.blocks.lookup "state" := by
  cases polled with
  | nil =>
    rw [List.map_nil, for_inverters, Except.ok.injEq, Prod.mk.injEq] at hloop
    rw [← hloop.1]
    rfl
  | cons inv polled =>
    rw [List.map_cons, for_inverters, bind_eq_ok_iff] at hloop
    obtain ⟨⟨mid, assigned⟩, hinv, hrest⟩ := hloop
    rw [state_loop_keeps_inv1_state (by decide) hrest, List.head?_cons, Option.bind_some]
    cases hs : inv.blocks.lookup "state" with
    | none =>
      simp only [state_body, hs, Except.ok.injEq, Prod.mk.injEq] at hinv
      rw [← hinv.1]
    | some s =>
      obtain ⟨values, hbody, -⟩ := state_body_spec hs ⟨none, 0, false⟩ 1
      rw [hbody, Except.ok.injEq, Prod.mk.injEq, if_pos rfl] at hinv
      rw [← hinv.1]

section

variable {inv : PolledBlocks} {polled : List PolledBlocks} {out : Out}

/-- The grid power emitted for an inverter whose `state` was read. -/
theorem last_value_grid_power {s : ParsedBlock} (hs : inv.blocks.lookup "state" = some s) :
    last_value (inverter_values inv.blocks) "grid_power" =
      some (.num (py_round (grid_watts inv.blocks) 1)) := by
  obtain ⟨assigned, hbody, -, -, -, -, -, hgrid⟩ := state_body_spec hs ⟨none, 0, false⟩ 1
  exact last_value_of_mem (state_values_subset hbody hgrid)

/-- Neither grid voltage nor grid current has a sign. -/
theorem grid_watts_nonneg (inv : PolledBlocks) : 0 ≤ grid_watts inv.blocks := by
  have hvoltage : Unsigned "state" "grid_voltage_l1" := by decide +kernel
  have hcurrent : Unsigned "state" "grid_current_l1" := by decide +kernel
  exact mul_nonneg (hvoltage.reading_or_zero_nonneg inv) (hcurrent.reading_or_zero_nonneg inv)

/-- What is emitted under `inverter_<i>_grid_power` when every `state` was read. -/
theorem filterMap_grid_power (stages : Stages (polled.map PolledBlocks.blocks) out)
    (hpresent : ∀ inv ∈ polled, (inv.blocks.lookup "state").isSome) :
    (inverter_keys polled.length "grid_power").filterMap out.lookup =
      (polled.map fun inv => py_round (grid_watts inv.blocks) 1).map .num := by
  rw [filterMap_inverter_keys stages, List.filterMap_map, List.map_map, ← List.filterMap_eq_map]
  apply List.filterMap_congr
  intro inv hinv
  obtain ⟨s, hs⟩ := Option.isSome_iff_exists.mp (hpresent inv hinv)
  exact last_value_grid_power hs

/-- The site's grid power is inverter 1's. -/
theorem lookup_grid_power (stages : Stages (polled.map PolledBlocks.blocks) out)
    (hpresent : ∀ inv ∈ polled, (inv.blocks.lookup "state").isSome) :
    out.lookup "grid_power" =
      polled.head?.map fun inv => .num (py_round (grid_watts inv.blocks) 1) := by
  have hinv1 := state_loop_inv1_state stages.state_loop
  have hgrid := stages.grid_eq
  rw [(lookup_site_powers stages).2.1]
  cases polled with
  | nil =>
    rw [hinv1, List.head?_nil, Option.bind_none, grid_totals, Except.ok.injEq] at hgrid
    rw [← hgrid]
    rfl
  | cons inv polled =>
    obtain ⟨s, hs⟩ := Option.isSome_iff_exists.mp (hpresent inv List.mem_cons_self)
    rw [hinv1, List.head?_cons, Option.bind_some, hs] at hgrid
    obtain ⟨hkeys, hmem⟩ := grid_totals_spec hgrid
    rw [List.head?_cons, Option.map_some, grid_watts, hs]
    apply Dict.lookup_assign_of_mem
    · rw [hkeys]
      decide
    · exact hmem

end

end inverter_bridge.aggregator
