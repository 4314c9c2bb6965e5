import InverterBridge.Aggregator.GridPower
import InverterBridge.Daemon.Pipeline

open Python
open inverter_bridge.parsers inverter_bridge.srne_map inverter_bridge.aggregator
open inverter_bridge.energy_integrator

namespace inverter_bridge.daemon

/-- The grid power the integrator gets for the site is, up to `ε`, the sum of what is emitted
for the `N` inverters. -/
def GridPowerAdds (N : Nat) (out : Out) (ε : ℚ) : Prop :=
  ∃ xs : List ℚ, xs.length = N ∧
    (inverter_keys N "grid_power").filterMap out.lookup = xs.map .num ∧
    |watts ((readings out).lookup "grid_power") - xs.sum| ≤ ε

/-- The power the integrator gets is the published one, inverter 1's. -/
theorem watts_grid_power {polled : List PolledBlocks} {out : Out}
    (stages : Stages (polled.map PolledBlocks.blocks) out)
    (hpresent : ∀ inv ∈ polled, (inv.blocks.lookup "state").isSome) :
    watts ((readings out).lookup "grid_power") =
      (polled.head?.map fun inv => py_round (grid_watts inv.blocks) 1).getD 0 := by
  rw [lookup_readings, lookup_grid_power stages hpresent]
  cases polled with
  | nil => rfl
  | cons inv polled => rfl

/-- Emitted for the inverters are their rounded grid powers, whose sum is to be met. -/
theorem gridPowerAdds_iff_abs {polled : List PolledBlocks} {out : Out}
    (stages : Stages (polled.map PolledBlocks.blocks) out)
    (hpresent : ∀ inv ∈ polled, (inv.blocks.lookup "state").isSome) (ε : ℚ) :
    GridPowerAdds polled.length out ε ↔
      |watts ((readings out).lookup "grid_power") -
        (polled.map fun inv => py_round (grid_watts inv.blocks) 1).sum| ≤ ε := by
  have hemitted := filterMap_grid_power stages hpresent
  constructor
  · rintro ⟨xs, -, hxs, hle⟩
    have hinjective : Function.Injective Value.num := fun x y heq => Value.num.inj heq
    rwa [← List.map_injective_iff.mpr hinjective (hemitted.symm.trans hxs)] at hle
  · intro hle
    exact ⟨_, List.length_map _, hemitted, hle⟩

/-- While every `state` is read, the site's grid power is the sum of the inverters' as far as
the other inverters take nothing from the grid: what inverter 1 does not take is missing. -/
theorem gridPowerAdds_iff (polled : List PolledBlocks)
    (hpresent : ∀ inv ∈ polled, (inv.blocks.lookup "state").isSome) :
    ∃ out, aggregate_inverters (polled.map PolledBlocks.blocks) = .ok out ∧
      (polled ≠ [] → out.lookup "grid_power" =
        some (.num (watts ((readings out).lookup "grid_power")))) ∧
      ∀ ε, GridPowerAdds polled.length out ε ↔
        (polled.tail.map fun inv => py_round (grid_watts inv.blocks) 1).sum ≤ ε := by
  obtain ⟨out, hout⟩ := aggregate_inverters_ok polled
  obtain ⟨stages⟩ := Stages.of_ok hout
  have hwatts := watts_grid_power stages hpresent
  have hsplit : (polled.map fun inv => py_round (grid_watts inv.blocks) 1).sum =
      watts ((readings out).lookup "grid_power") +
        (polled.tail.map fun inv => py_round (grid_watts inv.blocks) 1).sum := by
    rw [hwatts]
    cases polled with
    | nil => simp
    | cons inv polled =>
      rw [List.map_cons, List.sum_cons, List.tail_cons]
      rfl
  have hnonneg : 0 ≤ (polled.tail.map fun inv => py_round (grid_watts inv.blocks) 1).sum := by
    apply List.sum_nonneg
    intro x hx
    obtain ⟨inv, -, rfl⟩ := List.mem_map.mp hx
    exact py_round_nonneg 1 (grid_watts_nonneg inv)
  have hmissing : |watts ((readings out).lookup "grid_power") -
      (polled.map fun inv => py_round (grid_watts inv.blocks) 1).sum| =
      (polled.tail.map fun inv => py_round (grid_watts inv.blocks) 1).sum := by
    rw [hsplit, sub_add_cancel_left, abs_neg, abs_of_nonneg hnonneg]
  refine ⟨out, hout, ?_, fun ε => ?_⟩
  · intro hne
    rw [hwatts, lookup_grid_power stages hpresent, List.head?_eq_some_head hne]
    rfl
  · rw [gridPowerAdds_iff_abs stages hpresent, hmissing]

/-- An inverter that takes 10 A from a grid of 120 V. -/
def importing : PolledBlocks :=
  PolledBlocks.empty.store ⟨0x0210, 19, "state", .HOT⟩ (by decide)
    ⟨1, 3, [0, 0, 0, 1200, 100] ++ List.replicate 14 0⟩ _ (parse_block_ok (by decide) rfl)

theorem gridPowerAdds_iff_importing :
    ∃ out, aggregate_inverters [importing.blocks] = .ok out ∧
      ([importing] ≠ [] → out.lookup "grid_power" =
        some (.num (watts ((readings out).lookup "grid_power")))) ∧
      ∀ ε, GridPowerAdds 1 out ε ↔ 0 ≤ ε :=
  gridPowerAdds_iff [importing] (by decide +kernel)

/-- Two inverters take 1200 W each: published and integrated are 1200 W, not 2400 W. -/
theorem second_import_missing :
    ¬ ∀ (polled : List PolledBlocks) (out : Out),
      (∀ inv ∈ polled, (inv.blocks.lookup "state").isSome) →
      aggregate_inverters (polled.map PolledBlocks.blocks) = .ok out →
      GridPowerAdds polled.length out ((polled.length + 1) / 20) := by
  intro hall
  have hpresent : ∀ inv ∈ [importing, importing], (inv.blocks.lookup "state").isSome := by
    decide +kernel
  obtain ⟨out, hout⟩ := aggregate_inverters_ok [importing, importing]
  obtain ⟨stages⟩ := Stages.of_ok hout
  have hle := (gridPowerAdds_iff_abs stages hpresent _).mp (hall _ out hpresent hout)
  have hgrid : py_round (grid_watts importing.blocks) 1 = 1200 := by decide +kernel
  rw [watts_grid_power stages hpresent] at hle
  simp only [List.map_cons, List.map_nil, List.head?_cons, Option.map_some, Option.getD_some,
    hgrid] at hle
  norm_num at hle

end inverter_bridge.daemon
