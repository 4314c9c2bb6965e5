import InverterBridge.Aggregator.PowerSigns
import InverterBridge.Daemon.Pipeline

open Python
open inverter_bridge.srne_map inverter_bridge.aggregator inverter_bridge.energy_integrator

namespace inverter_bridge.daemon

variable {N : Nat}

/-- The hot polls of this world return decoded blocks. -/
def World.Decodes (w : World N) : Prop :=
  ∀ k result, w.poll k .HOT = .ok result → ∀ blocks ∈ result.per_inverter,
    ∃ polled : PolledBlocks, polled.blocks = blocks

theorem World.Polls.decodes {w : World N} (hpolls : w.Polls) : w.Decodes :=
  fun k result hpoll blocks hblocks => (hpolls k .HOT result hpoll blocks hblocks).exists_polled

/-- What a hot cycle integrates is an aggregation of polled blocks. -/
theorem World.Decodes.exists_polled {w : World N} (hdecodes : w.Decodes) {k : Nat}
    {result : PollResult N} (hpoll : w.poll k .HOT = .ok result) :
    ∃ polled : List PolledBlocks, polled.map PolledBlocks.blocks = result.per_inverter :=
  exists_polled_list (hdecodes k result hpoll)

/-- The integrator gets no negative load, PV or grid power. -/
theorem watts_nonneg {polled : List PolledBlocks} {out : Out}
    (hout : aggregate_inverters (polled.map PolledBlocks.blocks) = .ok out) {k : String}
    (hk : k ∈ ["load_power", "pv_power", "grid_power"]) : 0 ≤ watts ((readings out).lookup k) := by
  rw [lookup_readings]
  cases hv : out.lookup k with
  | none => exact le_refl 0
  | some v =>
    obtain ⟨x, rfl, hx⟩ := power_nonneg hout hk hv
    exact hx

/-- A call without negative grid power leaves the export accumulator as it is. -/
theorem charged_grid_energy_out (self : EnergyIntegrator) {call : Call}
    (hgrid : 0 ≤ watts (call.aggregated.lookup "grid_power")) :
    (self.charged call).wh .grid_energy_out_wh = self.wh .grid_energy_out_wh := by
  have henergy : call.energy .grid_energy_out_wh = 0 := by
    unfold Call.energy
    cases integrable call.elapsed_s with
    | none => rfl
    | some e =>
      change (watts (call.aggregated.lookup "grid_power"))⁻ * (e / 3600) = 0
      rw [negPart_of_nonneg hgrid, zero_mul]
  unfold EnergyIntegrator.charged
  dsimp only
  rw [henergy, PyFloat.add_finite_zero]

/-- The aggregator meets the contract of the integrator: whatever the registers hold, load,
PV and grid power are not negative, no hot cycle of any run passes a negative one to the
integrator, and the export accumulator stays at the value it had at start-up. -/
theorem MainLoop.grid_energy_out_constant (self : MainLoop) (w : World N) (hdecodes : w.Decodes)
    (integrator : EnergyIntegrator) (n : Nat) :
    (∀ (polled : List PolledBlocks) out,
      aggregate_inverters (polled.map PolledBlocks.blocks) = .ok out →
      ∀ k ∈ ["load_power", "pv_power", "grid_power"], ∀ v, out.lookup k = some v →
        ∃ x, v = .num x ∧ 0 ≤ x) ∧
    (∀ aggregated elapsed_s, .updated aggregated elapsed_s ∈ (self.after w integrator n).trace →
      ∀ k ∈ ["load_power", "pv_power", "grid_power"],
        ∃ power, coerce_power (aggregated.lookup k) = .ok power ∧ 0 ≤ power) ∧
    (self.after w integrator n).integrator.wh .grid_energy_out_wh =
      integrator.wh .grid_energy_out_wh := by
  refine ⟨fun polled out hout k hk v hv => power_nonneg hout hk hv, ?_, ?_⟩
  · intro aggregated elapsed_s hmem k hk
    obtain ⟨j, result, out, hpoll, hout, rfl⟩ := self.explained_of_mem_trace hmem
    obtain ⟨polled, hpolled⟩ := hdecodes.exists_polled hpoll
    rw [← hpolled] at hout
    have hconsumed : ∀ k ∈ ["load_power", "pv_power", "grid_power"],
        k ∈ ["battery_power", "load_power", "pv_power", "grid_power"] := by decide
    exact ⟨_, coerce_power_eq (listed_readings out (.finite elapsed_s) k (hconsumed k hk)),
      watts_nonneg hout hk⟩
  · refine (self.ran_after w integrator n).preserves
      (P := fun s => s.integrator.wh .grid_energy_out_wh = integrator.wh .grid_energy_out_wh) rfl ?_
    intro s s' hs heffect
    cases heffect with
    | @updated k result out hpoll hout =>
      obtain ⟨polled, hpolled⟩ := hdecodes.exists_polled hpoll
      rw [← hpolled] at hout
      rw [← hs]
      exact charged_grid_energy_out _ (watts_nonneg hout (by decide))
    | clock | polled | client | published | saved | cold_done => exact hs

theorem MainLoop.grid_energy_out_constant_saturated :
    ((⟨.finite 600, 0⟩ : MainLoop).after saturated_world .zero 3).integrator.wh
      .grid_energy_out_wh = .finite 0 :=
  (MainLoop.grid_energy_out_constant ⟨.finite 600, 0⟩ saturated_world
    saturated_world_polls.decodes .zero 3).2.2

end inverter_bridge.daemon
