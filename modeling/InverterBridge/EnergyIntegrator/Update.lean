import InverterBridge.Lib.Dict
import InverterBridge.Lib.PyFloat
import Mathlib.Algebra.Order.Group.PosPart

open Python

namespace inverter_bridge.energy_integrator

/-- `_WH_KEYS`, the accumulators. -/
inductive WhKey where
  | battery_energy_in_wh
  | battery_energy_out_wh
  | pv_energy_wh
  | load_energy_wh
  | grid_energy_in_wh
  | grid_energy_out_wh
  deriving DecidableEq

/-- `_WH_KEYS` in order. -/
def WH_KEYS : List WhKey :=
  [.battery_energy_in_wh, .battery_energy_out_wh, .pv_energy_wh, .load_energy_wh,
    .grid_energy_in_wh, .grid_energy_out_wh]

/-- `_WH_TO_KWH_KEY[wh_key]`. -/
def WH_TO_KWH_KEY : WhKey → String
  | .battery_energy_in_wh => "battery_energy_in"
  | .battery_energy_out_wh => "battery_energy_out"
  | .pv_energy_wh => "pv_energy"
  | .load_energy_wh => "load_energy"
  | .grid_energy_in_wh => "grid_energy_in"
  | .grid_energy_out_wh => "grid_energy_out"

/-- `_MAX_ELAPSED_S`. -/
def MAX_ELAPSED_S : ℚ := 600

/-- The accumulators, `self._wh`. -/
@[ext] structure EnergyIntegrator where
  wh : WhKey → PyFloat

/-- `{k: 0.0 for k in _WH_KEYS}`. -/
def EnergyIntegrator.zero : EnergyIntegrator := ⟨fun _ => .finite 0⟩

/-- What `update` returns: the public keys with their kWh. -/
abbrev Snapshot := List (String × PyFloat)

/-- `_coerce_power(aggregated.get(key))`. -/
def coerce_power : Option Scalar → Except PyError ℚ
  | some (.int n) => float_of_int n
  | some (.float (.finite x)) => .ok x
  | _ => .ok 0

/-- The seconds to integrate over: `none` for a clock anomaly. -/
def integrable (elapsed_s : PyFloat) : Option ℚ :=
  match elapsed_s with
  | .finite e => if e ≤ 0 ∨ MAX_ELAPSED_S < e then none else some e
  | _ => none

namespace EnergyIntegrator

/-- `self._wh[k] += x`. -/
def add (self : EnergyIntegrator) (k : WhKey) (x : ℚ) : EnergyIntegrator :=
  ⟨Function.update self.wh k (self.wh k + .finite x)⟩

/-- `_snapshot_kwh()`. -/
def snapshot_kwh (self : EnergyIntegrator) : Snapshot :=
  WH_KEYS.map fun wh_key => (WH_TO_KWH_KEY wh_key, ((self.wh wh_key).div 1000).round 3)

/-- `update(aggregated, elapsed_s)`. -/
def update (self : EnergyIntegrator) (aggregated : Dict String Scalar) (elapsed_s : PyFloat) :
    Except PyError (EnergyIntegrator × Snapshot) :=
  match integrable elapsed_s with
  | none => .ok (self, self.snapshot_kwh)
  | some elapsed_s => do
    let battery_power ← coerce_power (aggregated.lookup "battery_power")
    let load_power ← coerce_power (aggregated.lookup "load_power")
    let pv_power ← coerce_power (aggregated.lookup "pv_power")
    let grid_power ← coerce_power (aggregated.lookup "grid_power")
    let dt_h := elapsed_s / 3600
    let self :=
      if 0 < battery_power then self.add .battery_energy_in_wh (battery_power * dt_h)
      else if battery_power < 0 then self.add .battery_energy_out_wh (-battery_power * dt_h)
      else self
    let self := if 0 < pv_power then self.add .pv_energy_wh (pv_power * dt_h) else self
    let self := if 0 < load_power then self.add .load_energy_wh (load_power * dt_h) else self
    let self :=
      if 0 < grid_power then self.add .grid_energy_in_wh (grid_power * dt_h)
      else if grid_power < 0 then self.add .grid_energy_out_wh (-grid_power * dt_h)
      else self
    return (self, self.snapshot_kwh)

end EnergyIntegrator

/-! ## The accumulators as meters -/

/-- The power an accumulator integrates. -/
def WhKey.power_key : WhKey → String
  | .battery_energy_in_wh | .battery_energy_out_wh => "battery_power"
  | .pv_energy_wh => "pv_power"
  | .load_energy_wh => "load_power"
  | .grid_energy_in_wh | .grid_energy_out_wh => "grid_power"

/-- The part of the power an accumulator integrates: the negative part for what flows out
of the battery or into the grid. -/
def WhKey.part : WhKey → ℚ → ℚ
  | .battery_energy_out_wh | .grid_energy_out_wh => negPart
  | _ => posPart

/-- The power an entry stands for: a finite float, and zero for anything else. -/
def watts : Option Scalar → ℚ
  | some (.float (.finite x)) => x
  | _ => 0

/-- One call of `update`. -/
structure Call where
  aggregated : Dict String Scalar
  elapsed_s : PyFloat

/-- The entries are missing, strings, booleans or floats: no integers. -/
def Call.Listed (call : Call) : Prop :=
  ∀ key ∈ ["battery_power", "load_power", "pv_power", "grid_power"], ∀ n,
    call.aggregated.lookup key ≠ some (.int n)

/-- The energy a call adds to an accumulator, in Wh. -/
def Call.energy (call : Call) (k : WhKey) : ℚ :=
  match integrable call.elapsed_s with
  | some e => k.part (watts (call.aggregated.lookup k.power_key)) * (e / 3600)
  | none => 0

/-- The accumulators after a call. -/
def EnergyIntegrator.charged (self : EnergyIntegrator) (call : Call) : EnergyIntegrator :=
  ⟨fun k => self.wh k + .finite (call.energy k)⟩

theorem coerce_power_eq {value : Option Scalar} (hvalue : ∀ n, value ≠ some (.int n)) :
    coerce_power value = .ok (watts value) := by
  unfold coerce_power watts
  split
  case h_1 n => exact absurd rfl (hvalue n)
  case h_2 => rfl
  case h_3 hnot =>
    split
    · exact absurd rfl (hnot _)
    · rfl

theorem integrable_eq_some_iff {elapsed_s : PyFloat} {e : ℚ} :
    integrable elapsed_s = some e ↔ elapsed_s = .finite e ∧ 0 < e ∧ e ≤ MAX_ELAPSED_S := by
  unfold integrable
  cases elapsed_s with
  | finite x =>
    dsimp only
    split_ifs with hanomaly
    · constructor
      · nofun
      · rintro ⟨heq, hpos, hle⟩
        cases heq
        cases hanomaly with
        | inl h => exact absurd hpos (not_lt.mpr h)
        | inr h => exact absurd hle (not_le.mpr h)
    · rw [not_or, not_le, not_lt] at hanomaly
      constructor
      · rintro heq
        cases heq
        exact ⟨rfl, hanomaly⟩
      · rintro ⟨heq, -⟩
        cases heq
        rfl
  | inf | neg_inf | nan => simp

namespace EnergyIntegrator

variable (self : EnergyIntegrator)

theorem add_zero (k : WhKey) : self.add k 0 = self := by
  rw [add, PyFloat.add_finite_zero, Function.update_eq_self]

/-- A guard against negative power integrates its positive part. -/
theorem add_guarded (k : WhKey) (power dt_h : ℚ) :
    (if 0 < power then self.add k (power * dt_h) else self) = self.add k (power⁺ * dt_h) := by
  split_ifs with hpos
  · rw [posPart_of_nonneg hpos.le]
  · rw [posPart_of_nonpos (not_lt.mp hpos), zero_mul, add_zero]

/-- A split by sign integrates both parts. -/
theorem add_split (k_in k_out : WhKey) (power dt_h : ℚ) :
    (if 0 < power then self.add k_in (power * dt_h)
      else if power < 0 then self.add k_out (-power * dt_h) else self) =
      (self.add k_in (power⁺ * dt_h)).add k_out (power⁻ * dt_h) := by
  split_ifs with hpos hneg
  · rw [posPart_of_nonneg hpos.le, negPart_of_nonneg hpos.le, zero_mul, add_zero]
  · rw [posPart_of_nonpos hneg.le, negPart_of_nonpos hneg.le, zero_mul, add_zero]
  · have hzero : power = 0 := le_antisymm (not_lt.mp hpos) (not_lt.mp hneg)
    rw [hzero, posPart_zero, negPart_zero, zero_mul, add_zero, add_zero]

/-- An update charges the six meters, and returns what they show. -/
theorem update_eq {call : Call} (hlisted : call.Listed) :
    self.update call.aggregated call.elapsed_s =
      .ok (self.charged call, (self.charged call).snapshot_kwh) := by
  unfold update
  cases he : integrable call.elapsed_s with
  | none =>
    have hsame : self.charged call = self := by
      unfold charged Call.energy
      simp only [he, PyFloat.add_finite_zero]
    rw [hsame]
  | some e =>
    have hcharged : (((((self.add .battery_energy_in_wh
        ((watts (call.aggregated.lookup "battery_power"))⁺ * (e / 3600))).add .battery_energy_out_wh
        ((watts (call.aggregated.lookup "battery_power"))⁻ * (e / 3600))).add .pv_energy_wh
        ((watts (call.aggregated.lookup "pv_power"))⁺ * (e / 3600))).add .load_energy_wh
        ((watts (call.aggregated.lookup "load_power"))⁺ * (e / 3600))).add .grid_energy_in_wh
        ((watts (call.aggregated.lookup "grid_power"))⁺ * (e / 3600))).add .grid_energy_out_wh
        ((watts (call.aggregated.lookup "grid_power"))⁻ * (e / 3600)) = self.charged call := by
      apply EnergyIntegrator.ext
      funext k
      cases k <;> simp [add, charged, Function.update, Call.energy, he, WhKey.part, WhKey.power_key]
    simp only [Call.Listed, List.forall_mem_cons] at hlisted
    obtain ⟨hbattery, hload, hpv, hgrid, -⟩ := hlisted
    simp only [coerce_power_eq hbattery, coerce_power_eq hload, coerce_power_eq hpv,
      coerce_power_eq hgrid, add_split, add_guarded, hcharged, bind, Except.bind, pure, Except.pure]

end EnergyIntegrator

end inverter_bridge.energy_integrator
