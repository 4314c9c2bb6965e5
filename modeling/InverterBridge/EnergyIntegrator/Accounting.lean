import InverterBridge.EnergyIntegrator.Update
import InverterBridge.Lib.Meter

open Python

namespace inverter_bridge.energy_integrator

namespace EnergyIntegrator

/-- A sequence of calls of `update`, with what they return. -/
def updates (self : EnergyIntegrator) : List Call →
    Except PyError (EnergyIntegrator × List Snapshot)
  | [] => .ok (self, [])
  | call :: calls => do
    let (self, snapshot) ← self.update call.aggregated call.elapsed_s
    let (self, snapshots) ← self.updates calls
    return (self, snapshot :: snapshots)

/-- All accumulators are finite and not negative. -/
def Sound (self : EnergyIntegrator) : Prop := ∀ k, (self.wh k).Sound

/-- What the six meters show after each call. -/
def shown (self : EnergyIntegrator) : List Call → List Snapshot
  | [] => []
  | call :: calls => (self.charged call).snapshot_kwh :: (self.charged call).shown calls

end EnergyIntegrator

/-- No value of the later snapshot is below that of the earlier one. -/
def NotBelow (earlier later : Snapshot) : Prop :=
  List.Forall₂ (fun x y => x.1 = y.1 ∧ ∃ p q, x.2 = .finite p ∧ y.2 = .finite q ∧ p ≤ q) earlier later

/-- The energy a call moves in one direction less what it moves in the other. -/
def Call.net (call : Call) (power_key : String) : ℚ :=
  match integrable call.elapsed_s with
  | some e => watts (call.aggregated.lookup power_key) * (e / 3600)
  | none => 0

theorem WhKey.part_nonneg (k : WhKey) (power : ℚ) : 0 ≤ k.part power := by
  cases k with
  | battery_energy_out_wh | grid_energy_out_wh => exact negPart_nonneg power
  | _ => exact posPart_nonneg power

theorem Call.energy_nonneg (call : Call) (k : WhKey) : 0 ≤ call.energy k := by
  unfold energy
  cases he : integrable call.elapsed_s with
  | none => exact le_refl 0
  | some e =>
    have hpos : 0 < e := (integrable_eq_some_iff.mp he).2.1
    exact mul_nonneg (k.part_nonneg _) (by positivity)

theorem Call.energy_sub_energy {call : Call} {k_in k_out : WhKey}
    (hin : k_in.part = posPart) (hout : k_out.part = negPart)
    (hkey : k_out.power_key = k_in.power_key) :
    call.energy k_in - call.energy k_out = call.net k_in.power_key := by
  unfold energy net
  cases integrable call.elapsed_s with
  | none => exact sub_self 0
  | some e =>
    dsimp only
    rw [hin, hout, hkey, ← sub_mul, posPart_sub_negPart]

/-- Over a run the two directions differ by the net integral. -/
theorem sum_energy_sub (calls : List Call) (k_in k_out : WhKey) (hin : k_in.part = posPart)
    (hout : k_out.part = negPart) (hkey : k_out.power_key = k_in.power_key) :
    (calls.map fun call => call.energy k_in).sum - (calls.map fun call => call.energy k_out).sum =
      (calls.map fun call => call.net k_in.power_key).sum := by
  rw [sub_eq_iff_eq_add, ← List.sum_map_add]
  simp only [← Call.energy_sub_energy hin hout hkey, sub_add_cancel]

namespace EnergyIntegrator

variable {self : EnergyIntegrator} {calls : List Call}

theorem Sound.charged (h : self.Sound) (call : Call) : (self.charged call).Sound :=
  fun k => (h k).add (call.energy_nonneg k)

theorem Sound.value_charged (h : self.Sound) (call : Call) (k : WhKey) :
    ((self.charged call).wh k).value = (self.wh k).value + call.energy k :=
  (h k).value_add _

theorem Sound.foldl (h : self.Sound) (calls : List Call) :
    (calls.foldl EnergyIntegrator.charged self).Sound :=
  Meter.foldl_preserves h fun _ call _ h => h.charged call

/-- Every accumulator adds up the energy of the calls. -/
theorem Sound.value_foldl (h : self.Sound) (calls : List Call) (k : WhKey) :
    ((calls.foldl EnergyIntegrator.charged self).wh k).value =
      (self.wh k).value + (calls.map fun call => call.energy k).sum := by
  have hamounts : Meter.amounts EnergyIntegrator.charged (fun _ call => call.energy k) self calls
      = calls.map fun call => call.energy k :=
    Meter.amounts_eq_map EnergyIntegrator.charged self fun _ _ _ => rfl
  rw [← hamounts]
  exact Meter.reading_foldl (fun self : EnergyIntegrator => (self.wh k).value) h
    (fun _ call _ h => h.charged call) fun _ call _ h => h.value_charged call k

theorem Sound.le_foldl (h : self.Sound) (calls : List Call) (k : WhKey) :
    (self.wh k).value ≤ ((calls.foldl EnergyIntegrator.charged self).wh k).value :=
  Meter.le_reading_foldl (fun self : EnergyIntegrator => (self.wh k).value)
    (fun _ call => call.energy k) h (fun _ call _ h => h.charged call)
    (fun _ call _ h => h.value_charged call k) fun _ call _ _ => call.energy_nonneg k

/-- The calls return what the meters show. -/
theorem updates_eq (hlisted : ∀ call ∈ calls, call.Listed) :
    self.updates calls = .ok (calls.foldl EnergyIntegrator.charged self, self.shown calls) := by
  induction calls generalizing self with
  | nil => rfl
  | cons call calls ih =>
    have hrest := @ih (self.charged call) fun other hother =>
      hlisted other (List.mem_cons_of_mem _ hother)
    rw [updates, update_eq self (hlisted call List.mem_cons_self)]
    simp only [bind, Except.bind, hrest, pure, Except.pure, shown, List.foldl_cons]

theorem length_shown : (self.shown calls).length = calls.length := by
  induction calls generalizing self with
  | nil => rfl
  | cons call calls ih => rw [shown, List.length_cons, List.length_cons, ih]

/-- The meters show the accumulators as each call leaves them. -/
theorem getElem?_shown {n : Nat} (hn : n < calls.length) :
    (self.shown calls)[n]? =
      some ((calls.take (n + 1)).foldl EnergyIntegrator.charged self).snapshot_kwh := by
  induction calls generalizing self n with
  | nil => cases hn
  | cons call calls ih =>
    rw [shown, List.take_succ_cons, List.foldl_cons]
    cases n with
    | zero => rfl
    | succ n =>
      rw [List.getElem?_cons_succ]
      exact ih (Nat.lt_of_succ_lt_succ hn)

/-- The published values follow the accumulators. -/
theorem Sound.notBelow {self' : EnergyIntegrator} (h : self.Sound) (h' : self'.Sound)
    (hle : ∀ k, (self.wh k).value ≤ (self'.wh k).value) :
    NotBelow self.snapshot_kwh self'.snapshot_kwh := by
  unfold NotBelow snapshot_kwh
  rw [List.forall₂_map_left_iff, List.forall₂_map_right_iff, List.forall₂_same]
  intro k _
  refine ⟨rfl, py_round ((self.wh k).value / 1000) 3, py_round ((self'.wh k).value / 1000) 3, ?_, ?_, ?_⟩
  · rw [(h k).eq_value]
    rfl
  · rw [(h' k).eq_value]
    rfl
  · apply py_round_mono
    have hk := hle k
    gcongr

/-- What is shown comes from accumulators that are sound and not below the first ones. -/
theorem Sound.exists_of_mem_shown (h : self.Sound) {snapshot : Snapshot}
    (hmem : snapshot ∈ self.shown calls) :
    ∃ self' : EnergyIntegrator, self'.Sound ∧ (∀ k, (self.wh k).value ≤ (self'.wh k).value) ∧
      snapshot = self'.snapshot_kwh := by
  induction calls generalizing self with
  | nil => cases hmem
  | cons call calls ih =>
    have hle : ∀ k, (self.wh k).value ≤ ((self.charged call).wh k).value := by
      intro k
      rw [h.value_charged call k]
      exact le_add_of_nonneg_right (call.energy_nonneg k)
    cases List.mem_cons.mp hmem with
    | inl hnow => exact ⟨self.charged call, h.charged call, hle, hnow⟩
    | inr hlater =>
      obtain ⟨self', hsound, hle', heq⟩ := ih (h.charged call) hlater
      exact ⟨self', hsound, fun k => (hle k).trans (hle' k), heq⟩

/-- What is shown later is not below what is shown before. -/
theorem Sound.pairwise_shown (h : self.Sound) (calls : List Call) :
    (self.shown calls).Pairwise NotBelow := by
  induction calls generalizing self with
  | nil => exact .nil
  | cons call calls ih =>
    refine .cons (fun snapshot hmem => ?_) (ih (h.charged call))
    obtain ⟨self', hsound, hle, rfl⟩ := (h.charged call).exists_of_mem_shown hmem
    exact (h.charged call).notBelow hsound hle

/-- Energy accounting over whole runs, from accumulators that are finite and not
negative: each accumulator adds up its part of the power over the valid steps, so what
went in less what came out is the net integral; no accumulator goes down or becomes
negative, invalid steps change nothing, and the published values, which are those of the
accumulators after each call, never go down. -/
theorem energy_accounting (hsound : self.Sound) (hlisted : ∀ call ∈ calls, call.Listed) :
    ∃ self' snapshots, self.updates calls = .ok (self', snapshots) ∧ self'.Sound ∧
      (∀ k, (self'.wh k).value = (self.wh k).value + (calls.map fun call => call.energy k).sum) ∧
      (∀ k, (self.wh k).value ≤ (self'.wh k).value) ∧
      (self'.wh .battery_energy_in_wh).value - (self'.wh .battery_energy_out_wh).value =
        (self.wh .battery_energy_in_wh).value - (self.wh .battery_energy_out_wh).value +
          (calls.map fun call => call.net "battery_power").sum ∧
      (self'.wh .grid_energy_in_wh).value - (self'.wh .grid_energy_out_wh).value =
        (self.wh .grid_energy_in_wh).value - (self.wh .grid_energy_out_wh).value +
          (calls.map fun call => call.net "grid_power").sum ∧
      (∀ (self : EnergyIntegrator) (call : Call), integrable call.elapsed_s = none →
        self.update call.aggregated call.elapsed_s = .ok (self, self.snapshot_kwh)) ∧
      snapshots.length = calls.length ∧
      (∀ n < calls.length, ∃ self_n shown_n,
        self.updates (calls.take (n + 1)) = .ok (self_n, shown_n) ∧
        snapshots[n]? = some self_n.snapshot_kwh) ∧
      snapshots.Pairwise NotBelow := by
  have hbattery : _ = (calls.map fun call => call.net "battery_power").sum :=
    sum_energy_sub calls .battery_energy_in_wh .battery_energy_out_wh rfl rfl rfl
  have hgrid : _ = (calls.map fun call => call.net "grid_power").sum :=
    sum_energy_sub calls .grid_energy_in_wh .grid_energy_out_wh rfl rfl rfl
  refine ⟨_, _, updates_eq hlisted, hsound.foldl calls, hsound.value_foldl calls,
    hsound.le_foldl calls, ?_, ?_, ?_, length_shown, ?_, hsound.pairwise_shown calls⟩
  · rw [hsound.value_foldl, hsound.value_foldl, ← hbattery]
    ring
  · rw [hsound.value_foldl, hsound.value_foldl, ← hgrid]
    ring
  · intro self call hanomaly
    unfold update
    rw [hanomaly]
  · intro n hn
    have htaken : ∀ call ∈ calls.take (n + 1), call.Listed :=
      fun call hcall => hlisted call (List.mem_of_mem_take hcall)
    exact ⟨_, _, updates_eq htaken, getElem?_shown hn⟩

/-- A battery charged with 720 W, and a PV reading that is no number. -/
def charging (elapsed_s : PyFloat) : Call where
  aggregated := Dict.assign ∅ [("battery_power", .float (.finite 720)), ("pv_power", .float .nan)]
  elapsed_s

/-- Five seconds of 720 W are one watt-hour; a step without end is skipped. -/
theorem energy_accounting_charging :
    ∃ self' snapshots, zero.updates [charging (.finite 5), charging .inf] =
      .ok (self', snapshots) ∧ (self'.wh .battery_energy_in_wh).value = 1 := by
  have hsound : zero.Sound := fun _ => ⟨0, le_refl 0, rfl⟩
  have hlisted : ∀ call ∈ [charging (.finite 5), charging .inf], call.Listed := by
    intro call hcall key hkey n
    simp only [List.mem_cons, List.not_mem_nil, or_false] at hcall hkey
    obtain rfl | rfl := hcall <;> obtain rfl | rfl | rfl | rfl := hkey <;> nofun
  obtain ⟨self', snapshots, hrun, -, hvalue, -⟩ := energy_accounting hsound hlisted
  refine ⟨self', snapshots, hrun, ?_⟩
  rw [hvalue]
  decide +kernel

end EnergyIntegrator

end inverter_bridge.energy_integrator
