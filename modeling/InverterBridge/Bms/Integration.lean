import Mathlib.Data.List.Induction
import InverterBridge.Bms.Aggregator
import InverterBridge.Bms.EnergyState
import InverterBridge.Lib.Meter

open Python
open inverter_bridge.bms.aggregator

namespace inverter_bridge.bms.service

/-- A service with its energy file: the totals that were saved last. -/
structure Station extends BmsService where
  energy_persist : PyFloat × PyFloat

/-- Both totals, as they are saved. -/
def Station.totals (self : Station) : PyFloat × PyFloat := (self.energy_in_Wh, self.energy_out_Wh)

/-- `_save_energy_state()`: a save that fails is logged, and leaves the file as it is. -/
def Station.save_energy_state (self : Station) (succeeds : Bool) : Station :=
  if succeeds then { self with energy_persist := self.totals } else self

/-- A call of `_integrate_energy(aggregate_bank(pia_by_pack, pib_by_pack))`: the time it
reads, and whether a save succeeds. -/
structure Call where
  now : ℚ
  pia_by_pack : Dict Nat PiaData
  pib_by_pack : Option (Dict Nat PibData)
  save_succeeds : Bool

def Call.agg (call : Call) : BankAggregates := aggregate_bank call.pia_by_pack call.pib_by_pack

/-- The two totals as they are published. -/
def Station.published (self : Station) : List (String × PyFloat) :=
  [("bluesun_battery_energy_in", self.energy_in_Wh),
    ("bluesun_battery_energy_out", self.energy_out_Wh)]

/-- The save at the end of `_integrate_energy`, when the last one is 30 seconds ago. -/
def Station.persist (self : Station) (call : Call) : Station :=
  if 30 ≤ call.now - self.last_energy_save_t then
    { self.save_energy_state call.save_succeeds with last_energy_save_t := call.now }
  else self

/-- `_integrate_energy(agg)`, with what it publishes. -/
def Station.integrate_energy (self : Station) (call : Call) : Station × List (String × PyFloat) :=
  match self.last_energy_sample_t, call.agg.power_charging_W, call.agg.power_discharging_W with
  | some last, some power_charging_W, some power_discharging_W =>
    let dt_s := call.now - last
    let self := { self with last_energy_sample_t := some call.now }
    let self :=
      if 0 < dt_s ∧ dt_s < 60 then
        let dt_h := dt_s / 3600
        { self with
          energy_in_Wh := self.energy_in_Wh + .finite (power_charging_W * dt_h)
          energy_out_Wh := self.energy_out_Wh + .finite (power_discharging_W * dt_h) }
      else self
    (self.persist call, self.published)
  | _, _, _ =>
    let self := { self with last_energy_sample_t := some call.now }
    (self, self.published)

/-- The service after a call. -/
def Station.after (self : Station) (call : Call) : Station := (self.integrate_energy call).1

/-- The service after a sequence of calls. -/
def Station.run (self : Station) (calls : List Call) : Station := calls.foldl Station.after self

/-! ## What a call does -/

/-- The seconds that a call integrates over, when `last` is the time of the previous one:
none without a pack, and none when the interval is empty or has 60 seconds or more. -/
def Call.integrated_s (last : Option ℚ) (call : Call) : ℚ :=
  match last with
  | none => 0
  | some last =>
    if call.pia_by_pack.entries ≠ [] ∧ 0 < call.now - last ∧ call.now - last < 60 then
      call.now - last
    else 0

/-- The energy of these seconds at a power of the bank, in Wh. -/
def Call.energy (power : BankAggregates → Option ℚ) (last : Option ℚ) (call : Call) : ℚ :=
  (power call.agg).getD 0 * (call.integrated_s last / 3600)

theorem Call.integrated_s_nonneg (last : Option ℚ) (call : Call) : 0 ≤ call.integrated_s last := by
  unfold Call.integrated_s
  cases last with
  | none => exact le_refl 0
  | some last =>
    dsimp only
    split
    case isTrue h => exact h.2.1.le
    case isFalse => exact le_refl 0

theorem Call.integrated_s_le {last : ℚ} {call : Call} (hclock : last ≤ call.now) :
    call.integrated_s (some last) ≤ call.now - last := by
  unfold Call.integrated_s
  dsimp only
  split
  case isTrue => exact le_refl _
  case isFalse => exact sub_nonneg.mpr hclock

theorem Call.energy_of_not_integrated {last : Option ℚ} {call : Call}
    (h : call.integrated_s last = 0) (power : BankAggregates → Option ℚ) :
    call.energy power last = 0 := by
  rw [Call.energy, h, zero_div, mul_zero]

theorem Call.energy_nonneg {power : BankAggregates → Option ℚ} (last : Option ℚ) (call : Call)
    (hpower : 0 ≤ (power call.agg).getD 0) : 0 ≤ call.energy power last :=
  mul_nonneg hpower (div_nonneg (call.integrated_s_nonneg last) (by norm_num))

theorem Call.power_charging_nonneg (call : Call) : 0 ≤ (call.agg.power_charging_W).getD 0 := by
  rw [Call.agg, power_charging_eq]
  cases (aggregate_bank call.pia_by_pack call.pib_by_pack).power_W with
  | none => exact le_refl 0
  | some power => exact posPart_nonneg power

theorem Call.power_discharging_nonneg (call : Call) :
    0 ≤ (call.agg.power_discharging_W).getD 0 := by
  rw [Call.agg, power_discharging_eq]
  cases (aggregate_bank call.pia_by_pack call.pib_by_pack).power_W with
  | none => exact le_refl 0
  | some power => exact negPart_nonneg power

/-- A call with packs has both powers, and one without has none. -/
theorem Call.powers (call : Call) :
    (call.pia_by_pack.entries = [] ∧ call.agg.power_charging_W = none) ∨
      call.pia_by_pack.entries ≠ [] ∧
        ∃ charging discharging, call.agg.power_charging_W = some charging ∧
          call.agg.power_discharging_W = some discharging := by
  have hnone := power_W_eq_none_iff call.pia_by_pack call.pib_by_pack
  rw [Call.agg, power_charging_eq, power_discharging_eq]
  cases hpower : (aggregate_bank call.pia_by_pack call.pib_by_pack).power_W with
  | none => exact .inl ⟨hnone.mp hpower, rfl⟩
  | some power =>
    have hpacks : call.pia_by_pack.entries ≠ [] := by
      intro hempty
      rw [hnone.mpr hempty] at hpower
      cases hpower
    exact .inr ⟨hpacks, _, _, rfl, rfl⟩

/-- The service with the sample of a call, before it is saved. -/
def Station.sampled (self : Station) (call : Call) : Station :=
  { self with
    last_energy_sample_t := some call.now
    energy_in_Wh := self.energy_in_Wh +
      .finite (call.energy BankAggregates.power_charging_W self.last_energy_sample_t)
    energy_out_Wh := self.energy_out_Wh +
      .finite (call.energy BankAggregates.power_discharging_W self.last_energy_sample_t) }

/-- A call without a previous sample or without a pack only takes the sample. -/
theorem Station.after_of_skipped {self : Station} {call : Call}
    (h : self.last_energy_sample_t = none ∨ call.pia_by_pack.entries = []) :
    self.after call = self.sampled call ∧ call.integrated_s self.last_energy_sample_t = 0 := by
  have hzero : call.integrated_s self.last_energy_sample_t = 0 := by
    unfold Call.integrated_s
    cases h with
    | inl hnone => rw [hnone]
    | inr hempty =>
      cases self.last_energy_sample_t with
      | none => rfl
      | some last => exact if_neg fun hnow => hnow.1 hempty
  refine ⟨?_, hzero⟩
  have hpowers : self.last_energy_sample_t = none ∨ call.agg.power_charging_W = none := by
    cases h with
    | inl hnone => exact .inl hnone
    | inr hempty =>
      obtain ⟨-, hcharging⟩ | ⟨hpacks, -⟩ := call.powers
      · exact .inr hcharging
      · exact absurd hempty hpacks
  unfold Station.sampled
  rw [Call.energy_of_not_integrated hzero, Call.energy_of_not_integrated hzero,
    PyFloat.add_finite_zero, PyFloat.add_finite_zero]
  unfold Station.after Station.integrate_energy
  split
  case h_1 _ _ _ hlast hcharging _ =>
    rw [hlast, hcharging] at hpowers
    cases hpowers with
    | inl h => cases h
    | inr h => cases h
  case h_2 => rfl

/-- A call with a previous sample and a pack integrates, and saves when it is time. -/
theorem Station.after_of_integrated {self : Station} {call : Call} {last : ℚ}
    (hlast : self.last_energy_sample_t = some last) (hpacks : call.pia_by_pack.entries ≠ []) :
    self.after call = (self.sampled call).persist call := by
  obtain ⟨hempty, -⟩ | ⟨-, charging, discharging, hcharging, hdischarging⟩ := call.powers
  · exact absurd hempty hpacks
  unfold Station.after Station.integrate_energy Station.sampled Call.energy Call.integrated_s
  rw [hlast, hcharging, hdischarging]
  apply congrArg (Station.persist · call)
  dsimp only [Option.getD_some]
  by_cases hdt : 0 < call.now - last ∧ call.now - last < 60
  case pos => rw [if_pos hdt, if_pos ⟨hpacks, hdt⟩]
  case neg =>
    rw [if_neg hdt, if_neg fun h => hdt h.2, zero_div, mul_zero, mul_zero,
      PyFloat.add_finite_zero, PyFloat.add_finite_zero]

/-- Either it is too early to save, or a save leaves everything but the file as it is. -/
theorem Station.persist_cases (self : Station) (call : Call) :
    (call.now - self.last_energy_save_t < 30 ∧ self.persist call = self) ∨
      self.persist call = { self with
        energy_persist := if call.save_succeeds then self.totals else self.energy_persist
        last_energy_save_t := call.now } := by
  unfold Station.persist Station.save_energy_state
  split
  case isFalse h => exact .inl ⟨not_le.mp h, rfl⟩
  case isTrue =>
    cases call.save_succeeds with
    | true | false => exact .inr rfl

/-- Everything a call does: it samples, adds to both totals, and saves them when it has data
and 30 seconds have passed since the last save. -/
theorem Station.after_cases (self : Station) (call : Call) :
    (self.after call).last_energy_sample_t = some call.now ∧
    (self.after call).energy_in_Wh = self.energy_in_Wh +
      .finite (call.energy BankAggregates.power_charging_W self.last_energy_sample_t) ∧
    (self.after call).energy_out_Wh = self.energy_out_Wh +
      .finite (call.energy BankAggregates.power_discharging_W self.last_energy_sample_t) ∧
    ((self.after call).last_energy_save_t = self.last_energy_save_t ∧
        (self.after call).energy_persist = self.energy_persist ∧
        (call.integrated_s self.last_energy_sample_t = 0 ∨
          call.now - self.last_energy_save_t < 30) ∨
      (self.after call).last_energy_save_t = call.now ∧
        (call.save_succeeds → (self.after call).energy_persist = (self.after call).totals)) := by
  by_cases hskip : self.last_energy_sample_t = none ∨ call.pia_by_pack.entries = []
  case pos =>
    obtain ⟨hafter, hzero⟩ := Station.after_of_skipped hskip
    rw [hafter]
    exact ⟨rfl, rfl, rfl, .inl ⟨rfl, rfl, .inl hzero⟩⟩
  case neg =>
    obtain ⟨hsample, hpacks⟩ := not_or.mp hskip
    obtain ⟨last, hlast⟩ := Option.ne_none_iff_exists'.mp hsample
    rw [Station.after_of_integrated hlast hpacks]
    obtain ⟨hearly, hpersist⟩ | hpersist := (self.sampled call).persist_cases call
    · rw [hpersist]
      exact ⟨rfl, rfl, rfl, .inl ⟨rfl, rfl, .inr hearly⟩⟩
    · rw [hpersist]
      exact ⟨rfl, rfl, rfl, .inr ⟨rfl, fun hsave => if_pos hsave⟩⟩

/-- What is published are the totals after the call. -/
theorem Station.integrate_energy_published (self : Station) (call : Call) :
    (self.integrate_energy call).2 = (self.after call).published := by
  have hpersist (sampled : Station) : sampled.published = (sampled.persist call).published := by
    obtain ⟨-, h⟩ | h := sampled.persist_cases call
    · rw [h]
    · rw [h]
      rfl
  unfold Station.after Station.integrate_energy
  split
  case h_1 => exact hpersist _
  case h_2 => rfl

/-! ## Whole runs -/

/-- Every call with the time of the one before. -/
def consecutive (last : Option ℚ) : List Call → List (Option ℚ × Call)
  | [] => []
  | call :: calls => (last, call) :: consecutive (some call.now) calls

/-- The seconds that a sequence of calls integrates over. -/
def integrated_time (last : Option ℚ) (calls : List Call) : ℚ :=
  ((consecutive last calls).map fun (last, call) => call.integrated_s last).sum

/-- The energy of a sequence of calls at a power of the bank. -/
def integrated_energy (power : BankAggregates → Option ℚ) (last : Option ℚ) (calls : List Call) :
    ℚ :=
  ((consecutive last calls).map fun (last, call) => call.energy power last).sum

/-- Both totals are finite and not negative. -/
def Station.Sound (self : Station) : Prop := self.energy_in_Wh.Sound ∧ self.energy_out_Wh.Sound

/-- The clock readings that a service holds, in the order in which it made them. -/
def Station.readings (self : Station) : List ℚ :=
  self.last_energy_save_t :: self.last_energy_sample_t.toList

/-- The totals of a run have grown since the calls before `later` by the energy of `later`. -/
def Station.Grows (self : Station) (earlier later : List Call) : Prop :=
  (self.run (earlier ++ later)).energy_in_Wh.value =
      (self.run earlier).energy_in_Wh.value + integrated_energy BankAggregates.power_charging_W
        (self.run earlier).last_energy_sample_t later ∧
    (self.run (earlier ++ later)).energy_out_Wh.value =
      (self.run earlier).energy_out_Wh.value + integrated_energy BankAggregates.power_discharging_W
        (self.run earlier).last_energy_sample_t later

/-- Only the energy of the last calls of a run is not on disk, and they integrate less than 30
seconds: the file has the totals of the calls before them, or is the one of the start. -/
def Station.Lags (self : Station) (calls : List Call) : Prop :=
  ∃ saved unsaved, calls = saved ++ unsaved ∧ self.Grows saved unsaved ∧
    ((self.run calls).energy_persist = (self.run saved).totals ∨
      saved = [] ∧ (self.run calls).energy_persist = self.energy_persist) ∧
    integrated_time (self.run saved).last_energy_sample_t unsaved < 30

section

variable {self : Station} {calls : List Call}

@[simp] theorem Station.run_nil : self.run [] = self := rfl

@[simp] theorem Station.run_concat (call : Call) :
    self.run (calls ++ [call]) = (self.run calls).after call := by
  rw [Station.run, List.foldl_append]
  rfl

theorem Station.run_append (later : List Call) :
    self.run (calls ++ later) = (self.run calls).run later := List.foldl_append

/-- The calls of a run are metered by the time of the call before. -/
theorem amounts_eq_consecutive (amount : Option ℚ → Call → ℚ) (self : Station) (calls : List Call) :
    Meter.amounts Station.after (fun s call => amount s.last_energy_sample_t call) self calls =
      (consecutive self.last_energy_sample_t calls).map fun (last, call) => amount last call := by
  induction calls generalizing self with
  | nil => rfl
  | cons call calls ih =>
    rw [Meter.amounts, ih, (self.after_cases call).1]
    rfl

/-- The rule for one of the totals: a run adds up what its calls add. -/
theorem Station.total_run (total : Station → PyFloat) {power : BankAggregates → Option ℚ}
    (hstep : ∀ self call,
      total (self.after call) = total self + .finite (call.energy power self.last_energy_sample_t))
    (hpower : ∀ call : Call, 0 ≤ (power call.agg).getD 0) (hsound : (total self).Sound) :
    (total (self.run calls)).Sound ∧
      (total (self.run calls)).value =
        (total self).value + integrated_energy power self.last_energy_sample_t calls ∧
      (total self).value ≤ (total (self.run calls)).value := by
  have hkeeps : ∀ s, ∀ call ∈ calls, (total s).Sound → (total (s.after call)).Sound := by
    intro s call _ hs
    rw [hstep]
    exact hs.add (call.energy_nonneg _ (hpower call))
  have hmeter : ∀ s, ∀ call ∈ calls, (total s).Sound → (total (s.after call)).value =
      (total s).value + call.energy power s.last_energy_sample_t := by
    intro s call _ hs
    rw [hstep, hs.value_add]
  have hamount : ∀ s : Station, ∀ call ∈ calls, (total s).Sound →
      0 ≤ call.energy power s.last_energy_sample_t :=
    fun s call _ _ => call.energy_nonneg _ (hpower call)
  refine ⟨Meter.foldl_preserves (I := fun s => (total s).Sound) hsound hkeeps, ?_, ?_⟩
  · rw [integrated_energy, ← amounts_eq_consecutive (fun last call => call.energy power last)]
    exact Meter.reading_foldl (fun s => (total s).value) hsound hkeeps hmeter
  · exact Meter.le_reading_foldl (fun s => (total s).value) _ hsound hkeeps hmeter hamount

theorem Station.energy_in_run (hsound : self.Sound) :
    (self.run calls).energy_in_Wh.Sound ∧
      (self.run calls).energy_in_Wh.value = self.energy_in_Wh.value +
        integrated_energy BankAggregates.power_charging_W self.last_energy_sample_t calls ∧
      self.energy_in_Wh.value ≤ (self.run calls).energy_in_Wh.value :=
  Station.total_run (fun self => self.energy_in_Wh) (fun self call => (self.after_cases call).2.1)
    Call.power_charging_nonneg hsound.1

theorem Station.energy_out_run (hsound : self.Sound) :
    (self.run calls).energy_out_Wh.Sound ∧
      (self.run calls).energy_out_Wh.value = self.energy_out_Wh.value +
        integrated_energy BankAggregates.power_discharging_W self.last_energy_sample_t calls ∧
      self.energy_out_Wh.value ≤ (self.run calls).energy_out_Wh.value :=
  Station.total_run (fun self => self.energy_out_Wh)
    (fun self call => (self.after_cases call).2.2.1) Call.power_discharging_nonneg hsound.2

theorem Station.run_sound (hsound : self.Sound) : (self.run calls).Sound :=
  ⟨(Station.energy_in_run hsound).1, (Station.energy_out_run hsound).1⟩

theorem Station.grows (hsound : self.Sound) (earlier later : List Call) :
    self.Grows earlier later := by
  have hearlier : (self.run earlier).Sound := Station.run_sound hsound
  unfold Station.Grows
  rw [Station.run_append]
  exact ⟨(Station.energy_in_run hearlier).2.1, (Station.energy_out_run hearlier).2.1⟩

/-! ## The lag of the file -/

theorem integrated_time_concat (self : Station) (calls : List Call) (call : Call) :
    integrated_time self.last_energy_sample_t (calls ++ [call]) =
      integrated_time self.last_energy_sample_t calls +
        call.integrated_s (self.run calls).last_energy_sample_t := by
  unfold integrated_time
  rw [← amounts_eq_consecutive (fun last call => call.integrated_s last), Meter.amounts_append,
    List.sum_append, amounts_eq_consecutive (fun last call => call.integrated_s last)]
  exact congrArg _ List.sum_singleton

/-- The clock reading of the last sample, and of the last save before there is a sample. -/
def Station.last_reading (self : Station) : ℚ :=
  self.last_energy_sample_t.getD self.last_energy_save_t

theorem Station.last_reading_mem (self : Station) : self.last_reading ∈ self.readings := by
  unfold Station.last_reading Station.readings
  cases self.last_energy_sample_t with
  | none => exact List.mem_cons_self
  | some last => exact List.mem_cons_of_mem _ List.mem_cons_self

theorem Station.save_t_le_last_reading (hclock : self.readings.Pairwise (· ≤ ·)) :
    self.last_energy_save_t ≤ self.last_reading := by
  obtain heq | hlater := List.mem_cons.mp self.last_reading_mem
  · exact heq.ge
  · exact List.rel_of_pairwise_cons hclock hlater

/-- The last calls of a run, which a file does not have: they fall between the last save and
the last sample. -/
structure Station.Unsaved (start : Station) (calls saved unsaved : List Call) : Prop where
  split : calls = saved ++ unsaved
  file : (start.run calls).energy_persist = (start.run saved).totals ∨
    saved = [] ∧ (start.run calls).energy_persist = start.energy_persist
  time_lt : integrated_time (start.run saved).last_energy_sample_t unsaved < 30
  time_le : integrated_time (start.run saved).last_energy_sample_t unsaved ≤
    (start.run calls).last_reading - (start.run calls).last_energy_save_t

/-- A call integrates the time since the last reading, or none. -/
theorem Call.integrated_s_le_since (call : Call) (hclock : self.last_reading ≤ call.now) :
    call.integrated_s self.last_energy_sample_t ≤ call.now - self.last_reading := by
  unfold Station.last_reading at hclock ⊢
  cases hlast : self.last_energy_sample_t with
  | none =>
    rw [hlast] at hclock
    exact sub_nonneg.mpr hclock
  | some last =>
    rw [hlast] at hclock
    exact Call.integrated_s_le hclock

/-- A call saves all the calls so far, or joins the ones that are not saved. -/
theorem Station.Unsaved.after {saved unsaved : List Call} (h : self.Unsaved calls saved unsaved)
    {call : Call} (hclock : (self.run calls).last_reading ≤ call.now)
    (hsave : call.save_succeeds) :
    ∃ saved unsaved, self.Unsaved (calls ++ [call]) saved unsaved := by
  have hreading : (self.run (calls ++ [call])).last_reading = call.now := by
    rw [Station.run_concat, Station.last_reading, (Station.after_cases _ call).1]
    rfl
  have hsplit : calls ++ [call] = saved ++ (unsaved ++ [call]) := by
    rw [h.split, List.append_assoc]
  have htime := integrated_time_concat (self.run saved) unsaved call
  rw [← Station.run_append, ← h.split] at htime
  have hnow := call.integrated_s_le_since hclock
  obtain ⟨hsave_t, hfile, hshort⟩ | ⟨hsave_t, hfile⟩ :=
    ((self.run calls).after_cases call).2.2.2
  · have hle : integrated_time (self.run saved).last_energy_sample_t (unsaved ++ [call]) ≤
        call.now - (self.run calls).last_energy_save_t := by
      have := h.time_le
      linarith
    refine ⟨saved, unsaved ++ [call], hsplit, ?_, ?_, ?_⟩
    · rw [Station.run_concat, hfile]
      exact h.file
    · cases hshort with
      | inl hzero => rw [htime, hzero, add_zero]; exact h.time_lt
      | inr hearly => exact lt_of_le_of_lt hle hearly
    · rw [hreading, Station.run_concat, hsave_t]
      exact hle
  · refine ⟨calls ++ [call], [], (List.append_nil _).symm, .inl ?_, ?_, ?_⟩
    · rw [Station.run_concat]
      exact hfile hsave
    · exact (by norm_num : (0 : ℚ) < 30)
    · rw [hreading, Station.run_concat, hsave_t, sub_self]
      exact le_refl 0

/-- The readings of a run in their order: each call comes after everything before it. -/
theorem Station.last_reading_le {call : Call}
    (hclock : (self.readings ++ (calls ++ [call]).map Call.now).Pairwise (· ≤ ·)) :
    (self.run calls).last_reading ≤ call.now := by
  rw [List.map_append, ← List.append_assoc] at hclock
  have hle : ∀ t ∈ self.readings ++ calls.map Call.now, t ≤ call.now :=
    fun t ht => (List.pairwise_append.mp hclock).2.2 t ht _ List.mem_cons_self
  obtain rfl | ⟨earlier, last, rfl⟩ := List.eq_nil_or_concat calls
  · exact hle _ (List.mem_append_left _ self.last_reading_mem)
  · rw [List.concat_eq_append] at hle ⊢
    rw [Station.run_concat, Station.last_reading, (Station.after_cases _ last).1]
    exact hle _ (by simp)

theorem readings_of_concat {call : Call}
    (hclock : (self.readings ++ (calls ++ [call]).map Call.now).Pairwise (· ≤ ·)) :
    (self.readings ++ calls.map Call.now).Pairwise (· ≤ ·) := by
  rw [List.map_append, ← List.append_assoc] at hclock
  exact (List.pairwise_append.mp hclock).1

/-- A service saves no later than it samples, after any run. -/
theorem Station.readings_run (hclock : (self.readings ++ calls.map Call.now).Pairwise (· ≤ ·)) :
    (self.run calls).readings.Pairwise (· ≤ ·) := by
  induction calls using List.reverseRecOn with
  | nil => exact (List.pairwise_append.mp hclock).1
  | append_singleton calls call ih =>
    have hsave := Station.save_t_le_last_reading (ih (readings_of_concat hclock))
    have hnow := hsave.trans (Station.last_reading_le hclock)
    obtain ⟨hsample, -, -, hsaved⟩ := (self.run calls).after_cases call
    unfold Station.readings
    rw [Station.run_concat, hsample]
    apply List.pairwise_pair.mpr
    obtain ⟨hsave_t, -, -⟩ | ⟨hsave_t, -⟩ := hsaved
    · rw [hsave_t]
      exact hnow
    · rw [hsave_t]

/-- The calls of a run that the file does not have. -/
theorem Station.exists_unsaved
    (hclock : (self.readings ++ calls.map Call.now).Pairwise (· ≤ ·))
    (hsaves : ∀ call ∈ calls, call.save_succeeds) :
    ∃ saved unsaved, self.Unsaved calls saved unsaved := by
  induction calls using List.reverseRecOn with
  | nil =>
    have hreading := Station.save_t_le_last_reading (List.pairwise_append.mp hclock).1
    exact ⟨[], [], rfl, .inr ⟨rfl, rfl⟩, (by norm_num : (0 : ℚ) < 30), sub_nonneg.mpr hreading⟩
  | append_singleton calls call ih =>
    obtain ⟨saved, unsaved, h⟩ := ih (readings_of_concat hclock)
      fun earlier hmem => hsaves earlier (List.mem_append_left _ hmem)
    exact h.after (Station.last_reading_le hclock)
      (hsaves call (List.mem_append_right _ List.mem_cons_self))

/-- Over every run of a clock that does not go back, both totals only grow, by the energy of
the intervals that end in a call with data and last less than 60 seconds; and while saves
succeed, the file misses less than 30 integrated seconds. -/
theorem energy_over_runs (self : Station) (calls : List Call) (hsound : self.Sound)
    (hclock : (self.readings ++ calls.map Call.now).Pairwise (· ≤ ·)) :
    let reached := self.run calls
    (∀ earlier later, calls = earlier ++ later →
      (self.run earlier).energy_in_Wh.value ≤ reached.energy_in_Wh.value ∧
      (self.run earlier).energy_out_Wh.value ≤ reached.energy_out_Wh.value) ∧
    (reached.Sound ∧ reached.readings.Pairwise (· ≤ ·)) ∧
    reached.energy_in_Wh.value = self.energy_in_Wh.value +
      integrated_energy BankAggregates.power_charging_W self.last_energy_sample_t calls ∧
    reached.energy_out_Wh.value = self.energy_out_Wh.value +
      integrated_energy BankAggregates.power_discharging_W self.last_energy_sample_t calls ∧
    ((∀ call ∈ calls, call.save_succeeds) → self.Lags calls) := by
  refine ⟨?_, ⟨Station.run_sound hsound, Station.readings_run hclock⟩,
    (Station.energy_in_run hsound).2.1, (Station.energy_out_run hsound).2.1, ?_⟩
  · rintro earlier later rfl
    rw [Station.run_append]
    have hearlier : (self.run earlier).Sound := Station.run_sound hsound
    exact ⟨(Station.energy_in_run hearlier).2.2, (Station.energy_out_run hearlier).2.2⟩
  · intro hsaves
    obtain ⟨saved, unsaved, h⟩ := Station.exists_unsaved hclock hsaves
    exact ⟨saved, unsaved, h.split, Station.grows hsound saved unsaved, h.file, h.time_lt⟩

/-- A service that starts at time 0 without a file. -/
def fresh_station : Station where
  toBmsService := BmsService.init 0
  energy_persist := (.finite 0, .finite 0)

/-- A pack at 50 V. -/
def pack (current_A : ℚ) : Dict Nat PiaData :=
  Dict.assign ∅ [(1, ⟨50, current_A, 60, 100, 60, 99, 10⟩)]

/-- A pack that charges with 3600 W, and then discharges with 1800 W. -/
def pack_calls : List Call :=
  [⟨1, ∅, none, true⟩, ⟨2, pack 72, none, true⟩, ⟨32, pack 72, none, true⟩,
    ⟨40, pack (-36), none, true⟩]

theorem energy_over_runs_pack :
    (fresh_station.run pack_calls).energy_in_Wh.value = 31 ∧
      (fresh_station.run pack_calls).energy_out_Wh.value = 4 ∧ fresh_station.Lags pack_calls := by
  obtain ⟨-, -, hin, hout, hlags⟩ := energy_over_runs fresh_station pack_calls
    ⟨⟨0, le_refl 0, rfl⟩, ⟨0, le_refl 0, rfl⟩⟩ (by decide +kernel)
  have hcharging : integrated_energy BankAggregates.power_charging_W none pack_calls = 31 := by
    decide +kernel
  have hdischarging : integrated_energy BankAggregates.power_discharging_W none pack_calls = 4 := by
    decide +kernel
  refine ⟨?_, ?_, hlags (by decide)⟩
  · rw [hin]
    exact (congrArg _ hcharging).trans (zero_add 31)
  · rw [hout]
    exact (congrArg _ hdischarging).trans (zero_add 4)

end

end inverter_bridge.bms.service
