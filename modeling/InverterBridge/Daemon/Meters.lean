import Mathlib
import InverterBridge.Daemon.Intervals
import InverterBridge.EnergyIntegrator.Restarts
import InverterBridge.MqttPublisher.Announced

open Python Std.Do
open inverter_bridge.srne_map inverter_bridge.aggregator inverter_bridge.energy_integrator
open inverter_bridge.mqtt_publisher

set_option mvcgen.warning false

/-! What the daemon publishes for its `total_increasing` sensors. -/

namespace inverter_bridge.daemon

variable {N : Nat} {loop : MainLoop} {w : World N}

/-- The published values of a key, in order. -/
def published (key : String) (trace : List Event) : List Scalar :=
  trace.filterMap fun event =>
    match event with
    | .published k value => if k = key then some value else none
    | _ => none

/-- The number a value is. -/
def number : Scalar → Option ℚ
  | .int n => some n
  | .float (.finite x) => some x
  | _ => none

/-- Two numbers, the second one not below the first. -/
def NotAbove (value value' : Scalar) : Prop :=
  ∃ x x', number value = some x ∧ number value' = some x' ∧ x ≤ x'

/-- The meters the main thread publishes. -/
inductive Meter where
  | energy (wh_key : WhKey)
  | crc_fails_total
  | uptime_s

namespace Meter

def key : Meter → String
  | energy wh_key => WH_TO_KWH_KEY wh_key
  | crc_fails_total => "_meta/crc_fails_total"
  | uptime_s => "_meta/uptime_s"

theorem key_injective : Function.Injective key := by
  intro m m' heq
  cases m with
  | energy wh_key =>
    cases m' with
    | energy wh_key' =>
      cases wh_key <;> cases wh_key' <;> first | rfl | exact absurd heq (by decide)
    | crc_fails_total => cases wh_key <;> exact absurd heq (by decide)
    | uptime_s => cases wh_key <;> exact absurd heq (by decide)
  | crc_fails_total =>
    cases m' with
    | energy wh_key' => cases wh_key' <;> exact absurd heq (by decide)
    | crc_fails_total => rfl
    | uptime_s => exact absurd heq (by decide)
  | uptime_s =>
    cases m' with
    | energy wh_key' => cases wh_key' <;> exact absurd heq (by decide)
    | crc_fails_total => exact absurd heq (by decide)
    | uptime_s => rfl

end Meter

/-! ## Dials -/

/-- What the meters are read off. -/
structure Dials where
  integrator : EnergyIntegrator
  polls : Nat
  monotonic_reads : Nat

def LoopState.dials (s : LoopState) : Dials := ⟨s.integrator, s.polls, s.monotonic_reads⟩

/-- No dial was turned back. -/
structure Dials.Ahead (d d' : Dials) : Prop where
  integrator : d.integrator ≤ d'.integrator
  polls : d.polls ≤ d'.polls
  monotonic_reads : d.monotonic_reads ≤ d'.monotonic_reads

theorem Dials.Ahead.refl (d : Dials) : d.Ahead d := ⟨le_refl _, le_rfl, le_rfl⟩

theorem Dials.Ahead.trans {d d' d'' : Dials} (h : d.Ahead d') (h' : d'.Ahead d'') : d.Ahead d'' :=
  ⟨h.integrator.trans h'.integrator, h.polls.trans h'.polls,
    h.monotonic_reads.trans h'.monotonic_reads⟩

/-- What a meter shows; the time is the last one that was read. -/
def Meter.reading (loop : MainLoop) (w : World N) (d : Dials) : Meter → ℚ
  | energy wh_key => py_round ((d.integrator.wh wh_key).value / 1000) 3
  | crc_fails_total => w.crc_fails_total d.polls
  | uptime_s => py_round (w.monotonic (d.monotonic_reads - 1) - loop.meta_start) 1

/-- The clock and the count of CRC failures do not go back. -/
structure World.Forward (w : World N) : Prop where
  monotonic : Monotone w.monotonic
  crc_fails_total : Monotone w.crc_fails_total

theorem Meter.reading_mono (hforward : w.Forward) {d d' : Dials} (h : d.Ahead d') (m : Meter) :
    m.reading loop w d ≤ m.reading loop w d' := by
  cases m with
  | energy wh_key =>
    have hwh : (d.integrator.wh wh_key).value ≤ (d'.integrator.wh wh_key).value :=
      h.integrator wh_key
    exact py_round_mono 3 (by gcongr)
  | crc_fails_total => exact Nat.cast_le.mpr (hforward.crc_fails_total h.polls)
  | uptime_s =>
    refine py_round_mono 1 (sub_le_sub_right (hforward.monotonic ?_) _)
    exact Nat.sub_le_sub_right h.monotonic_reads 1

/-- A value that may be published for a key: of a meter, what it shows. -/
def Shows (loop : MainLoop) (w : World N) (d : Dials) (key : String) (value : Scalar) : Prop :=
  ∀ m : Meter, m.key = key → number value = some (m.reading loop w d)

/-- What is published for the meters never drops, and is between the readings at the start and
now. -/
structure Metered (loop : MainLoop) (w : World N) (d₀ : Dials) (s : LoopState) : Prop where
  sound : s.integrator.Sound
  ahead : d₀.Ahead s.dials
  steady : ∀ m : Meter, (published m.key s.trace).Pairwise NotAbove
  between : ∀ m : Meter, ∀ value ∈ published m.key s.trace, ∃ x, number value = some x ∧
    m.reading loop w d₀ ≤ x ∧ x ≤ m.reading loop w s.dials

namespace Metered

variable {d₀ : Dials} {s s' : LoopState}

/-- Turning the dials on keeps what was published. -/
theorem advance (hforward : w.Forward) (h : Metered loop w d₀ s)
    (htrace : ∀ m : Meter, published m.key s'.trace = published m.key s.trace)
    (hsound : s'.integrator.Sound) (hahead : s.dials.Ahead s'.dials) : Metered loop w d₀ s' where
  sound := hsound
  ahead := h.ahead.trans hahead
  steady m := htrace m ▸ h.steady m
  between m := by
    rw [htrace]
    intro value hvalue
    obtain ⟨x, hx, hlow, hhigh⟩ := h.between m value hvalue
    exact ⟨x, hx, hlow, hhigh.trans (m.reading_mono hforward hahead)⟩

/-- What does not turn a dial and publishes nothing. -/
theorem of_eq (hforward : w.Forward) (h : Metered loop w d₀ s) (hdials : s'.dials = s.dials)
    (htrace : ∀ m : Meter, published m.key s'.trace = published m.key s.trace) :
    Metered loop w d₀ s' := by
  have hintegrator : s'.integrator = s.integrator := congrArg Dials.integrator hdials
  exact h.advance hforward htrace (hintegrator ▸ h.sound) (hdials ▸ .refl _)

/-- Publishing what a meter shows. -/
theorem publish (hforward : w.Forward) (h : Metered loop w d₀ s) {key : String} {value : Scalar}
    (hshows : Shows loop w s.dials key value) :
    Metered loop w d₀ { s with trace := s.trace ++ [.published key value] } := by
  have happend (m : Meter) : published m.key (s.trace ++ [.published key value]) =
      published m.key s.trace ++ if key = m.key then [value] else [] := by
    rw [published, List.filterMap_append]
    congr 1
    by_cases hkey : key = m.key
    · simp [hkey]
    · simp [hkey]
  have hlow (m : Meter) : m.reading loop w d₀ ≤ m.reading loop w s.dials :=
    m.reading_mono hforward h.ahead
  refine ⟨h.sound, h.ahead, fun m => ?_, fun m => ?_⟩
  · rw [happend]
    split_ifs with hkey
    · rw [List.pairwise_append]
      refine ⟨h.steady m, List.pairwise_singleton _ _, fun old hold new hnew => ?_⟩
      obtain ⟨x, hx, -, hle⟩ := h.between m old hold
      rw [List.mem_singleton.mp hnew]
      exact ⟨x, _, hx, hshows m hkey.symm, hle⟩
    · rw [List.append_nil]
      exact h.steady m
  · rw [happend]
    split_ifs with hkey
    · rw [List.forall_mem_append]
      refine ⟨h.between m, List.forall_mem_singleton.mpr ?_⟩
      exact ⟨_, hshows m hkey.symm, hlow m, le_rfl⟩
    · rw [List.append_nil]
      exact h.between m

/-- An integration turns the accumulators on. -/
theorem updated (hforward : w.Forward) (h : Metered loop w d₀ s) (aggregated : Dict String Scalar)
    (elapsed_s now : ℚ) :
    Metered loop w d₀ { s with
      monotonic_reads := s.monotonic_reads + 1
      integrator := s.integrator.charged ⟨aggregated, .finite elapsed_s⟩
      last_hot_cycle_monotonic := some now
      trace := s.trace ++ [.updated aggregated elapsed_s] ++ [.recorded now] } := by
  refine h.advance hforward (fun m => ?_) (h.sound.charged _) ⟨fun key => ?_, le_rfl, Nat.le_succ _⟩
  · simp [published]
  · show (s.integrator.wh key).value ≤ ((s.integrator.charged _).wh key).value
    rw [h.sound.value_charged]
    exact le_add_of_nonneg_right (Call.energy_nonneg _ key)

end Metered

/-! ## The code of the main thread -/

theorem meter_head_ne (m : Meter) : m.key.toList.head? ≠ some 'i' := by
  cases m with
  | energy wh_key => cases wh_key <;> decide
  | crc_fails_total => decide
  | uptime_s => decide

/-- A key of an inverter is none of a meter. -/
theorem inverter_key_ne_meter (i : Nat) (k : String) (m : Meter) : m.key ≠ inverter_key i k := by
  intro heq
  have hhead : (inverter_key i k).toList.head? = some 'i' := by
    simp [inverter_key, Text.toList_numbered]
  rw [← heq] at hhead
  exact meter_head_ne m hhead

/-- A key of the aggregator is none of a meter. -/
theorem meter_key_not_mem {per_inverter : List Blocks} {out : Out}
    (hout : aggregate_inverters per_inverter = .ok out) (m : Meter) : m.key ∉ out := by
  obtain ⟨stages⟩ := Stages.of_ok hout
  rw [stages.mem_iff]
  rintro (⟨j, inv, -, key, -, heq⟩ | hsite)
  · exact inverter_key_ne_meter (1 + j) key m heq
  · have hmem := site_keys_subset stages hsite
    cases m with
    | energy wh_key => cases wh_key <;> exact absurd hmem (by decide +kernel)
    | crc_fails_total => exact absurd hmem (by decide +kernel)
    | uptime_s => exact absurd hmem (by decide +kernel)

theorem duration_ne_meter (key : String)
    (hkey : key ∈ ["_meta/poll_duration_ms", "_meta/poll_duration_per_inverter_ms"])
    (m : Meter) : m.key ≠ key := by
  simp only [List.mem_cons, List.not_mem_nil, or_false] at hkey
  obtain rfl | rfl := hkey
  all_goals
    cases m with
    | energy wh_key => cases wh_key <;> decide
    | crc_fails_total => decide
    | uptime_s => decide

theorem shows_of_other {d : Dials} {key : String} (hkey : ∀ m : Meter, m.key ≠ key)
    (value : Scalar) : Shows loop w d key value :=
  fun m heq => absurd heq (hkey m)

theorem shows_crc_fails_total {d : Dials} {crc_fails_total : Nat}
    (hd : w.crc_fails_total d.polls = crc_fails_total) :
    Shows loop w d "_meta/crc_fails_total" (.int crc_fails_total) := by
  intro m hkey
  cases Meter.key_injective (show m.key = Meter.crc_fails_total.key from hkey)
  rw [Meter.reading, hd]
  rfl

theorem shows_uptime_s {d : Dials} {now : ℚ} (hd : now = w.monotonic (d.monotonic_reads - 1)) :
    Shows loop w d "_meta/uptime_s" (.float (.finite (py_round (now - loop.meta_start) 1))) := by
  intro m hkey
  cases Meter.key_injective (show m.key = Meter.uptime_s.key from hkey)
  rw [Meter.reading, ← hd]
  rfl

/-- The aggregated dict of a hot cycle has the energies as the meters show them. -/
theorem shows_energy {per_inverter : List Blocks} {out : Out}
    (hout : aggregate_inverters per_inverter = .ok out) {d : Dials} (hsound : d.integrator.Sound) :
    ∀ entry ∈ (Dict.assign (readings out) (d.integrator.snapshot_kwh.map fun entry =>
      (entry.1, Scalar.float entry.2))).entries.map fun entry => (entry.1, entry.2),
      Shows loop w d entry.1 entry.2 := by
  intro entry hentry m hkey
  obtain ⟨e, he, rfl⟩ := List.mem_map.mp hentry
  dsimp only at hkey ⊢
  have hlookup := AList.mem_lookup_iff.mpr he
  have hmem : e.1 ∈ Dict.assign (readings out) (d.integrator.snapshot_kwh.map fun entry =>
      (entry.1, Scalar.float entry.2)) := AList.mem_keys.mpr (List.mem_map.mpr ⟨e, he, rfl⟩)
  have hkeys : (d.integrator.snapshot_kwh.map fun entry =>
      (entry.1, Scalar.float entry.2)).map Prod.fst = WH_KEYS.map WH_TO_KWH_KEY := rfl
  have hshown : m.key ∈ WH_KEYS.map WH_TO_KWH_KEY := by
    rw [← hkey] at hmem
    obtain hold | hnew := Dict.mem_assign.mp hmem
    · exact absurd (mem_readings.mp hold) (meter_key_not_mem hout m)
    · exact hkeys ▸ hnew
  cases m with
  | energy wh_key =>
    have hassigned : (WH_TO_KWH_KEY wh_key,
        Scalar.float (((d.integrator.wh wh_key).div 1000).round 3)) ∈
        d.integrator.snapshot_kwh.map fun entry => (entry.1, Scalar.float entry.2) :=
      List.mem_map.mpr ⟨_, List.mem_map.mpr ⟨wh_key, by cases wh_key <;> decide, rfl⟩, rfl⟩
    have hnodup : (WH_KEYS.map WH_TO_KWH_KEY).Nodup := by decide
    have hvalue := @Dict.lookup_assign_of_mem _ _ _ (readings out) _ _ _ (hkeys ▸ hnodup) hassigned
    rw [← hkey] at hlookup
    have heq : e.2 = .float (((d.integrator.wh wh_key).div 1000).round 3) :=
      Option.some.inj (hlookup.symm.trans hvalue)
    rw [heq, (hsound wh_key).eq_value]
    rfl
  | crc_fails_total => exact absurd hshown (by decide)
  | uptime_s => exact absurd hshown (by decide)

section

variable (hforward : w.Forward) (d₀ : Dials)
include hforward

theorem client_publish_meters (P : Dials → Prop) :
    ⦃fun s => ⌜Metered loop w d₀ s ∧ P s.dials⌝⦄ client_publish w
    ⦃post⟨fun _ s => ⌜Metered loop w d₀ s ∧ P s.dials⌝, fun _ s => ⌜Metered loop w d₀ s⌝⟩⦄ := by
  mvcgen [client_publish]
  case h_1 h _ _ => exact h.1.of_eq hforward rfl fun _ => rfl
  case h_2 h _ => exact ⟨h.1.of_eq hforward rfl fun _ => rfl, h.2⟩

/-- The time that was read is the last one. -/
theorem monotonic_meters :
    ⦃fun s => ⌜Metered loop w d₀ s⌝⦄ monotonic w
    ⦃post⟨fun now s => ⌜Metered loop w d₀ s ∧ now = w.monotonic (s.dials.monotonic_reads - 1)⌝,
      fun _ _ => ⌜False⌝⟩⦄ := by
  mvcgen [monotonic]
  case vc1 h =>
    refine ⟨h.advance hforward (fun _ => rfl) h.sound ?_, rfl⟩
    exact ⟨le_refl _, le_rfl, Nat.le_succ _⟩

theorem publish_value_meters (P : Dials → Prop) (key : String) (value : Scalar)
    (hshows : ∀ d, P d → Shows loop w d key value) :
    ⦃fun s => ⌜Metered loop w d₀ s ∧ P s.dials⌝⦄ publish_value w key value
    ⦃post⟨fun _ s => ⌜Metered loop w d₀ s ∧ P s.dials⌝, fun _ s => ⌜Metered loop w d₀ s⌝⟩⦄ := by
  have hclient := @client_publish_meters N loop w hforward d₀ P
  mvcgen [publish_value, hclient]
  case vc1 h _ => exact ⟨h.1.publish hforward (hshows _ h.2), h.2⟩

/-- A key of no meter may be published at any time. -/
theorem publish_other_meters {key : String} (hkey : ∀ m : Meter, m.key ≠ key) (value : Scalar) :
    ⦃fun s => ⌜Metered loop w d₀ s⌝⦄ publish_value w key value
    ⦃post⟨fun _ s => ⌜Metered loop w d₀ s⌝, fun _ s => ⌜Metered loop w d₀ s⌝⟩⦄ := by
  have hvalue := @publish_value_meters N loop w hforward d₀ (fun _ => True) key value
    fun _ _ => shows_of_other hkey value
  mvcgen [hvalue]
  exact id

theorem publish_values_meters (P : Dials → Prop) (kv : List (String × Scalar))
    (hshows : ∀ d, P d → ∀ entry ∈ kv, Shows loop w d entry.1 entry.2) :
    ⦃fun s => ⌜Metered loop w d₀ s ∧ P s.dials⌝⦄ publish_values w kv
    ⦃post⟨fun _ s => ⌜Metered loop w d₀ s ∧ P s.dials⌝, fun _ s => ⌜Metered loop w d₀ s⌝⟩⦄ := by
  have hvalue := @publish_value_meters N loop w hforward d₀ P
  mvcgen [publish_values, hvalue] invariants
  · post⟨fun _ s => ⌜Metered loop w d₀ s ∧ P s.dials⌝, fun _ s => ⌜Metered loop w d₀ s⌝⟩
  case hshows hsplit _ _ _ =>
    intro d hd
    apply hshows d hd
    rw [hsplit]
    simp

/-- A poll publishes the status of the inverters only. -/
theorem poll_all_parallel_meters (tier : BlockTier) :
    ⦃fun s => ⌜Metered loop w d₀ s⌝⦄ poll_all_parallel w tier
    ⦃post⟨fun _ s => ⌜Metered loop w d₀ s⌝, fun _ s => ⌜Metered loop w d₀ s⌝⟩⦄ := by
  have hother := @publish_other_meters N loop w hforward d₀
  have hpolled {s : LoopState} (h : Metered loop w d₀ s) :
      Metered loop w d₀ { s with polls := s.polls + 1 } :=
    h.advance hforward (fun _ => rfl) h.sound ⟨le_refl _, Nat.le_succ _, le_rfl⟩
  mvcgen [poll_all_parallel, hother] invariants
  · post⟨fun _ s => ⌜Metered loop w d₀ s⌝, fun _ s => ⌜Metered loop w d₀ s⌝⟩
  case h_1 h _ _ => exact hpolled h
  case hkey => exact inverter_key_ne_meter _ _
  case pre h _ _ => exact hpolled h

/-- After the integration the meters show what is about to be published. -/
theorem integrate_meters {result : PollResult N} {out : Out}
    (hout : aggregate_inverters result.per_inverter = .ok out) :
    ⦃fun s => ⌜Metered loop w d₀ s⌝⦄ integrate w (readings out)
    ⦃post⟨fun aggregated s => ⌜Metered loop w d₀ s ∧ ∀ entry ∈
        (aggregated.entries.map fun entry => (entry.1, entry.2)),
        Shows loop w s.dials entry.1 entry.2⌝, fun _ _ => ⌜False⌝⟩⦄ := by
  mvcgen [integrate, monotonic, integrator_update, builtin]
  case vc1 s h _ _ _ hupdate _ =>
    cases (EnergyIntegrator.update_eq _ (listed_readings out _)).symm.trans hupdate
    have hsound := h.sound.charged ⟨readings out,
      .finite (elapsed_since s.last_hot_cycle_monotonic (w.monotonic s.monotonic_reads))⟩
    have hshows := @shows_energy N loop w _ _ hout
      ⟨_, s.polls, s.monotonic_reads + 1⟩ hsound
    exact ⟨h.updated hforward _ _ _, hshows⟩
  case vc2 hupdate =>
    cases (EnergyIntegrator.update_eq _ (listed_readings out _)).symm.trans hupdate

theorem publish_meta_meters (cycle_start : ℚ) (durations_json : String) :
    ⦃fun s => ⌜Metered loop w d₀ s⌝⦄ loop.publish_meta w cycle_start durations_json
    ⦃post⟨fun _ s => ⌜Metered loop w d₀ s⌝, fun _ s => ⌜Metered loop w d₀ s⌝⟩⦄ := by
  have hclock := @monotonic_meters N loop w hforward d₀
  have hduration := @publish_other_meters N loop w hforward d₀ "_meta/poll_duration_ms"
    (duration_ne_meter _ (by simp))
  have hdurations := @publish_other_meters N loop w hforward d₀
    "_meta/poll_duration_per_inverter_ms" (duration_ne_meter _ (by simp))
  have hcrc (crc_fails_total : Nat) := @publish_value_meters N loop w hforward d₀
    (fun d => w.crc_fails_total d.polls = crc_fails_total) "_meta/crc_fails_total"
    (.int crc_fails_total)
  have huptime (now : ℚ) := @publish_value_meters N loop w hforward d₀
    (fun d => now = w.monotonic (d.monotonic_reads - 1)) "_meta/uptime_s"
    (.float (.finite (py_round (now - loop.meta_start) 1)))
  mvcgen [MainLoop.publish_meta, hclock, hduration, hdurations, hcrc, huptime]
  case hshows => exact fun _ hd => shows_crc_fails_total hd
  case vc9 => exact fun _ _ _ _ hd => shows_uptime_s hd
  case vc8 => exact fun h _ => h
  all_goals exact And.left ‹_›

/-- What a cold cycle publishes is shown by no meter. -/
theorem run_one_cold_cycle_meters :
    ⦃fun s => ⌜Metered loop w d₀ s⌝⦄ run_one_cold_cycle w
    ⦃post⟨fun _ s => ⌜Metered loop w d₀ s⌝, fun _ s => ⌜Metered loop w d₀ s⌝⟩⦄ := by
  have hpoll := @poll_all_parallel_meters N loop w hforward d₀
  have hvalues := @publish_values_meters N loop w hforward d₀ fun _ => True
  have hsaved {s : LoopState} (h : Metered loop w d₀ s) :
      Metered loop w d₀ { s with trace := s.trace ++ [.saved] } :=
    h.of_eq hforward rfl fun m => by simp [published]
  mvcgen [run_one_cold_cycle, hpoll, hvalues, save_energy_state, builtin]
  case hshows =>
    have hout := ‹aggregate_inverters _ = .ok _›
    intro _ entry hentry
    refine shows_of_other (fun m heq => meter_key_not_mem hout m (mem_readings.mp ?_)) _
    exact heq ▸ key_of_mem_entries hentry
  all_goals exact hsaved ‹_›

theorem run_one_hot_cycle_meters :
    ⦃fun s => ⌜Metered loop w d₀ s⌝⦄ loop.run_one_hot_cycle w
    ⦃post⟨fun _ s => ⌜Metered loop w d₀ s⌝, fun _ s => ⌜Metered loop w d₀ s⌝⟩⦄ := by
  have hclock := @monotonic_meters N loop w hforward d₀
  have hpoll := @poll_all_parallel_meters N loop w hforward d₀
  have hintegrate := @integrate_meters N loop w hforward d₀
  have hvalues (kv : List (String × Scalar)) := @publish_values_meters N loop w hforward d₀
    (fun d => ∀ entry ∈ kv, Shows loop w d entry.1 entry.2) kv
  have hclient := @client_publish_meters N loop w hforward d₀ fun _ => True
  have hmeta := @publish_meta_meters N loop w hforward d₀
  mvcgen [MainLoop.run_one_hot_cycle, hclock, hpoll, hintegrate, hvalues, hclient, hmeta, builtin]
  case hshows => exact fun _ hd => hd
  all_goals first | assumption | exact And.left ‹_›

theorem turn_meters :
    ⦃fun s => ⌜Metered loop w d₀ s⌝⦄ loop.turn w
    ⦃post⟨fun _ s => ⌜Metered loop w d₀ s⌝, fun _ _ => ⌜False⌝⟩⦄ := by
  have hclock := @monotonic_meters N loop w hforward d₀
  have hhot := @run_one_hot_cycle_meters N loop w hforward d₀
  have hcold := @run_one_cold_cycle_meters N loop w hforward d₀
  mvcgen [MainLoop.turn, hclock, hhot, hcold]
  case vc6 h _ => exact h.1.of_eq hforward rfl fun _ => rfl
  all_goals exact And.left ‹_›

theorem turns_meters (n : Nat) :
    ⦃fun s => ⌜Metered loop w d₀ s⌝⦄ loop.turns w n
    ⦃post⟨fun _ s => ⌜Metered loop w d₀ s⌝, fun _ _ => ⌜False⌝⟩⦄ := by
  have hturn := @turn_meters N loop w hforward d₀
  induction n with
  | zero => mvcgen [MainLoop.turns]
  | succ n ih => mvcgen [MainLoop.turns, hturn, ih]

theorem loop_forever_meters (n : Nat) :
    ⦃fun s => ⌜Metered loop w d₀ s⌝⦄ loop.loop_forever w n
    ⦃post⟨fun _ s => ⌜Metered loop w d₀ s⌝, fun _ _ => ⌜False⌝⟩⦄ := by
  have hclock := @monotonic_meters N loop w hforward d₀
  have hturns := @turns_meters N loop w hforward d₀
  mvcgen [MainLoop.loop_forever, hclock, hturns]
  case success _ _ h _ => exact h.1.of_eq hforward rfl fun _ => rfl

end

theorem exists_meter : ∀ sensor ∈ ENERGY_SENSORS ++ META_SENSORS,
    sensor.state_class = some "total_increasing" → ∃ m : Meter, m.key = sensor.key := by
  intro sensor hsensor hclass
  have hall : ∀ sensor ∈ ENERGY_SENSORS ++ META_SENSORS,
      sensor.state_class = some "total_increasing" → sensor.key ∈
        (WH_KEYS.map Meter.energy ++ [Meter.crc_fails_total, .uptime_s]).map Meter.key := by
    decide +kernel
  obtain ⟨m, -, hm⟩ := List.mem_map.mp (hall sensor hsensor hclass)
  exact ⟨m, hm⟩

/-- In every run of the main loop, whatever raised in its cycles, what is published for a
`total_increasing` sensor of the energies and of the daemon never drops; and an energy never
begins below what its accumulator held at the start. -/
theorem MainLoop.meters_never_drop (loop : MainLoop) (w : World N) (integrator : EnergyIntegrator)
    (hsound : integrator.Sound) (hforward : w.Forward) (n : Nat) :
    let trace := (loop.after w integrator n).trace
    (∀ sensor ∈ ENERGY_SENSORS ++ META_SENSORS, sensor.state_class = some "total_increasing" →
      (published sensor.key trace).Pairwise NotAbove) ∧
    ∀ wh_key, ∀ value ∈ published (WH_TO_KWH_KEY wh_key) trace, ∃ x, number value = some x ∧
      py_round ((integrator.wh wh_key).value / 1000) 3 ≤ x := by
  intro trace
  have hstart : Metered loop w (LoopState.start integrator).dials (LoopState.start integrator) :=
    ⟨hsound, .refl _, fun _ => List.Pairwise.nil, nofun⟩
  have hmetered : Metered loop w (LoopState.start integrator).dials (loop.after w integrator n) := by
    have hrun := outcome_of_spec (@loop_forever_meters N loop w hforward _ n) hstart
    unfold MainLoop.after
    cases hresult : (loop.loop_forever w n).run.run (LoopState.start integrator) with
    | mk r s =>
      rw [hresult] at hrun
      cases r with
      | ok _ => exact hrun
      | error _ => exact hrun.elim
  refine ⟨fun sensor hsensor hclass => ?_, fun wh_key value hvalue => ?_⟩
  · obtain ⟨m, hm⟩ := exists_meter sensor hsensor hclass
    exact hm ▸ hmetered.steady m
  · obtain ⟨x, hx, hlow, -⟩ := hmetered.between (.energy wh_key) value hvalue
    exact ⟨x, hx, hlow⟩

/-- With the second poll and a later publication failing. -/
theorem MainLoop.meters_never_drop_failing :
    (published "_meta/uptime_s"
      ((⟨.finite 600, 0⟩ : MainLoop).after failing_world .zero 5).trace).Pairwise NotAbove ∧
    published "_meta/uptime_s" ((⟨.finite 600, 0⟩ : MainLoop).after failing_world .zero 5).trace =
      [.float (.finite 5), .float (.finite 19), .float (.finite 26)] :=
  ⟨(MainLoop.meters_never_drop ⟨.finite 600, 0⟩ failing_world .zero (fun _ => ⟨0, le_rfl, rfl⟩)
    ⟨Nat.mono_cast, monotone_const⟩ 5).1 ⟨"_meta/uptime_s", "s", some "duration",
      some "total_increasing"⟩ (List.mem_append_right _ (by simp [META_SENSORS])) rfl,
    by decide +kernel⟩

end inverter_bridge.daemon
