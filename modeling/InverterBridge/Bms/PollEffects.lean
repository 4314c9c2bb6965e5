import Mathlib
import InverterBridge.Bms.PollLoop
import InverterBridge.Lib.Triple

open Python Std.Do
open inverter_bridge.config inverter_bridge.bms.octopus_protocol inverter_bridge.bms.ble_client
open inverter_bridge.bms.discovery

set_option mvcgen.warning false

namespace inverter_bridge.bms.service

/-- Whether a poll ends with the event. -/
def Event.ends_poll : Event → Bool
  | .pia_stored _ _ _ | .pib_stored _ _ _ | .poll_failed _ _ => true
  | _ => false

/-- How many polls have ended, which is the number of the next one. -/
def polls_ended (trace : List Event) : Nat := trace.countP Event.ends_poll

theorem polls_ended_append (trace : List Event) (event : Event) :
    polls_ended (trace ++ [event]) = polls_ended trace + if event.ends_poll then 1 else 0 := by
  rw [polls_ended, List.countP_append, List.countP_singleton]
  rfl

/-- An event that leaves the caches alone. -/
def Event.Harmless : Event → Prop
  | .cycle_started _ | .poll_failed _ _ | .published _ => True
  | _ => False

/-- The call integrates what was handed to `aggregate_bank` just before. -/
def Handed (before : List Event) (call : Call) : Prop :=
  ∃ earlier now fresh_pia fresh_pib values,
    before = earlier ++ [.aggregated now fresh_pia fresh_pib, .published values] ∧
      call.pia_by_pack = fresh_pia.map_values PiaData.toPiaData ∧
      call.pib_by_pack = some (fresh_pib.map_values PibData.toPibData)

/-- What the code of the BMS thread can do to its state, one thing at a time. -/
inductive Effect (w : World) (cfg : BmsCfg) (s : ServiceState) : ServiceState → Prop where
  | clock : Effect w cfg s s.clock_read
  | polled : Effect w cfg s s.polled
  | looked (stop : Bool) : Effect w cfg s (s.looked stop)
  | connecting : Effect w cfg s s.connecting
  | harmless {event : Event} (hevent : event.Harmless) : Effect w cfg s (s.logged event)
  | pia_stored {k pack : Nat} {pia : PiaData} (hpoll : w.poll_pia k pack = .ok pia) :
    Effect w cfg s (s.clock_read.with_pia pack pia (w.monotonic s.clock_reads))
  | pib_stored {k pack : Nat} {pib : PibData} (hpoll : w.poll_pib k pack = .ok pib) :
    Effect w cfg s (s.clock_read.with_pib pack pib (w.monotonic s.clock_reads))
  | excluded {pack : Nat} (hfirst : pack ∉ s.stale_warned) : Effect w cfg s (s.warned [pack])
  | aggregated :
    Effect w cfg s (s.clock_read.logged (.aggregated (w.monotonic s.clock_reads)
      (s.pia_state.filter (pia_fresh cfg s (w.monotonic s.clock_reads)))
      (s.pib_state.filter (pib_fresh cfg s (w.monotonic s.clock_reads)))))
  | integrated {call : Call} (hcall : Handed s.trace call) :
    Effect w cfg s (s.clock_read.integrated call)

/-- The code has run from `s₀` to `s`. -/
def Ran (w : World) (cfg : BmsCfg) (s₀ s : ServiceState) : Prop :=
  Relation.ReflTransGen (Effect w cfg) s₀ s

variable {w : World} {cfg : BmsCfg} {s₀ : ServiceState}

theorem Ran.preserves {s : ServiceState} {P : ServiceState → Prop} (h : Ran w cfg s₀ s)
    (hstart : P s₀) (heffect : ∀ {s s' : ServiceState}, P s → Effect w cfg s s' → P s') : P s := by
  induction h with
  | refl => exact hstart
  | tail _ hstep ih => exact heffect ih hstep

/-! ## What is published -/

/-- The counters, as `publish_telemetry` publishes them. -/
def telemetry (s : ServiceState) : List (String × Option Scalar) :=
  [("bluesun_octopus_parses_ok", int_value s.parses_ok)] ++
  s.parses_by_pack.entries.map (fun entry =>
    (s!"bluesun_{pp entry.1}_parses", int_value entry.2)) ++
  s.pia_parses_by_pack.entries.map fun entry =>
    (s!"bluesun_{pp entry.1}_soc_polls", int_value entry.2)

/-- Values that do not come from the telemetry. -/
def Unrelated (values : List (String × Option Scalar)) : Prop :=
  ∀ value ∈ values, value.1 ≠ "bluesun_octopus_parses_ok"

/-- What is published by a step is the telemetry, or does not come from it. -/
def Announces (s s' : ServiceState) : Prop :=
  ∀ values, s'.trace = s.trace ++ [.published values] →
    values = catalogued (telemetry s) ∨ ∃ given, Unrelated given ∧ values = catalogued given

/-- The code has run from `s₀` to `s`, and every publication was one of its own. -/
def Acted (w : World) (cfg : BmsCfg) (s₀ s : ServiceState) : Prop :=
  Relation.ReflTransGen (fun s s' => Effect w cfg s s' ∧ Announces s s') s₀ s

theorem Acted.ran {s : ServiceState} (h : Acted w cfg s₀ s) : Ran w cfg s₀ s :=
  Relation.ReflTransGen.mono (fun _ _ hstep => hstep.1) _ _ h

/-- An effect that publishes nothing. -/
theorem Acted.step {s s' : ServiceState} (h : Acted w cfg s₀ s) (heffect : Effect w cfg s s')
    (hquiet : ∀ values, s'.trace ≠ s.trace ++ [.published values]) : Acted w cfg s₀ s' :=
  Relation.ReflTransGen.tail h ⟨heffect, fun values htrace => absurd htrace (hquiet values)⟩

theorem Acted.clock_read {s : ServiceState} (h : Acted w cfg s₀ s) : Acted w cfg s₀ s.clock_read :=
  h.step .clock (by simp [ServiceState.clock_read])

theorem Acted.polled {s : ServiceState} (h : Acted w cfg s₀ s) : Acted w cfg s₀ s.polled :=
  h.step .polled (by simp [ServiceState.polled])

theorem Acted.looked {s : ServiceState} (h : Acted w cfg s₀ s) (stop : Bool) :
    Acted w cfg s₀ (s.looked stop) :=
  h.step (.looked stop) (by simp [ServiceState.looked, ServiceState.logged])

theorem Acted.connecting {s : ServiceState} (h : Acted w cfg s₀ s) :
    Acted w cfg s₀ s.connecting :=
  h.step .connecting (by simp [ServiceState.connecting, ServiceState.logged])

theorem Acted.pia_stored {s : ServiceState} (h : Acted w cfg s₀ s) {k pack : Nat} {pia : PiaData}
    (hpoll : w.poll_pia k pack = .ok pia) :
    Acted w cfg s₀ (s.clock_read.with_pia pack pia (w.monotonic s.clock_reads)) :=
  h.step (.pia_stored hpoll) (by simp [ServiceState.with_pia, ServiceState.clock_read])

theorem Acted.pib_stored {s : ServiceState} (h : Acted w cfg s₀ s) {k pack : Nat} {pib : PibData}
    (hpoll : w.poll_pib k pack = .ok pib) :
    Acted w cfg s₀ (s.clock_read.with_pib pack pib (w.monotonic s.clock_reads)) :=
  h.step (.pib_stored hpoll) (by simp [ServiceState.with_pib, ServiceState.clock_read])

/-- A harmless event that is no publication. -/
theorem Acted.logged {s : ServiceState} (h : Acted w cfg s₀ s) {event : Event}
    (hevent : event.Harmless) (hquiet : ∀ values, event ≠ .published values) :
    Acted w cfg s₀ (s.logged event) :=
  h.step (.harmless hevent) (by simpa [ServiceState.logged] using hquiet)

theorem Acted.published {s : ServiceState} (h : Acted w cfg s₀ s)
    {values : List (String × Option Scalar)} (hvalues : values = telemetry s ∨ Unrelated values) :
    Acted w cfg s₀ (s.logged (.published (catalogued values))) := by
  refine Relation.ReflTransGen.tail h ⟨.harmless trivial, fun values' htrace => ?_⟩
  rw [ServiceState.logged, List.append_cancel_left_eq, List.cons.injEq, Event.published.injEq]
    at htrace
  obtain ⟨rfl, -⟩ := htrace
  exact hvalues.imp (congrArg catalogued) fun hunrelated => ⟨values, hunrelated, rfl⟩

/-- Warnings about several packs are single warnings, one after the other. -/
theorem Acted.excluded {s : ServiceState} {packs : List Nat} (h : Acted w cfg s₀ s)
    (hfirst : ∀ pack ∈ packs, pack ∉ s.stale_warned) (hnodup : packs.Nodup) :
    Acted w cfg s₀ (s.warned packs) := by
  induction packs generalizing s with
  | nil => simpa [ServiceState.warned] using h
  | cons pack packs ih =>
    rw [List.forall_mem_cons] at hfirst
    rw [List.nodup_cons] at hnodup
    have hone : Acted w cfg s₀ (s.warned [pack]) :=
      h.step (.excluded hfirst.1) (by simp [ServiceState.warned])
    have hrest := ih hone ?_ hnodup.2
    · simpa [ServiceState.warned, Finset.union_assoc] using hrest
    · intro p hp
      simp only [ServiceState.warned, List.toFinset_cons, List.toFinset_nil, insert_empty_eq,
        Finset.mem_union, Finset.mem_singleton, not_or]
      exact ⟨hfirst.2 p hp, fun heq => hnodup.1 (heq ▸ hp)⟩

theorem Acted.aggregated {s : ServiceState} (h : Acted w cfg s₀ s) :
    Acted w cfg s₀ (s.clock_read.logged (.aggregated (w.monotonic s.clock_reads)
      (s.pia_state.filter (pia_fresh cfg s (w.monotonic s.clock_reads)))
      (s.pib_state.filter (pib_fresh cfg s (w.monotonic s.clock_reads))))) :=
  h.step .aggregated (by simp [ServiceState.logged, ServiceState.clock_read])

theorem Acted.integrated {s : ServiceState} (h : Acted w cfg s₀ s) {call : Call}
    (hcall : Handed s.trace call) : Acted w cfg s₀ (s.clock_read.integrated call) :=
  h.step (.integrated hcall)
    (by simp [ServiceState.integrated, ServiceState.logged, ServiceState.clock_read])

/-- The ids of a pack differ from that of the counter of all packs. -/
theorem pack_id_ne (p : Nat) (tail : String) :
    "bluesun_" ++ pp p ++ tail ≠ "bluesun_octopus_parses_ok" := by
  intro heq
  have hchar := congrArg (fun s => s.toList[8]?) heq
  simp [pp] at hchar

theorem unrelated_energy (station : Station) (call : Call) :
    Unrelated ((station.integrate_energy call).2.map fun entry => (entry.1, some (.float entry.2))) := by
  rw [Station.integrate_energy_published]
  simp [Unrelated, Station.published]

section

variable (s₀ : ServiceState)

theorem monotonic_spec :
    ⦃fun s => ⌜Acted w cfg s₀ s⌝⦄ monotonic w
    ⦃post⟨fun _ s => ⌜Acted w cfg s₀ s⌝, fun _ _ => ⌜False⌝⟩⦄ := by
  mvcgen [monotonic]
  exact Acted.clock_read ‹_›

theorem log_spec {event : Event} (hevent : event.Harmless)
    (hquiet : ∀ values, event ≠ .published values) :
    ⦃fun s => ⌜Acted w cfg s₀ s⌝⦄ log event
    ⦃post⟨fun _ s => ⌜Acted w cfg s₀ s⌝, fun _ _ => ⌜False⌝⟩⦄ := by
  mvcgen [log]
  exact Acted.logged ‹_› hevent hquiet

theorem publish_spec {values : List (String × Option Scalar)} (hvalues : Unrelated values) :
    ⦃fun s => ⌜Acted w cfg s₀ s⌝⦄ publish values
    ⦃post⟨fun _ s => ⌜Acted w cfg s₀ s⌝, fun _ _ => ⌜False⌝⟩⦄ := by
  mvcgen [publish]
  exact Acted.published ‹_› (.inr hvalues)

theorem publish_pia_state_spec (p : PiaData) :
    ⦃fun s => ⌜Acted w cfg s₀ s⌝⦄ publish_pia_state p
    ⦃post⟨fun _ s => ⌜Acted w cfg s₀ s⌝, fun _ _ => ⌜False⌝⟩⦄ := by
  refine publish_spec s₀ ?_
  simp only [Unrelated, List.forall_mem_cons]
  refine ⟨?_, ?_, ?_, ?_, ?_, ?_, ?_, nofun⟩ <;> exact pack_id_ne p.pack _

theorem publish_pib_state_spec (p : PibData) :
    ⦃fun s => ⌜Acted w cfg s₀ s⌝⦄ publish_pib_state p
    ⦃post⟨fun _ s => ⌜Acted w cfg s₀ s⌝, fun _ _ => ⌜False⌝⟩⦄ := by
  refine publish_spec s₀ ?_
  simp only [Unrelated, List.forall_mem_append, List.forall_mem_cons, List.forall_mem_map]
  refine ⟨⟨⟨?_, ?_, ?_, ?_, nofun⟩, fun entry _ => ?_⟩, ?_, ?_, nofun⟩
  case refine_5 =>
    have hne := pack_id_ne p.pack ("_cell_temp_" ++ toString entry.2)
    rw [← String.append_assoc] at hne
    exact hne
  all_goals exact pack_id_ne p.pack _

theorem publish_telemetry_spec :
    ⦃fun s => ⌜Acted w cfg s₀ s⌝⦄ publish_telemetry
    ⦃post⟨fun _ s => ⌜Acted w cfg s₀ s⌝, fun _ _ => ⌜False⌝⟩⦄ := by
  mvcgen [publish_telemetry, publish]
  exact Acted.published ‹_› (.inl rfl)

theorem stop_is_set_spec :
    ⦃fun s => ⌜Acted w cfg s₀ s⌝⦄ stop_is_set w
    ⦃post⟨fun _ s => ⌜Acted w cfg s₀ s⌝, fun _ _ => ⌜False⌝⟩⦄ := by
  mvcgen [stop_is_set]
  exact Acted.looked ‹_› _

theorem return_if_stopped_spec :
    ⦃fun s => ⌜Acted w cfg s₀ s⌝⦄ return_if_stopped w
    ⦃post⟨fun _ s => ⌜Acted w cfg s₀ s⌝, fun _ s => ⌜Acted w cfg s₀ s⌝⟩⦄ := by
  have hlook := @stop_is_set_spec w cfg s₀
  mvcgen [return_if_stopped, hlook]

theorem poll_raised_spec (poll pack : Nat) (e : PollError) :
    ⦃fun s => ⌜Acted w cfg s₀ s⌝⦄ poll_raised w poll pack e
    ⦃post⟨fun _ s => ⌜Acted w cfg s₀ s⌝, fun _ s => ⌜Acted w cfg s₀ s⌝⟩⦄ := by
  have hlog := @log_spec w cfg s₀ (.poll_failed pack (w.is_connected poll)) trivial nofun
  mvcgen [poll_raised, hlog]

theorem poll_pia_spec (pack : Nat) :
    ⦃fun s => ⌜Acted w cfg s₀ s⌝⦄ poll_pia w pack
    ⦃post⟨fun _ s => ⌜Acted w cfg s₀ s⌝, fun _ s => ⌜Acted w cfg s₀ s⌝⟩⦄ := by
  have hraised := @poll_raised_spec w cfg s₀
  have hpublish := @publish_pia_state_spec w cfg s₀
  mvcgen [poll_pia, hraised, hpublish, monotonic]
  case h_1.pre hran _ hpoll _ => exact hran.polled.pia_stored hpoll
  case h_2.pre hran _ _ => exact hran.polled

theorem poll_pib_spec (pack : Nat) :
    ⦃fun s => ⌜Acted w cfg s₀ s⌝⦄ poll_pib w pack
    ⦃post⟨fun _ s => ⌜Acted w cfg s₀ s⌝, fun _ s => ⌜Acted w cfg s₀ s⌝⟩⦄ := by
  have hraised := @poll_raised_spec w cfg s₀
  have hpublish := @publish_pib_state_spec w cfg s₀
  mvcgen [poll_pib, hraised, hpublish, monotonic]
  case h_1.pre hran _ hpoll _ => exact hran.polled.pib_stored hpoll
  case h_2.pre hran _ _ => exact hran.polled

theorem poll_round_spec {poll : Nat → Program Bool}
    (hpoll : ∀ pack, ⦃fun s => ⌜Acted w cfg s₀ s⌝⦄ poll pack
      ⦃post⟨fun _ s => ⌜Acted w cfg s₀ s⌝, fun _ s => ⌜Acted w cfg s₀ s⌝⟩⦄)
    (cycle_ok : Nat) (packs : List Nat) :
    ⦃fun s => ⌜Acted w cfg s₀ s⌝⦄ poll_round w poll cycle_ok packs
    ⦃post⟨fun _ s => ⌜Acted w cfg s₀ s⌝, fun _ s => ⌜Acted w cfg s₀ s⌝⟩⦄ := by
  have hstop := @return_if_stopped_spec w cfg s₀
  induction packs generalizing cycle_ok with
  | nil => mvcgen [poll_round]
  | cons pack packs ih => mvcgen [poll_round, hpoll, hstop, ih]

theorem poll_packs_spec (cycle_start last_slow : ℚ) :
    ⦃fun s => ⌜Acted w cfg s₀ s⌝⦄ poll_packs w cfg cycle_start last_slow
    ⦃post⟨fun _ s => ⌜Acted w cfg s₀ s⌝, fun _ s => ⌜Acted w cfg s₀ s⌝⟩⦄ := by
  have hpia := @poll_round_spec w cfg s₀ _ (poll_pia_spec s₀)
  have hpib := @poll_round_spec w cfg s₀ _ (poll_pib_spec s₀)
  mvcgen [poll_packs, hpia, hpib]

theorem watchdog_spec (failed_cycles cycle_ok : Nat) :
    ⦃fun s => ⌜Acted w cfg s₀ s⌝⦄ watchdog cfg failed_cycles cycle_ok
    ⦃post⟨fun _ s => ⌜Acted w cfg s₀ s⌝, fun _ s => ⌜Acted w cfg s₀ s⌝⟩⦄ := by
  mvcgen [watchdog]

/-- The packs that are warned about, then those that are aggregated. -/
theorem fresh_states_spec :
    ⦃fun s => ⌜Acted w cfg s₀ s⌝⦄ fresh_states w cfg
    ⦃post⟨fun fresh s => ⌜Acted w cfg s₀ s ∧ ∃ earlier now,
      s.trace = earlier ++ [.aggregated now fresh.1 fresh.2]⌝, fun _ _ => ⌜False⌝⟩⦄ := by
  mvcgen [fresh_states, monotonic]
  case vc1 s hran _ _ _ =>
    refine ⟨?_, _, _, rfl⟩
    have hfirst : ∀ pack ∈ newly_stale cfg s (w.monotonic s.clock_reads), pack ∉ s.stale_warned := by
      intro pack hpack
      have hstale := (List.mem_filter.mp hpack).2
      simp only [Bool.and_eq_true, decide_eq_true_eq] at hstale
      exact hstale.2
    exact (hran.excluded hfirst (s.pia_state.keys_nodup.filter _)).aggregated

theorem publish_bank_state_spec {fresh_pia : Dict Nat PiaData} {fresh_pib : Dict Nat PibData}
    (agg : aggregator.BankAggregates) :
    ⦃fun s => ⌜Acted w cfg s₀ s ∧ ∃ earlier now,
      s.trace = earlier ++ [.aggregated now fresh_pia fresh_pib]⌝⦄
    publish_bank_state agg
    ⦃post⟨fun _ s => ⌜Acted w cfg s₀ s ∧ ∃ earlier now values,
      s.trace = earlier ++ [.aggregated now fresh_pia fresh_pib, .published values]⌝,
      fun _ _ => ⌜False⌝⟩⦄ := by
  mvcgen [publish_bank_state, publish]
  case vc1 s hran _ =>
    obtain ⟨hran, earlier, now, htrace⟩ := hran
    have hlogged (event : Event) :
        (s.logged event).trace = earlier ++ [.aggregated now fresh_pia fresh_pib, event] := by
      rw [ServiceState.logged, htrace, List.append_assoc]
      rfl
    refine ⟨hran.published (.inr ?_), earlier, now, _, hlogged (.published _)⟩
    simp [Unrelated]

theorem integrate_energy_spec {fresh_pia : Dict Nat PiaData} {fresh_pib : Dict Nat PibData} :
    ⦃fun s => ⌜Acted w cfg s₀ s ∧ ∃ earlier now values,
      s.trace = earlier ++ [.aggregated now fresh_pia fresh_pib, .published values]⌝⦄
    integrate_energy w fresh_pia fresh_pib
    ⦃post⟨fun _ s => ⌜Acted w cfg s₀ s⌝, fun _ _ => ⌜False⌝⟩⦄ := by
  have hpublish := @publish_spec w cfg s₀
  mvcgen [integrate_energy, monotonic, hpublish]
  case hvalues => exact unrelated_energy _ _
  case vc2 s hran _ _ _ =>
    obtain ⟨hran, earlier, now, values, htrace⟩ := hran
    exact hran.integrated ⟨earlier, now, fresh_pia, fresh_pib, values, htrace, rfl, rfl⟩

theorem publish_cycle_spec :
    ⦃fun s => ⌜Acted w cfg s₀ s⌝⦄ publish_cycle w cfg
    ⦃post⟨fun _ s => ⌜Acted w cfg s₀ s⌝, fun _ _ => ⌜False⌝⟩⦄ := by
  have hfresh := @fresh_states_spec w cfg s₀
  have hbank := @publish_bank_state_spec w cfg s₀
  have hintegrate := @integrate_energy_spec w cfg s₀
  have htelemetry := @publish_telemetry_spec w cfg s₀
  mvcgen [publish_cycle, hfresh, hbank, hintegrate, htelemetry]

theorem wait_for_next_cycle_spec (cycle_start : ℚ) :
    ⦃fun s => ⌜Acted w cfg s₀ s⌝⦄ wait_for_next_cycle w cfg cycle_start
    ⦃post⟨fun _ s => ⌜Acted w cfg s₀ s⌝, fun _ s => ⌜Acted w cfg s₀ s⌝⟩⦄ := by
  have hclock := @monotonic_spec w cfg s₀
  have hstop := @return_if_stopped_spec w cfg s₀
  mvcgen [wait_for_next_cycle, hclock, hstop]

theorem poll_cycles_spec (failed_cycles : Nat) (last_slow : ℚ) (n : Nat) :
    ⦃fun s => ⌜Acted w cfg s₀ s⌝⦄ poll_cycles w cfg failed_cycles last_slow n
    ⦃post⟨fun _ s => ⌜Acted w cfg s₀ s⌝, fun _ s => ⌜Acted w cfg s₀ s⌝⟩⦄ := by
  have hstop := @return_if_stopped_spec w cfg s₀
  have hclock := @monotonic_spec w cfg s₀
  have hlog (start : ℚ) := @log_spec w cfg s₀ (.cycle_started start) trivial nofun
  have hpacks := @poll_packs_spec w cfg s₀
  have hwatchdog := @watchdog_spec w cfg s₀
  have hpublish := @publish_cycle_spec w cfg s₀
  have hwait := @wait_for_next_cycle_spec w cfg s₀
  induction n generalizing failed_cycles last_slow with
  | zero => mvcgen [poll_cycles]
  | succ n ih =>
    mvcgen [poll_cycles, hstop, hclock, hlog, hpacks, hwatchdog, hpublish, hwait, ih]

theorem session_spec (n : Nat) :
    ⦃fun s => ⌜Acted w cfg s₀ s⌝⦄ session w cfg n
    ⦃post⟨fun _ s => ⌜Acted w cfg s₀ s⌝, fun _ s => ⌜Acted w cfg s₀ s⌝⟩⦄ := by
  have hcycles := @poll_cycles_spec w cfg s₀
  mvcgen [session, poll_loop, hcycles]
  case isTrue.pre hran _ => exact hran.connecting
  case isTrue.post.success => exact id
  case isFalse hran _ => exact hran.connecting

/-- The service does nothing but these effects. -/
theorem run_async_spec (n sessions : Nat) :
    ⦃fun s => ⌜Acted w cfg s₀ s⌝⦄ run_async w cfg n sessions
    ⦃post⟨fun _ s => ⌜Acted w cfg s₀ s⌝, fun _ s => ⌜Acted w cfg s₀ s⌝⟩⦄ := by
  have hstop := @return_if_stopped_spec w cfg s₀
  have hsession := @session_spec w cfg s₀
  induction sessions with
  | zero => mvcgen [run_async]
  | succ sessions ih => mvcgen [run_async, hstop, hsession, ih]

end

theorem acted_after (w : World) (cfg : BmsCfg) (station : Station) (sessions n : Nat) :
    Acted w cfg (ServiceState.start station) (after w cfg station sessions n) := by
  have hrun := outcome_of_spec (@run_async_spec w cfg (ServiceState.start station) n sessions)
    Relation.ReflTransGen.refl
  unfold after
  cases hresult : (run_async w cfg n sessions).run.run (ServiceState.start station) with
  | mk r s =>
    rw [hresult] at hrun
    cases r with
    | ok _ => exact hrun
    | error _ => exact hrun

theorem ran_after (w : World) (cfg : BmsCfg) (station : Station) (sessions n : Nat) :
    Ran w cfg (ServiceState.start station) (after w cfg station sessions n) :=
  (acted_after w cfg station sessions n).ran

end inverter_bridge.bms.service
