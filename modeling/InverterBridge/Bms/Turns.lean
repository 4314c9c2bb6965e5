import InverterBridge.Bms.Heartbeat

open Python Std.Do Trace
open inverter_bridge.config inverter_bridge.bms.octopus_protocol inverter_bridge.bms.ble_client

set_option mvcgen.warning false

namespace inverter_bridge.bms.service

/-! ## What an event belongs to -/

def turn_event (turn : Nat) (event : Event) : Nat :=
  match event with
  | .cycle_started _ => 0
  | _ => if event.ends_poll then turn + 1 else turn

/-- How many polls of the cycle under way have ended. -/
def turn (trace : List Event) : Nat := trace.foldl turn_event 0

def Event.call : Event → Option Call
  | .integrated call => some call
  | _ => none

/-- Whatever the state of the service, the program publishes `values` and does nothing else. -/
def Publishes (program : Program Unit) (values : List (String × Scalar)) : Prop :=
  ∀ s, program.run.run s = (.ok (), s.logged (.published values))

/-- The energy totals of a service, as they are published. -/
def energy_values (station : Station) : List (String × Option Scalar) :=
  station.published.map fun entry => (entry.1, some (.float entry.2))

/-- What is published after `before` belongs to its last event: the reading that was stored, the
packs that are aggregated, the totals of the calls, or the counters. -/
def Announced (station : Station) (before : List Event) (values : List (String × Scalar)) : Prop :=
  match before.getLast? with
  | some (.pia_stored _ data _) => Publishes (publish_pia_state data) values
  | some (.pib_stored _ data _) => Publishes (publish_pib_state data) values
  | some (.aggregated _ fresh_pia fresh_pib) =>
    Publishes (publish_bank_state (aggregator.aggregate_bank
      (fresh_pia.map_values PiaData.toPiaData)
      (some (fresh_pib.map_values PibData.toPibData)))) values
  | some (.integrated _) =>
    values = catalogued (energy_values (station.run (before.filterMap Event.call)))
  | some (.published _) => IsTelemetry values
  | _ => False

/-- Why an event comes when it does: a poll is the one whose turn it is, and ends as the client
ends it. -/
def Explained (w : World) (packs : Nat) (station : Station) (before : List Event) : Event → Prop
  | .pia_stored pack data _ =>
    pack ≤ packs ∧ turn before + 1 = pack ∧ w.poll_pia (polls_ended before) pack = .ok data
  | .pib_stored pack data _ =>
    1 ≤ pack ∧ pack ≤ packs ∧ turn before + 1 = packs + pack ∧
      w.poll_pib (polls_ended before) pack = .ok data
  | .poll_failed pack connected =>
    connected = w.is_connected (polls_ended before) ∧ 1 ≤ pack ∧ pack ≤ packs ∧
      (turn before + 1 = pack ∧ (∃ e, w.poll_pia (polls_ended before) pack = .error e) ∨
        turn before + 1 = packs + pack ∧ ∃ e, w.poll_pib (polls_ended before) pack = .error e)
  | .published values => Announced station before values
  | _ => True

/-- The service has run with all its events explained, and its totals are those of the calls. -/
structure Turned (w : World) (packs : Nat) (station : Station) (s : ServiceState) : Prop where
  polls : s.polls = polls_ended s.trace
  totals : s.station = station.run (s.trace.filterMap Event.call)
  explained : EachAt (Explained w packs station) s.trace

section

variable {w : World} {packs : Nat} {station : Station} {s s' : ServiceState}

theorem turn_append (trace : List Event) (event : Event) :
    turn (trace ++ [event]) = turn_event (turn trace) event := by
  rw [turn, List.foldl_append]
  rfl

theorem Turned.append (h : Turned w packs station s) (event : Event)
    (htrace : s'.trace = s.trace ++ [event])
    (hpolls : s'.polls = s.polls + if event.ends_poll then 1 else 0)
    (hstation : s'.station = event.call.elim s.station s.station.after)
    (hevent : Explained w packs station s.trace event) : Turned w packs station s' := by
  constructor
  · rw [hpolls, htrace, polls_ended_append, h.polls]
  · have hrun : station.run (s'.trace.filterMap Event.call) =
        (station.run (s.trace.filterMap Event.call)).run event.call.toList := by
      rw [htrace, filterMap_append_singleton, Station.run_append]
    rw [hstation, hrun, ← h.totals]
    cases event.call with
    | none => rfl
    | some call => rfl
  · rw [htrace]
    exact eachAt_append_singleton.mpr ⟨h.explained, hevent⟩

/-- An event that ends no poll and integrates nothing. -/
theorem Turned.logged (h : Turned w packs station s) {event : Event} (hends : event.ends_poll = false)
    (hcall : event.call = none) (hevent : Explained w packs station s.trace event) :
    Turned w packs station (s.logged event) := by
  refine h.append event rfl ?_ ?_ hevent
  · rw [hends]
    rfl
  · rw [hcall]
    rfl

theorem Turned.clock_read (h : Turned w packs station s) : Turned w packs station s.clock_read :=
  ⟨h.polls, h.totals, h.explained⟩

theorem Turned.looked (h : Turned w packs station s) (stop : Bool) :
    Turned w packs station (s.looked stop) :=
  h.append (.looked stop) rfl rfl rfl trivial

theorem Turned.connecting (h : Turned w packs station s) : Turned w packs station s.connecting :=
  h.append .connecting rfl rfl rfl trivial

theorem Turned.warned (h : Turned w packs station s) (excluded : List Nat) :
    Turned w packs station (s.warned excluded) := by
  induction excluded generalizing s with
  | nil => simpa [ServiceState.warned] using h
  | cons pack excluded ih =>
    have hone : Turned w packs station (s.warned [pack]) :=
      h.append (.excluded pack) rfl rfl rfl trivial
    have hrest := ih hone
    simpa [ServiceState.warned, Finset.union_assoc] using hrest

/-- A poll that has ended, with the trace to it. -/
theorem Turned.pia_stored (h : Turned w packs station s) {pack : Nat} {pia : PiaData} (now : ℚ)
    (hpack : pack ≤ packs) (hturn : turn s.trace + 1 = pack)
    (hpoll : w.poll_pia s.polls pack = .ok pia) :
    Turned w packs station (s.polled.clock_read.with_pia pack pia now) :=
  h.append (.pia_stored pack pia now) rfl rfl rfl ⟨hpack, hturn, h.polls ▸ hpoll⟩

theorem Turned.pib_stored (h : Turned w packs station s) {pack : Nat} {pib : PibData} (now : ℚ)
    (hone : 1 ≤ pack) (hpack : pack ≤ packs) (hturn : turn s.trace + 1 = packs + pack)
    (hpoll : w.poll_pib s.polls pack = .ok pib) :
    Turned w packs station (s.polled.clock_read.with_pib pack pib now) :=
  h.append (.pib_stored pack pib now) rfl rfl rfl ⟨hone, hpack, hturn, h.polls ▸ hpoll⟩

/-- A poll that has failed as expected. -/
theorem Turned.poll_failed (h : Turned w packs station s) {pack : Nat} (hone : 1 ≤ pack)
    (hpack : pack ≤ packs)
    (hfailed : turn s.trace + 1 = pack ∧ (∃ e, w.poll_pia s.polls pack = .error e) ∨
      turn s.trace + 1 = packs + pack ∧ ∃ e, w.poll_pib s.polls pack = .error e) :
    Turned w packs station (s.polled.logged (.poll_failed pack (w.is_connected s.polls))) := by
  rw [h.polls] at hfailed
  exact h.append _ rfl rfl rfl ⟨congrArg w.is_connected h.polls, hone, hpack, hfailed⟩

theorem Turned.published (h : Turned w packs station s) {values : List (String × Option Scalar)}
    (hevent : Explained w packs station s.trace (.published (catalogued values))) :
    Turned w packs station (s.logged (.published (catalogued values))) :=
  h.logged rfl rfl hevent

theorem Turned.integrated (h : Turned w packs station s) (call : Call) :
    Turned w packs station (s.clock_read.integrated call) :=
  h.append (.integrated call) rfl rfl rfl trivial

/-- What a call publishes are the totals after all the calls up to it. -/
theorem Turned.energy_values_integrated (h : Turned w packs station s) (call : Call) :
    ((s.station.integrate_energy call).2.map fun entry => (entry.1, some (.float entry.2))) =
      energy_values
        (station.run ((s.clock_read.integrated call).trace.filterMap Event.call)) := by
  rw [Station.integrate_energy_published, ← (h.integrated call).totals]
  rfl

theorem Turned.start (w : World) (packs : Nat) (station : Station) :
    Turned w packs station (ServiceState.start station) :=
  ⟨rfl, rfl, eachAt_nil⟩

end

/-! ## The loop, one part after the other -/

section

variable {w : World} {cfg : BmsCfg} {packs : Nat} {station : Station}

/-- No poll of a pack in the chain raises what the loop does not expect. -/
def Expected (w : World) (packs : Nat) : Prop :=
  ∀ k pack e, 1 ≤ pack → pack ≤ packs →
    w.poll_pia k pack = .error e ∨ w.poll_pib k pack = .error e → e.is_failed_poll = true

theorem return_if_stopped_turned :
    ⦃fun s => ⌜Turned w packs station s⌝⦄ return_if_stopped w
    ⦃post⟨fun _ s => ⌜Turned w packs station s⌝, fun _ s => ⌜Turned w packs station s⌝⟩⦄ := by
  mvcgen [return_if_stopped, stop_is_set]
  case vc1.isTrue h _ _ => exact h.looked _
  case vc2.isFalse h _ _ => exact h.looked _

/-- A look at the stop event is no turn. -/
theorem return_if_stopped_turn (t : Nat) :
    ⦃fun s => ⌜Turned w packs station s ∧ turn s.trace = t⌝⦄ return_if_stopped w
    ⦃post⟨fun _ s => ⌜Turned w packs station s ∧ turn s.trace = t⌝,
      fun _ s => ⌜Turned w packs station s⌝⟩⦄ := by
  mvcgen [return_if_stopped, stop_is_set]
  case vc1.isTrue h _ _ => exact h.1.looked _
  case vc2.isFalse s h _ _ => exact ⟨h.1.looked _, (turn_append s.trace _).trans h.2⟩

/-- The poll of the round whose turns begin after `offset` ends its turn. -/
def Turns (w : World) (packs : Nat) (station : Station) (offset : Nat)
    (poll : Nat → Program Bool) : Prop :=
  ∀ pack, 1 ≤ pack → pack ≤ packs →
    ⦃fun s => ⌜Turned w packs station s ∧ turn s.trace + 1 = offset + pack⌝⦄ poll pack
    ⦃post⟨fun _ s => ⌜Turned w packs station s ∧ turn s.trace = offset + pack⌝,
      fun _ s => ⌜Turned w packs station s⌝⟩⦄

theorem poll_pia_turns (hexpected : Expected w packs) :
    Turns w packs station 0 (poll_pia w) := by
  intro pack hone hpack
  mvcgen [poll_pia, publish_pia_state, publish, monotonic, poll_raised, log]
  case vc1.h_1 s h pia hpoll _ _ =>
    have hstored := h.1.pia_stored (w.monotonic s.clock_reads) hpack (by omega) hpoll
    refine ⟨hstored.published ?_, ?_⟩
    · rw [Explained, Announced, ServiceState.with_pia, List.getLast?_concat]
      exact fun _ => rfl
    · exact (turn_append _ _).trans ((turn_append s.trace _).trans h.2)
  case vc2.h_2.isTrue.isTrue s h e hpoll _ _ _ _ =>
    exact h.1.poll_failed hone hpack (.inl ⟨by omega, e, hpoll⟩)
  case vc3.h_2.isTrue.isFalse s h e hpoll _ _ _ _ =>
    exact ⟨h.1.poll_failed hone hpack (.inl ⟨by omega, e, hpoll⟩),
      (turn_append s.trace _).trans h.2⟩
  case vc4.h_2.isFalse s h e hpoll hother =>
    exact absurd (hexpected _ pack e hone hpack (.inl hpoll)) hother

theorem poll_pib_turns (hexpected : Expected w packs) :
    Turns w packs station packs (poll_pib w) := by
  intro pack hone hpack
  mvcgen [poll_pib, publish_pib_state, publish, monotonic, poll_raised, log]
  case vc1.h_1 s h pib hpoll _ _ =>
    have hstored := h.1.pib_stored (w.monotonic s.clock_reads) hone hpack h.2 hpoll
    refine ⟨hstored.published ?_, ?_⟩
    · rw [Explained, Announced, ServiceState.with_pib, List.getLast?_concat]
      exact fun _ => rfl
    · exact (turn_append _ _).trans ((turn_append s.trace _).trans h.2)
  case vc2.h_2.isTrue.isTrue s h e hpoll _ _ _ _ =>
    exact h.1.poll_failed hone hpack (.inr ⟨h.2, e, hpoll⟩)
  case vc3.h_2.isTrue.isFalse s h e hpoll _ _ _ _ =>
    exact ⟨h.1.poll_failed hone hpack (.inr ⟨h.2, e, hpoll⟩), (turn_append s.trace _).trans h.2⟩
  case vc4.h_2.isFalse s h e hpoll hother =>
    exact absurd (hexpected _ pack e hone hpack (.inr hpoll)) hother

/-- A round from its turn `i` on. -/
theorem poll_round_turned {offset : Nat} {poll : Nat → Program Bool}
    (hpoll : Turns w packs station offset poll) {i m : Nat} (hall : i + m = packs) (cycle_ok : Nat) :
    ⦃fun s => ⌜Turned w packs station s ∧ turn s.trace = offset + i⌝⦄
    poll_round w poll cycle_ok (List.range' (i + 1) m)
    ⦃post⟨fun _ s => ⌜Turned w packs station s ∧ turn s.trace = offset + packs⌝,
      fun _ s => ⌜Turned w packs station s⌝⟩⦄ := by
  induction m generalizing i cycle_ok with
  | zero =>
    obtain rfl : i = packs := hall
    mvcgen [poll_round]
  | succ m ih =>
    have hone := hpoll (i + 1) (by omega) (by omega)
    have hstop := @return_if_stopped_turn w packs station (offset + (i + 1))
    have hrest := @ih (i + 1) (by omega)
    mvcgen [List.range'_succ, poll_round, hone, hstop, hrest]
    case vc1.succ.pre h => exact ⟨h.1, by omega⟩

/-- The two rounds of a cycle. -/
theorem poll_packs_turned (hexpected : Expected w cfg.pack_count.toNat)
    (cycle_start last_slow : ℚ) :
    ⦃fun s => ⌜Turned w cfg.pack_count.toNat station s ∧ turn s.trace = 0⌝⦄
    poll_packs w cfg cycle_start last_slow
    ⦃post⟨fun _ s => ⌜Turned w cfg.pack_count.toNat station s⌝,
      fun _ s => ⌜Turned w cfg.pack_count.toNat station s⌝⟩⦄ := by
  have hpia := poll_round_turned (@poll_pia_turns w _ station hexpected) (Nat.zero_add _)
  have hpib := poll_round_turned (@poll_pib_turns w _ station hexpected) (Nat.zero_add _)
  mvcgen [poll_packs, hpia, hpib]
  case vc2.post.success.isTrue.pre h => exact ⟨h.1, by omega⟩
  case vc3.post.success.isTrue.post.success h => exact h.1
  case vc4.post.success.isFalse h => exact h.1

theorem watchdog_turned (failed_cycles cycle_ok : Nat) :
    ⦃fun s => ⌜Turned w packs station s⌝⦄ watchdog cfg failed_cycles cycle_ok
    ⦃post⟨fun _ s => ⌜Turned w packs station s⌝, fun _ s => ⌜Turned w packs station s⌝⟩⦄ := by
  mvcgen [watchdog]

/-- The packs that are aggregated are the last event. -/
theorem fresh_states_turned :
    ⦃fun s => ⌜Turned w packs station s⌝⦄ fresh_states w cfg
    ⦃post⟨fun fresh s => ⌜Turned w packs station s ∧
        ∃ now, s.trace.getLast? = some (.aggregated now fresh.1 fresh.2)⌝,
      fun _ _ => ⌜False⌝⟩⦄ := by
  mvcgen [fresh_states, monotonic]
  case vc1 s h excluded _ _ =>
    exact ⟨(h.clock_read.warned excluded).logged rfl rfl trivial, _, List.getLast?_concat⟩

theorem publish_bank_state_turned (fresh_pia : Dict Nat PiaData) (fresh_pib : Dict Nat PibData) :
    ⦃fun s => ⌜Turned w packs station s ∧
        ∃ now, s.trace.getLast? = some (.aggregated now fresh_pia fresh_pib)⌝⦄
    publish_bank_state (aggregator.aggregate_bank (fresh_pia.map_values PiaData.toPiaData)
      (some (fresh_pib.map_values PibData.toPibData)))
    ⦃post⟨fun _ s => ⌜Turned w packs station s⌝, fun _ _ => ⌜False⌝⟩⦄ := by
  mvcgen [publish_bank_state, publish]
  case vc1 s h _ =>
    obtain ⟨h, now, hlast⟩ := h
    refine h.published ?_
    rw [Explained, Announced, hlast]
    exact fun _ => rfl

/-- The totals are published right after the call. -/
theorem integrate_energy_turned (fresh_pia : Dict Nat PiaData) (fresh_pib : Dict Nat PibData) :
    ⦃fun s => ⌜Turned w packs station s⌝⦄ integrate_energy w fresh_pia fresh_pib
    ⦃post⟨fun _ s => ⌜Turned w packs station s ∧
        ∃ values, s.trace.getLast? = some (.published values)⌝, fun _ _ => ⌜False⌝⟩⦄ := by
  mvcgen [integrate_energy, monotonic, publish]
  case vc1 s h call energy _ _ =>
    refine ⟨(h.integrated call).published ?_, _, List.getLast?_concat⟩
    rw [Explained, Announced, ServiceState.integrated, ServiceState.logged, List.getLast?_concat]
    exact congrArg catalogued (h.energy_values_integrated call)

theorem publish_telemetry_turned :
    ⦃fun s => ⌜Turned w packs station s ∧
        ∃ values, s.trace.getLast? = some (.published values)⌝⦄ publish_telemetry
    ⦃post⟨fun _ s => ⌜Turned w packs station s⌝, fun _ _ => ⌜False⌝⟩⦄ := by
  mvcgen [publish_telemetry, publish]
  case vc1 s h _ =>
    obtain ⟨h, values, hlast⟩ := h
    refine h.published ?_
    rw [Explained, Announced, hlast]
    exact isTelemetry_telemetry s

/-- The aggregates of a cycle, the energy and the counters. -/
theorem publish_cycle_turned :
    ⦃fun s => ⌜Turned w packs station s⌝⦄ publish_cycle w cfg
    ⦃post⟨fun _ s => ⌜Turned w packs station s⌝, fun _ _ => ⌜False⌝⟩⦄ := by
  have hfresh := @fresh_states_turned w cfg packs station
  have hbank := @publish_bank_state_turned w packs station
  have hintegrate := @integrate_energy_turned w packs station
  have htelemetry := @publish_telemetry_turned w packs station
  mvcgen [publish_cycle, hfresh, hbank, hintegrate, htelemetry]

theorem wait_for_next_cycle_turned (cycle_start : ℚ) :
    ⦃fun s => ⌜Turned w packs station s⌝⦄ wait_for_next_cycle w cfg cycle_start
    ⦃post⟨fun _ s => ⌜Turned w packs station s⌝, fun _ s => ⌜Turned w packs station s⌝⟩⦄ := by
  have hstop := @return_if_stopped_turned w packs station
  mvcgen [wait_for_next_cycle, monotonic, hstop]
  case vc1.isTrue h _ => exact h.clock_read
  case vc2.isFalse h _ => exact h.clock_read

theorem poll_cycles_turned (hexpected : Expected w cfg.pack_count.toNat) (failed_cycles : Nat)
    (last_slow : ℚ) (n : Nat) :
    ⦃fun s => ⌜Turned w cfg.pack_count.toNat station s⌝⦄ poll_cycles w cfg failed_cycles last_slow n
    ⦃post⟨fun _ s => ⌜Turned w cfg.pack_count.toNat station s⌝,
      fun _ s => ⌜Turned w cfg.pack_count.toNat station s⌝⟩⦄ := by
  have hpacks := @poll_packs_turned w cfg station hexpected
  have hwatchdog := @watchdog_turned w cfg cfg.pack_count.toNat station
  have hpublish := @publish_cycle_turned w cfg cfg.pack_count.toNat station
  have hwait := @wait_for_next_cycle_turned w cfg cfg.pack_count.toNat station
  have hstop := @return_if_stopped_turned w cfg.pack_count.toNat station
  induction n generalizing failed_cycles last_slow with
  | zero => mvcgen [poll_cycles]
  | succ n ih =>
    mvcgen [poll_cycles, hstop, monotonic, log, hpacks, hwatchdog, hpublish, hwait, ih]
    case vc2.succ.post.success.pre h _ =>
      exact ⟨h.clock_read.logged rfl rfl trivial, turn_append _ _⟩

theorem session_turned (hexpected : Expected w cfg.pack_count.toNat) (n : Nat) :
    ⦃fun s => ⌜Turned w cfg.pack_count.toNat station s⌝⦄ session w cfg n
    ⦃post⟨fun _ s => ⌜Turned w cfg.pack_count.toNat station s⌝,
      fun _ s => ⌜Turned w cfg.pack_count.toNat station s⌝⟩⦄ := by
  have hcycles := @poll_cycles_turned w cfg station hexpected
  mvcgen [session, poll_loop, hcycles]
  case vc1.isTrue.pre h _ => exact h.connecting
  case vc2.isTrue.post.success => exact id
  case vc5.isFalse h _ => exact h.connecting

theorem run_async_turned (hexpected : Expected w cfg.pack_count.toNat) (n sessions : Nat) :
    ⦃fun s => ⌜Turned w cfg.pack_count.toNat station s⌝⦄ run_async w cfg n sessions
    ⦃post⟨fun _ s => ⌜Turned w cfg.pack_count.toNat station s⌝,
      fun _ s => ⌜Turned w cfg.pack_count.toNat station s⌝⟩⦄ := by
  have hsession := @session_turned w cfg station hexpected
  have hstop := @return_if_stopped_turned w cfg.pack_count.toNat station
  induction sessions with
  | zero => mvcgen [run_async]
  | succ sessions ih =>
    mvcgen [run_async, hstop, hsession, ih]

end

/-- In every run over all reconnections, every event is explained. -/
theorem turned_after (w : World) (cfg : BmsCfg) (station : Station) (sessions n : Nat)
    (hexpected : Expected w cfg.pack_count.toNat) :
    Turned w cfg.pack_count.toNat station (after w cfg station sessions n) := by
  have hrun := outcome_of_spec (@run_async_turned w cfg station hexpected n sessions)
    (Turned.start w _ station)
  unfold after
  cases hresult : (run_async w cfg n sessions).run.run (ServiceState.start station) with
  | mk r s =>
    rw [hresult] at hrun
    cases r with
    | ok _ => exact hrun
    | error _ => exact hrun

end inverter_bridge.bms.service
