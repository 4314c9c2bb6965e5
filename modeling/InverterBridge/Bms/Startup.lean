import InverterBridge.Bms.Discovery
import InverterBridge.Lib.TransitionSystem

open TransitionSystem
open inverter_bridge.config inverter_bridge.bms.discovery

namespace inverter_bridge.bms.service

/-! ## `start()`, the network thread and `stop()` -/

/-- Where the thread that calls `start()` and `stop()` is. -/
inductive Stage where
  | idle
  /-- In `start()`, before `loop_start()`. -/
  | connecting
  /-- In the wait for the first connection. -/
  | waiting
  /-- The wait returned `True`. -/
  | connected
  /-- `start()` has returned, with the poll thread started. -/
  | started
  /-- `start()` has returned at once: the service is not enabled. -/
  | disabled
  /-- `start()` has raised. -/
  | failed
  /-- `stop()` has published 'offline'. -/
  | stopping
  /-- `stop()` has returned. -/
  | stopped
deriving DecidableEq

/-- `start()` is over. -/
def Stage.over : Stage → Bool
  | .idle | .connecting | .waiting | .connected => false
  | _ => true

/-- `start()` has returned normally, with the poll thread started. -/
def Stage.running : Stage → Bool
  | .started | .stopping | .stopped => true
  | _ => false

/-- `loop_start()` was not reached, if `start()` raises nothing after it. -/
def Stage.off : Stage → Bool
  | .idle | .connecting | .disabled | .failed => true
  | _ => false

/-- What the service publishes on its topics, the states of the sensors apart. -/
inductive Publication where
  | discovery (message : Message)
  | online
  | offline
  | serial (topic payload : String)

/-- Where the network thread is; in `_handle_mqtt_connect` it still has to publish `rest`. -/
inductive Network where
  | off
  | looping
  | publishing (rest : List Publication)

/-- The network thread, the session with the broker, the event `_mqtt_connected`, and what was
published, each with the stage it was published in. -/
structure StartState where
  stage : Stage
  network : Network
  connected : Bool
  mqtt_connected : Bool
  published : List (Stage × Publication)

def StartState.init : StartState where
  stage := .idle
  network := .off
  connected := false
  mqtt_connected := false
  published := []

def StartState.publish (s : StartState) (publication : Publication) : StartState :=
  { s with published := s.published ++ [(s.stage, publication)] }

/-- What `_publish_discovery()` publishes, in order. -/
def publications (bms_cfg : BmsCfg) : List Publication :=
  (discovery_messages bms_cfg).map .discovery ++ [.online] ++
    (bms_cfg.pack_serials.zipIdx 1).map fun entry =>
      let topic := bms_cfg.mqtt_topic_prefix ++ s!"/bluesun_{pp entry.2}_serial/state"
      .serial topic entry.1

inductive StartAct where
  | start
  /-- Something before `loop_start()` raises. -/
  | connect_raises
  | loop_start
  | wait_returns
  | wait_times_out
  | thread_starts
  | thread_raises
  /-- `stop()` publishes 'offline', or its publication raises. -/
  | stop (raises : Bool)
  | loop_stop_returns
  /-- The broker answers with `rc == 0`. -/
  | accept
  /-- The broker answers with another `rc`. -/
  | refuse
  | handler_publishes
  /-- `_publish_discovery()` raises, and the handler logs it. -/
  | handler_raises
  | handler_returns
  | drop
deriving DecidableEq

def StartState.step (bms_cfg : BmsCfg) (s : StartState) : StartAct → Option StartState
  | .start =>
    if s.stage = .idle then
      some { s with stage := if bms_cfg.enabled then .connecting else .disabled }
    else none
  | .connect_raises => if s.stage = .connecting then some { s with stage := .failed } else none
  | .loop_start =>
    if s.stage = .connecting then some { s with stage := .waiting, network := .looping } else none
  | .wait_returns =>
    if s.stage = .waiting ∧ s.mqtt_connected = true then some { s with stage := .connected }
    else none
  | .wait_times_out =>
    if s.stage = .waiting ∧ s.mqtt_connected = false then some { s with stage := .failed }
    else none
  | .thread_starts => if s.stage = .connected then some { s with stage := .started } else none
  | .thread_raises => if s.stage = .connected then some { s with stage := .failed } else none
  | .stop raises =>
    match s.stage with
    | .started =>
      -- the loop is stopped in the `try` of the publication
      if raises then some { s with stage := .stopped }
      else some { s.publish .offline with stage := .stopping }
    | .disabled | .failed | .stopped => some s
    | _ => none
  | .loop_stop_returns =>
    match s.stage, s.network with
    | .stopping, .looping => some { s with stage := .stopped, network := .off, connected := false }
    | _, _ => none
  | .accept =>
    match s.network, s.connected with
    | .looping, false => some { s with connected := true, network := .publishing (publications bms_cfg) }
    | _, _ => none
  | .refuse =>
    match s.network, s.connected with
    | .looping, false => some s
    | _, _ => none
  | .handler_publishes =>
    match s.network with
    | .publishing (publication :: rest) => some { s.publish publication with network := .publishing rest }
    | _ => none
  | .handler_raises =>
    match s.network with
    | .publishing (_ :: _) => some { s with network := .looping, mqtt_connected := true }
    | _ => none
  | .handler_returns =>
    match s.network with
    | .publishing [] => some { s with network := .looping, mqtt_connected := true }
    | _ => none
  | .drop => if s.connected then some { s with connected := false } else none

/-- The steps, each with what allows it. -/
inductive StartState.Moves (bms_cfg : BmsCfg) (s : StartState) : StartAct → StartState → Prop where
  | start (hstage : s.stage = .idle) :
    s.Moves bms_cfg .start { s with stage := if bms_cfg.enabled then .connecting else .disabled }
  | connect_raises (hstage : s.stage = .connecting) :
    s.Moves bms_cfg .connect_raises { s with stage := .failed }
  | loop_start (hstage : s.stage = .connecting) :
    s.Moves bms_cfg .loop_start { s with stage := .waiting, network := .looping }
  | wait_returns (hstage : s.stage = .waiting) (hevent : s.mqtt_connected = true) :
    s.Moves bms_cfg .wait_returns { s with stage := .connected }
  | wait_times_out (hstage : s.stage = .waiting) (hevent : s.mqtt_connected = false) :
    s.Moves bms_cfg .wait_times_out { s with stage := .failed }
  | thread_starts (hstage : s.stage = .connected) :
    s.Moves bms_cfg .thread_starts { s with stage := .started }
  | thread_raises (hstage : s.stage = .connected) :
    s.Moves bms_cfg .thread_raises { s with stage := .failed }
  | stop_raises (hstage : s.stage = .started) :
    s.Moves bms_cfg (.stop true) { s with stage := .stopped }
  | stop (hstage : s.stage = .started) :
    s.Moves bms_cfg (.stop false) { s.publish .offline with stage := .stopping }
  | stop_again {raises : Bool} (hstage : s.stage = .disabled ∨ s.stage = .failed ∨ s.stage = .stopped) :
    s.Moves bms_cfg (.stop raises) s
  | loop_stop_returns (hstage : s.stage = .stopping) (hnetwork : s.network = .looping) :
    s.Moves bms_cfg .loop_stop_returns
      { s with stage := .stopped, network := .off, connected := false }
  | accept (hnetwork : s.network = .looping) (hdown : s.connected = false) :
    s.Moves bms_cfg .accept
      { s with connected := true, network := .publishing (publications bms_cfg) }
  | refuse : s.Moves bms_cfg .refuse s
  | handler_publishes {publication : Publication} {rest : List Publication}
    (hnetwork : s.network = .publishing (publication :: rest)) :
    s.Moves bms_cfg .handler_publishes { s.publish publication with network := .publishing rest }
  | handler_raises {publication : Publication} {rest : List Publication}
    (hnetwork : s.network = .publishing (publication :: rest)) :
    s.Moves bms_cfg .handler_raises { s with network := .looping, mqtt_connected := true }
  | handler_returns (hnetwork : s.network = .publishing []) :
    s.Moves bms_cfg .handler_returns { s with network := .looping, mqtt_connected := true }
  | drop (hup : s.connected = true) : s.Moves bms_cfg .drop { s with connected := false }

section

variable {bms_cfg : BmsCfg} {s s' : StartState} {act : StartAct} {acts : List StartAct}

theorem StartState.moves_of_step (hstep : s.step bms_cfg act = some s') : s.Moves bms_cfg act s' := by
  cases act with
  | start | connect_raises | loop_start | thread_starts | thread_raises | drop =>
    obtain ⟨hguard, hbody⟩ := Option.ite_none_right_eq_some.mp hstep
    rw [← Option.some.inj hbody]
    constructor
    exact hguard
  | wait_returns | wait_times_out =>
    obtain ⟨⟨hstage, hevent⟩, hbody⟩ := Option.ite_none_right_eq_some.mp hstep
    rw [← Option.some.inj hbody]
    constructor
    · exact hstage
    · exact hevent
  | stop raises =>
    cases hstage : s.stage with
    | started =>
      simp only [StartState.step, hstage] at hstep
      cases raises with
      | true => exact Option.some.inj hstep ▸ .stop_raises hstage
      | false => exact Option.some.inj hstep ▸ .stop hstage
    | disabled | failed | stopped =>
      simp only [StartState.step, hstage] at hstep
      exact Option.some.inj hstep ▸ .stop_again (by simp [hstage])
    | _ => simp [StartState.step, hstage] at hstep
  | loop_stop_returns | accept =>
    simp only [StartState.step] at hstep
    split at hstep
    case h_1 hfirst hsecond =>
      rw [← Option.some.inj hstep]
      constructor
      · exact hfirst
      · exact hsecond
    case h_2 => cases hstep
  | refuse =>
    simp only [StartState.step] at hstep
    split at hstep
    case h_1 => exact Option.some.inj hstep ▸ .refuse
    case h_2 => cases hstep
  | handler_publishes | handler_raises | handler_returns =>
    simp only [StartState.step] at hstep
    split at hstep
    case h_1 hnetwork =>
      rw [← Option.some.inj hstep]
      constructor
      exact hnetwork
    case h_2 => cases hstep

/-! ## What a failed start leaves -/

/-- 'online' only of a service that runs, and neither it nor discovery from a failed start on. -/
structure LeavesNothing (s : StartState) : Prop where
  online : ∀ stage, (stage, .online) ∈ s.published → s.stage.running = true
  silent : ∀ publication, (.failed, publication) ∈ s.published →
    publication ≠ .online ∧ ∀ message, publication ≠ .discovery message

/-- Without a network thread nothing was published, and a failed start has none. -/
structure Calm (s : StartState) : Prop where
  off : s.stage.off = true → s.network = .off ∧ s.published = []
  stamped : ∀ publication, (.failed, publication) ∉ s.published

theorem Calm.init : Calm StartState.init := ⟨fun _ => ⟨rfl, rfl⟩, fun _ => List.not_mem_nil⟩

theorem Calm.leavesNothing (h : Calm s) (hover : s.stage.over = true) : LeavesNothing s := by
  refine ⟨fun stage honline => ?_, fun publication hmem => absurd hmem (h.stamped publication)⟩
  cases hstage : s.stage with
  | started | stopping | stopped => rfl
  | idle | connecting | waiting | connected => simp [hstage, Stage.over] at hover
  | disabled | failed =>
    rw [(h.off (by rw [hstage]; rfl)).2] at honline
    cases honline

/-- A step of a network thread, whatever the main thread does. -/
theorem Calm.network_step (h : Calm s) (hnetwork : s.network ≠ .off) (hstage : s'.stage = s.stage)
    (hpublished : s'.published = s.published ∨
      ∃ publication, s'.published = s.published ++ [(s.stage, publication)]) : Calm s' := by
  have hup : s.stage.off ≠ true := fun hoff => hnetwork (h.off hoff).1
  refine ⟨fun hoff => absurd (hstage ▸ hoff) hup, fun publication hmem => ?_⟩
  obtain heq | ⟨last, heq⟩ := hpublished
  · exact h.stamped publication (heq ▸ hmem)
  · rw [heq, List.mem_append, List.mem_singleton] at hmem
    obtain hbefore | hlast := hmem
    · exact h.stamped publication hbefore
    · rw [(Prod.mk.inj hlast).1.symm] at hup
      exact hup rfl

theorem Calm.step (h : Calm s) (hmoves : s.Moves bms_cfg act s') (htimeout : act ≠ .wait_times_out)
    (hthread : act ≠ .thread_raises) : Calm s' := by
  cases hmoves with
  | wait_times_out => exact absurd rfl htimeout
  | thread_raises => exact absurd rfl hthread
  | start hstage | connect_raises hstage =>
    exact ⟨fun _ => h.off (by rw [hstage]; rfl), h.stamped⟩
  | loop_start | wait_returns | thread_starts | stop_raises | loop_stop_returns =>
    exact ⟨nofun, h.stamped⟩
  | stop hstage =>
    refine ⟨nofun, fun publication hmem => ?_⟩
    rw [StartState.publish, hstage, List.mem_append, List.mem_singleton] at hmem
    exact h.stamped publication (hmem.resolve_right nofun)
  | stop_again | refuse => exact h
  | drop => exact ⟨h.off, h.stamped⟩
  | accept hnetwork | handler_raises hnetwork | handler_returns hnetwork =>
    exact h.network_step (by rw [hnetwork]; nofun) rfl (.inl rfl)
  | handler_publishes hnetwork =>
    exact h.network_step (by rw [hnetwork]; nofun) rfl (.inr ⟨_, rfl⟩)

/-- When `start()` is over, it stays so, and none of its steps is taken any more. -/
theorem over_step (hover : s.stage.over = true) (hmoves : s.Moves bms_cfg act s') :
    s'.stage.over = true ∧ act ≠ .wait_times_out ∧ act ≠ .thread_raises := by
  cases hmoves with
  | start hstage | connect_raises hstage | loop_start hstage | wait_returns hstage
    | wait_times_out hstage | thread_starts hstage | thread_raises hstage =>
    rw [hstage] at hover
    cases hover
  | stop_raises | stop | loop_stop_returns => exact ⟨rfl, nofun, nofun⟩
  | stop_again | accept | refuse | handler_publishes | handler_raises | handler_returns | drop =>
    exact ⟨hover, nofun, nofun⟩

/-! ## What is left running after a late failure -/

/-- `start()` raised after `loop_start()`, or has gone that far. -/
structure LeftRunning (acts : List StartAct) (s : StartState) : Prop where
  waiting : s.stage = .waiting ∨ s.stage = .connected → s.network ≠ .off
  failed : .wait_times_out ∈ acts ∨ .thread_raises ∈ acts → s.stage = .failed ∧ s.network ≠ .off

/-- Only `stop()` ends the network thread. -/
theorem network_step (hmoves : s.Moves bms_cfg act s') (hstage : s.stage ≠ .stopping)
    (hnetwork : s.network ≠ .off) : s'.network ≠ .off := by
  cases hmoves with
  | loop_stop_returns hstopping => exact absurd hstopping hstage
  | loop_start | accept | handler_publishes | handler_raises | handler_returns => nofun
  | _ => exact hnetwork

/-- A start that has failed stays so. -/
theorem failed_step (hmoves : s.Moves bms_cfg act s') (hfailed : s.stage = .failed) :
    s'.stage = .failed := by
  cases hmoves with
  | connect_raises | wait_times_out | thread_raises => rfl
  | start hstage | loop_start hstage | wait_returns hstage | thread_starts hstage
    | stop_raises hstage | stop hstage | loop_stop_returns hstage =>
    rw [hfailed] at hstage
    cases hstage
  | _ => exact hfailed

theorem LeftRunning.waiting_step (h : LeftRunning acts s) (hmoves : s.Moves bms_cfg act s')
    (hwaiting : s'.stage = .waiting ∨ s'.stage = .connected) : s'.network ≠ .off := by
  cases hmoves with
  | start =>
    cases henabled : bms_cfg.enabled <;> simp [henabled] at hwaiting
  | connect_raises | wait_times_out | thread_starts | thread_raises | stop_raises | stop
    | loop_stop_returns => simp at hwaiting
  | wait_returns hstage => exact h.waiting (.inl hstage)
  | stop_again | refuse | drop => exact h.waiting hwaiting
  | loop_start | accept | handler_publishes | handler_raises | handler_returns => nofun

theorem LeftRunning.step (h : LeftRunning acts s) (hmoves : s.Moves bms_cfg act s') :
    LeftRunning (acts ++ [act]) s' := by
  refine ⟨h.waiting_step hmoves, fun hraised => ?_⟩
  by_cases hbefore : .wait_times_out ∈ acts ∨ .thread_raises ∈ acts
  · obtain ⟨hfailed, hnetwork⟩ := h.failed hbefore
    exact ⟨failed_step hmoves hfailed, network_step hmoves (by rw [hfailed]; decide) hnetwork⟩
  · rw [not_or] at hbefore
    simp only [List.mem_append, hbefore.1, hbefore.2, false_or, List.mem_singleton] at hraised
    obtain rfl | rfl := hraised
    · cases hmoves with
      | wait_times_out hstage => exact ⟨rfl, h.waiting (.inl hstage)⟩
    · cases hmoves with
      | thread_raises hstage => exact ⟨rfl, h.waiting (.inr hstage)⟩

/-- A handler gets to its end, whatever it still has to publish. -/
theorem drain (rest : List Publication) (hnetwork : s.network = .publishing rest) :
    ∃ later s', run (StartState.step bms_cfg) s later = some s' ∧ s'.stage = s.stage ∧
      s'.network = .looping := by
  induction rest generalizing s with
  | nil =>
    refine ⟨[.handler_returns], { s with network := .looping, mqtt_connected := true }, ?_, rfl, rfl⟩
    simp [StartState.step, hnetwork]
  | cons publication rest ih =>
    obtain ⟨later, s', hrun, hstage, hloops⟩ :=
      @ih { s.publish publication with network := .publishing rest } rfl
    refine ⟨.handler_publishes :: later, s', ?_, hstage, hloops⟩
    rw [run_cons]
    simpa [StartState.step, hnetwork] using hrun

/-- The first thing a handler publishes is a discovery message. -/
theorem publications_eq_cons (bms_cfg : BmsCfg) :
    ∃ message rest, publications bms_cfg = .discovery message :: rest :=
  ⟨_, _, rfl⟩

/-- Once the broker has no session, it may accept one. -/
theorem late_acceptance (hnetwork : s.network = .looping) (hdown : s.connected = false) :
    ∃ s' message, run (StartState.step bms_cfg) s [.accept, .handler_publishes] = some s' ∧
      (s.stage, .discovery message) ∈ s'.published := by
  obtain ⟨message, rest, hfirst⟩ := publications_eq_cons bms_cfg
  refine ⟨{ s.publish (.discovery message) with connected := true, network := .publishing rest },
    message, ?_, List.mem_append_right s.published (List.mem_singleton_self _)⟩
  simp [StartState.step, hnetwork, hdown, hfirst, StartState.publish]

/-- Whatever the network thread is doing, discovery may still be published. -/
theorem late_discovery (hnetwork : s.network ≠ .off) :
    ∃ later s' message, run (StartState.step bms_cfg) s later = some s' ∧
      (s.stage, .discovery message) ∈ s'.published := by
  obtain ⟨first, looping, hfirst, hstage, hloops⟩ : ∃ first looping,
      run (StartState.step bms_cfg) s first = some looping ∧ looping.stage = s.stage ∧
        looping.network = .looping := by
    cases hthread : s.network with
    | off => exact absurd hthread hnetwork
    | looping => exact ⟨[], s, rfl, rfl, hthread⟩
    | publishing rest => exact drain rest hthread
  cases hdown : looping.connected with
  | false =>
    obtain ⟨s', message, hrun, hmem⟩ := @late_acceptance bms_cfg looping hloops hdown
    refine ⟨first ++ [.accept, .handler_publishes], s', message, ?_, hstage ▸ hmem⟩
    rw [run_append_of_eq hfirst, hrun]
  | true =>
    obtain ⟨s', message, hrun, hmem⟩ :=
      @late_acceptance bms_cfg { looping with connected := false } hloops rfl
    refine ⟨first ++ [.drop, .accept, .handler_publishes], s', message, ?_, hstage ▸ hmem⟩
    rw [run_append_of_eq hfirst, run_cons, StartState.step, if_pos hdown, Option.bind_some, hrun]

/-- For every outcome of `start()`: it leaves nothing that ever announces the service, unless
the service runs, exactly if `start()` does not raise after `loop_start()`. -/
theorem failed_start_leaves_nothing_iff
    (hrun : run (StartState.step bms_cfg) StartState.init acts = some s)
    (hover : s.stage.over = true) :
    (∀ later s', run (StartState.step bms_cfg) s later = some s' → LeavesNothing s') ↔
      .wait_times_out ∉ acts ∧ .thread_raises ∉ acts := by
  have hleft : LeftRunning acts s :=
    run_preserves_history ⟨by simp [StartState.init], by simp⟩
      (fun _ _ _ _ _ h hstep => h.step (StartState.moves_of_step hstep)) hrun
  constructor
  · intro hquiet
    rw [← not_or]
    intro hraised
    obtain ⟨hfailed, hnetwork⟩ := hleft.failed hraised
    obtain ⟨later, s', message, hlater, hmem⟩ := @late_discovery bms_cfg s hnetwork
    rw [hfailed] at hmem
    exact ((hquiet later s' hlater).silent _ hmem).2 message rfl
  · rintro ⟨htimeout, hthread⟩ later s' hlater
    have hcalm : Calm s :=
      @run_preserves_along _ _ _ (fun _ act => act ≠ .wait_times_out ∧ act ≠ .thread_raises) _ _ _ Calm
        (fun _ _ _ h hok hstep => h.step (StartState.moves_of_step hstep) hok.1 hok.2)
        Calm.init (along_of_forall fun _ hact _ =>
          ⟨ne_of_mem_of_not_mem hact htimeout, ne_of_mem_of_not_mem hact hthread⟩) hrun
    have hend : Calm s' ∧ s'.stage.over = true :=
      run_preserves (I := fun s => Calm s ∧ s.stage.over = true)
        (fun _ _ _ h hstep =>
          have hmoves := StartState.moves_of_step hstep
          have hover := over_step h.2 hmoves
          ⟨h.1.step hmoves hover.2.1 hover.2.2, hover.1⟩) ⟨hcalm, hover⟩ hlater
    exact hend.1.leavesNothing hend.2

end

/-- The broker answers after the wait. -/
def late_answer : List StartAct :=
  [.start, .loop_start, .wait_times_out, .accept, .handler_publishes]

theorem late_answer_announces :
    ∃ s message, run (StartState.step { enabled := true }) StartState.init late_answer = some s ∧
      s.stage = .failed ∧ (.failed, .discovery message) ∈ s.published :=
  ⟨_, _, rfl, rfl, List.mem_singleton_self _⟩

/-- The broker refuses the TCP connection. -/
def early_failure : List StartAct := [.start, .connect_raises]

theorem early_failure_leaves_nothing :
    ∃ s, run (StartState.step { enabled := true }) StartState.init early_failure = some s ∧
      LeavesNothing s :=
  ⟨_, rfl, (@failed_start_leaves_nothing_iff { enabled := true } _ early_failure rfl rfl).mpr
    (by decide) [] _ rfl⟩

end inverter_bridge.bms.service
