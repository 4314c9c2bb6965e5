import InverterBridge.Lib.TransitionSystem

open TransitionSystem

namespace inverter_bridge.mqtt_publisher

/-! ## The session, between two threads and the broker -/

inductive Availability where
  | online
  | offline
deriving DecidableEq

/-- Where the main thread is. -/
inductive MainThread where
  /-- `connect()` has not returned. -/
  | starting
  | serving
  /-- `disconnect()` has tried to publish 'offline', and waits in `loop_stop()`. -/
  | stopping (raised : Bool)
  /-- `loop_stop()` has returned. -/
  | stopped (raised : Bool)
  /-- `disconnect()` has returned, or raised what its publication raised. -/
  | finished (raised : Bool)
deriving DecidableEq

/-- `disconnect()` has not begun. -/
def MainThread.up : MainThread → Bool
  | .starting | .serving => true
  | _ => false

/-- `disconnect()` has published 'offline'. -/
def MainThread.told : MainThread → Bool
  | .stopping raised | .stopped raised | .finished raised => !raised
  | _ => false

/-- There is no network thread. -/
def MainThread.joined : MainThread → Bool
  | .starting | .stopped _ | .finished _ => true
  | _ => false

/-- Where the network thread of the client is. -/
inductive NetworkThread where
  /-- Not started, or joined by `loop_stop()`. -/
  | off
  | looping
  /-- In `_handle_connect` with `rc == 0`, before `publish_discovery()` is done. -/
  | handling
  /-- In `_handle_connect`, before `set_online()`. -/
  | discovered
deriving DecidableEq

/-- The threads, the session and the retained availability at the broker, and all that the
client has published as its availability. -/
structure Session where
  main : MainThread
  network : NetworkThread
  connected : Bool
  retained : Option Availability
  published : List Availability

/-- Before the daemon connects. -/
def Session.start : Session where
  main := .starting
  network := .off
  connected := false
  retained := none
  published := []

inductive SessionAct where
  /-- `connect()`: the will is set and the network thread started. -/
  | connect
  /-- The broker answers with `rc == 0`. -/
  | accept
  /-- The broker answers with another `rc`. -/
  | refuse
  /-- `publish_discovery()` of the handler is done. -/
  | handler_discovery
  /-- `set_online()` of the handler; the handler returns. -/
  | handler_set_online
  /-- The handler logs an exception. -/
  | handler_raises
  /-- The connection is lost: the broker publishes the will. -/
  | drop
  /-- `set_online()` of `Daemon.start` or of a hot cycle. -/
  | set_online
  /-- `disconnect()` publishes 'offline', or its publication raises. -/
  | disconnect (raises : Bool)
  | loop_stop_returns
  /-- `self._client.disconnect()`: the will is not published. -/
  | client_disconnect
deriving DecidableEq

/-- A publication takes effect when it is called. -/
def Session.publish (s : Session) (value : Availability) : Session :=
  { s with retained := some value, published := s.published ++ [value] }

def Session.step (s : Session) : SessionAct → Option Session
  | .connect =>
    if s.main = .starting then some { s with main := .serving, network := .looping } else none
  | .accept =>
    if s.network = .looping ∧ s.connected = false then
      some { s with connected := true, network := .handling }
    else none
  | .refuse => if s.network = .looping ∧ s.connected = false then some s else none
  | .handler_discovery =>
    if s.network = .handling then some { s with network := .discovered } else none
  | .handler_set_online =>
    if s.network = .discovered then some { s.publish .online with network := .looping } else none
  | .handler_raises =>
    if s.network = .handling ∨ s.network = .discovered then some { s with network := .looping }
    else none
  | .drop =>
    if s.connected then some { s with connected := false, retained := some .offline } else none
  | .set_online => if s.main = .serving then some (s.publish .online) else none
  | .disconnect raises =>
    if s.main = .serving then
      if raises then some { s with main := .stopping true }
      else some { s.publish .offline with main := .stopping false }
    else none
  | .loop_stop_returns =>
    match s.main with
    | .stopping raised =>
      -- the thread is joined between two callbacks
      if s.network = .looping then some { s with main := .stopped raised, network := .off }
      else none
    | _ => none
  | .client_disconnect =>
    match s.main with
    | .stopped raised => some { s with main := .finished raised, connected := false }
    | _ => none

/-- The steps, each with what allows it. -/
inductive Session.Moves (s : Session) : SessionAct → Session → Prop where
  | connect (hmain : s.main = .starting) :
    s.Moves .connect { s with main := .serving, network := .looping }
  | accept (hnetwork : s.network = .looping) (hdown : s.connected = false) :
    s.Moves .accept { s with connected := true, network := .handling }
  | refuse : s.Moves .refuse s
  | handler_discovery (hnetwork : s.network = .handling) :
    s.Moves .handler_discovery { s with network := .discovered }
  | handler_set_online (hnetwork : s.network = .discovered) :
    s.Moves .handler_set_online { s.publish .online with network := .looping }
  | handler_raises (hnetwork : s.network = .handling ∨ s.network = .discovered) :
    s.Moves .handler_raises { s with network := .looping }
  | drop (hup : s.connected = true) :
    s.Moves .drop { s with connected := false, retained := some .offline }
  | set_online (hmain : s.main = .serving) : s.Moves .set_online (s.publish .online)
  | publication_raises (hmain : s.main = .serving) :
    s.Moves (.disconnect true) { s with main := .stopping true }
  | disconnect (hmain : s.main = .serving) :
    s.Moves (.disconnect false) { s.publish .offline with main := .stopping false }
  | loop_stop_returns {raised : Bool} (hmain : s.main = .stopping raised)
    (hnetwork : s.network = .looping) :
    s.Moves .loop_stop_returns { s with main := .stopped raised, network := .off }
  | client_disconnect {raised : Bool} (hmain : s.main = .stopped raised) :
    s.Moves .client_disconnect { s with main := .finished raised, connected := false }

section

variable {s s' : Session} {act : SessionAct} {acts : List SessionAct}

theorem Session.moves_of_step (hstep : s.step act = some s') : s.Moves act s' := by
  cases act with
  | disconnect raises =>
    obtain ⟨hmain, hbody⟩ := Option.ite_none_right_eq_some.mp hstep
    cases raises with
    | true => exact Option.some.inj hbody ▸ .publication_raises hmain
    | false => exact Option.some.inj hbody ▸ .disconnect hmain
  | loop_stop_returns =>
    cases hmain : s.main with
    | stopping raised =>
      simp only [Session.step, hmain] at hstep
      obtain ⟨hnetwork, hbody⟩ := Option.ite_none_right_eq_some.mp hstep
      exact Option.some.inj hbody ▸ .loop_stop_returns hmain hnetwork
    | _ => simp [Session.step, hmain] at hstep
  | client_disconnect =>
    cases hmain : s.main with
    | stopped raised =>
      simp only [Session.step, hmain] at hstep
      exact Option.some.inj hstep ▸ .client_disconnect hmain
    | _ => simp [Session.step, hmain] at hstep
  | refuse =>
    obtain ⟨-, hbody⟩ := Option.ite_none_right_eq_some.mp hstep
    exact Option.some.inj hbody ▸ .refuse
  | accept =>
    obtain ⟨⟨hnetwork, hdown⟩, hbody⟩ := Option.ite_none_right_eq_some.mp hstep
    exact Option.some.inj hbody ▸ .accept hnetwork hdown
  | connect | handler_discovery | handler_set_online | handler_raises | drop | set_online =>
    obtain ⟨hguard, hbody⟩ := Option.ite_none_right_eq_some.mp hstep
    rw [← Option.some.inj hbody]
    constructor
    exact hguard

/-! ## What holds of every run -/

/-- A successful handler has returned, and since then there was no drop and no `disconnect()`. -/
def settled (acts : List SessionAct) : Bool :=
  acts.foldl (fun settled act =>
    match act with
    | .handler_set_online => true
    | .drop | .disconnect _ => false
    | _ => settled) false

/-- A handler reaches `set_online()` while `disconnect()` waits for the thread. -/
def Overtakes (s : Session) (act : SessionAct) : Prop :=
  act = .handler_set_online ∧ ∃ raised, s.main = .stopping raised

/-- The run so far has such a handler. -/
def Overtaken (acts : List SessionAct) : Prop :=
  Occurred Session.step Session.start acts Overtakes

theorem settled_append (acts : List SessionAct) (act : SessionAct) :
    settled (acts ++ [act]) =
      match act with
      | .handler_set_online => true
      | .drop | .disconnect _ => false
      | _ => settled acts := by
  rw [settled, List.foldl_append]
  rfl

/-- The retained value of a settled session stays 'online'. -/
theorem retained_step (hmoves : s.Moves act s')
    (h : settled acts = true → s.retained = some .online) :
    settled (acts ++ [act]) = true → s'.retained = some .online := by
  rw [settled_append]
  intro hsettled
  cases hmoves with
  | handler_set_online | set_online => rfl
  | drop | publication_raises | disconnect => cases hsettled
  | connect | accept | refuse | handler_discovery | handler_raises | loop_stop_returns
    | client_disconnect => exact h hsettled

/-- The network thread runs from `connect()` to the return of `loop_stop()`. -/
theorem off_step (hmoves : s.Moves act s') (h : s.main.joined = true → s.network = .off) :
    s'.main.joined = true → s'.network = .off := by
  intro hjoined
  cases hmoves with
  | connect | publication_raises | disconnect => cases hjoined
  | refuse | drop | set_online => exact h hjoined
  | loop_stop_returns => rfl
  | client_disconnect hmain => exact h (by rw [hmain]; rfl)
  | accept hnetwork | handler_discovery hnetwork | handler_set_online hnetwork =>
    rw [h hjoined] at hnetwork
    cases hnetwork
  | handler_raises hnetwork =>
    rw [h hjoined] at hnetwork
    simp at hnetwork

theorem overtaken_append (hrun : run Session.step Session.start acts = some s) :
    Overtaken (acts ++ [act]) ↔ Overtaken acts ∨ Overtakes s act :=
  occurred_append_singleton_iff hrun

theorem overtaken_append_of_ne (hrun : run Session.step Session.start acts = some s)
    (hne : act ≠ .handler_set_online) : Overtaken (acts ++ [act]) ↔ Overtaken acts := by
  rw [overtaken_append hrun, or_iff_left fun h => hne h.1]

/-- What was published last, by where the main thread is. -/
structure Told (acts : List SessionAct) (s : Session) : Prop where
  off : s.main.joined = true → s.network = .off
  up : s.main.up = true → ¬ Overtaken acts
  last : s.main.told = true → (s.published.getLast? = some .offline ↔ ¬ Overtaken acts)

/-- A step that publishes nothing and leaves `disconnect()` where it is. -/
theorem Told.same (hrun : run Session.step Session.start acts = some s) (h : Told acts s)
    (hne : act ≠ .handler_set_online) (hoff : s'.main.joined = true → s'.network = .off)
    (hup : s'.main.up = s.main.up) (htold : s'.main.told = s.main.told)
    (hpublished : s'.published = s.published) : Told (acts ++ [act]) s' where
  off := hoff
  up hserving := by
    rw [overtaken_append_of_ne hrun hne]
    exact h.up (hup ▸ hserving)
  last hdone := by
    rw [overtaken_append_of_ne hrun hne, hpublished]
    exact h.last (htold ▸ hdone)

theorem Told.step (hrun : run Session.step Session.start acts = some s) (h : Told acts s)
    (hmoves : s.Moves act s') : Told (acts ++ [act]) s' := by
  have hoff := off_step hmoves h.off
  cases hmoves with
  | connect hmain => exact h.same hrun nofun hoff (by rw [hmain]; rfl) (by rw [hmain]; rfl) rfl
  | accept | refuse | handler_discovery | handler_raises | drop =>
    exact h.same hrun nofun hoff rfl rfl rfl
  | loop_stop_returns hmain | client_disconnect hmain =>
    exact h.same hrun nofun hoff (by rw [hmain]; rfl) (by rw [hmain]; rfl) rfl
  | set_online hmain =>
    refine ⟨hoff, fun hup => ?_, fun htold => ?_⟩
    · rw [overtaken_append_of_ne hrun (show SessionAct.set_online ≠ _ by decide)]
      exact h.up hup
    · rw [Session.publish, hmain] at htold
      cases htold
  | publication_raises => exact ⟨hoff, nofun, nofun⟩
  | disconnect hmain =>
    refine ⟨hoff, nofun, fun _ => ?_⟩
    rw [overtaken_append_of_ne hrun (show SessionAct.disconnect false ≠ _ by decide)]
    exact iff_of_true List.getLast?_concat (h.up (by rw [hmain]; rfl))
  | handler_set_online hnetwork =>
    have hovertakes : Overtakes s .handler_set_online ↔ ∃ raised, s.main = .stopping raised :=
      and_iff_right rfl
    refine ⟨hoff, fun hup => ?_, fun htold => ?_⟩
    · rw [overtaken_append hrun, hovertakes, not_or]
      refine ⟨h.up hup, ?_⟩
      rintro ⟨raised, hmain⟩
      rw [Session.publish, hmain] at hup
      cases hup
    · have hlast : (s.published ++ [Availability.online]).getLast? ≠ some .offline := by
        rw [List.getLast?_concat]
        decide
      refine iff_of_false hlast (not_not.mpr ?_)
      rw [overtaken_append hrun, hovertakes]
      right
      cases hmain : s.main with
      | stopping raised => exact ⟨raised, rfl⟩
      | stopped raised | finished raised =>
        rw [h.off (by rw [hmain]; rfl)] at hnetwork
        cases hnetwork
      | starting | serving =>
        rw [Session.publish, hmain] at htold
        cases htold

/-- In every run: once a successful handler has returned, the retained value is 'online' up to
the next drop or `disconnect()`; and when `disconnect()` has returned, the value published
last is 'offline' exactly if no handler reached `set_online()` while it waited for the
network thread. -/
theorem availability_follows_session (hrun : run Session.step Session.start acts = some s) :
    (settled acts = true → s.retained = some .online) ∧
      (s.main = .finished false →
        (s.published.getLast? = some .offline ↔ ¬ Overtaken acts)) := by
  have hretained : settled acts = true → s.retained = some .online :=
    run_preserves_history (I := fun acts s => settled acts = true → s.retained = some .online)
      (fun hsettled => absurd hsettled (by decide))
      (fun _ _ _ _ _ h hstep => retained_step (Session.moves_of_step hstep) h) hrun
  have htold : Told acts s :=
    run_preserves_history
      ⟨fun _ => rfl, fun _ => not_occurred_nil, fun htold => absurd htold (by decide)⟩
      (fun _ _ _ _ hrun h hstep => h.step hrun (Session.moves_of_step hstep)) hrun
  exact ⟨hretained, fun hmain => htold.last (by rw [hmain]; rfl)⟩

end

/-- A shutdown with no reconnection under way. -/
def quiet_shutdown : List SessionAct :=
  [.connect, .accept, .handler_discovery, .handler_set_online, .set_online, .disconnect false,
    .loop_stop_returns, .client_disconnect]

theorem quiet_shutdown_told :
    ∃ s, run Session.step Session.start quiet_shutdown = some s ∧ s.main = .finished false ∧
      s.published.getLast? = some .offline ∧ ¬ Overtaken quiet_shutdown :=
  ⟨_, rfl, rfl, rfl, ((availability_follows_session rfl).2 rfl).mp rfl⟩

/-- A reconnection is handled while `disconnect()` waits for the network thread. -/
def late_handler : List SessionAct :=
  [.connect, .accept, .handler_discovery, .handler_set_online, .drop, .accept, .handler_discovery,
    .disconnect false, .handler_set_online, .loop_stop_returns, .client_disconnect]

theorem late_handler_leaves_online :
    ∃ s, run Session.step Session.start late_handler = some s ∧ s.main = .finished false ∧
      s.published.getLast? = some .online ∧ s.retained = some .online :=
  ⟨_, rfl, rfl, rfl, rfl⟩

end inverter_bridge.mqtt_publisher
