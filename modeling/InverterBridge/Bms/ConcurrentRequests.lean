import InverterBridge.Bms.BleClient
import InverterBridge.Lib.TransitionSystem
import Mathlib.Logic.Function.Basic

open Python TransitionSystem
open inverter_bridge.crc inverter_bridge.bms.octopus_protocol

namespace inverter_bridge.bms.ble_client

/-- What a call of `_request` waits for. -/
structure Request where
  slave : UInt8
  expected_byte_count : UInt8

/-- The exception that ends a call: one of its own, or its task was cancelled. -/
inductive RequestError where
  | failed (error : PollError)
  | CancelledError
  deriving DecidableEq

/-- Where a call of `_request` stands between two awaits. In `getting`, the task is ready to
be resumed when the attempt has just begun or its getter was woken. -/
inductive Phase where
  | idle
  | queued
  | writing
  | getting (attempt : Nat) (ready : Bool)
  | returned (response : Bytes)
  | raised (error : RequestError)
  deriving DecidableEq

/-- The call is inside `async with self._tx_lock`. -/
def Phase.in_lock : Phase → Bool
  | .writing | .getting .. => true
  | _ => false

/-- The attempt is the last one. -/
def Phase.last_attempt : Phase → Bool
  | .getting attempt _ => ¬ attempt + 1 < 3
  | _ => false

/-- The call did not take the lock yet. -/
def Phase.before_lock : Phase → Bool
  | .idle | .queued => true
  | _ => false

/-- A notified frame, with its number and the call that held `_tx_lock` at that time. -/
structure Notification (κ : Type) where
  number : Nat
  frame : Bytes
  holder : Option κ
  deriving DecidableEq

/-- A frame taken out of the queue: by which call, and who held `_tx_lock`. -/
structure Removal (κ : Type) where
  notification : Notification κ
  by_call : κ
  holder : Option κ
  deriving DecidableEq

/-- The client with any number of calls of `_request`; `waiters` are the calls that wait for
`_tx_lock`. What was notified and removed is kept as history. -/
structure Client (κ : Type) where
  phase : κ → Phase
  notify_q : List (Notification κ)
  tx_lock : Option κ
  waiters : List κ
  notified : List (Notification κ)
  removed : List (Removal κ)

/-- The event loop resumes a call up to its next await, or runs the callback of bleak. -/
inductive Action (κ : Type) where
  | start (call : κ) (is_connected : Bool)
  | acquire (call : κ)
  | written (call : κ)
  | write_fails (call : κ) (message : String)
  | notify (frame : Bytes)
  | get (call : κ)
  | times_out (call : κ)
  | cancel (call : κ)

namespace Client

variable {κ : Type} [DecidableEq κ]

/-- The client of `__init__`, before any call. -/
def init : Client κ where
  phase _ := .idle
  notify_q := []
  tx_lock := none
  waiters := []
  notified := []
  removed := []

def set_phase (c : Client κ) (call : κ) (phase : Phase) : Client κ :=
  { c with phase := Function.update c.phase call phase }

/-- The call takes frames out of the queue and leaves `rest`. -/
def take (c : Client κ) (call : κ) (taken rest : List (Notification κ)) : Client κ :=
  { c with
    notify_q := rest
    removed := c.removed ++ taken.map fun e => ⟨e, call, c.tx_lock⟩ }

/-- The loop that throws away the stale frames. -/
def drain (c : Client κ) (call : κ) : Client κ := c.take call c.notify_q []

/-- The call holds `_tx_lock` and writes its frame. -/
def lock (c : Client κ) (call : κ) : Client κ :=
  { c.set_phase call .writing with tx_lock := some call }

/-- The call leaves `async with self._tx_lock`. -/
def release (c : Client κ) (call : κ) (phase : Phase) : Client κ :=
  { c.set_phase call phase with tx_lock := none }

/-- A getter that waits is woken; it takes the frame when it is resumed. -/
def woken : Phase → Phase
  | .getting attempt _ => .getting attempt true
  | phase => phase

/-- `put_nowait` on a queue without a bound: only the holder of `_tx_lock` can have a getter
in it. -/
def on_notify (c : Client κ) (frame : Bytes) : Client κ :=
  let e : Notification κ := ⟨c.notified.length, frame, c.tx_lock⟩
  { c with
    notify_q := c.notify_q ++ [e]
    notified := c.notified ++ [e]
    phase := fun call => woken (c.phase call) }

/-- Up to the lock: the check, the drain and `acquire`, which succeeds at once when the lock
is free and nobody waits for it. -/
def start (c : Client κ) (call : κ) (is_connected : Bool) : Client κ :=
  if ¬ is_connected then c.set_phase call (.raised (.failed (.BleakError "not connected")))
  else if c.tx_lock = none ∧ c.waiters = [] then (c.drain call).lock call
  else { (c.drain call).set_phase call .queued with waiters := c.waiters ++ [call] }

/-- The getter of an attempt is resumed: it goes on waiting on an empty queue, and otherwise
takes one frame, which is the response or uses up the attempt. -/
def get (c : Client κ) (request : Request) (call : κ) (attempt : Nat) : Client κ :=
  match c.notify_q with
  | [] => c.set_phase call (.getting attempt false)
  | e :: rest =>
    let c := c.take call [e] rest
    if header_matches request.slave request.expected_byte_count e.frame then
      c.release call (.returned e.frame)
    else if attempt + 1 < 3 then c.set_phase call (.getting (attempt + 1) true)
    else c.release call (.raised (.failed (.TimeoutError
      s!"3 frames spurios consecutivos sin response valido slave={request.slave.toNat}")))

/-- One step of the event loop, where it is enabled. -/
def step (requests : κ → Request) (c : Client κ) : Action κ → Option (Client κ)
  | .start call is_connected =>
    if c.phase call = .idle then some (c.start call is_connected) else none
  | .acquire call =>
    if c.tx_lock = none ∧ c.phase call = .queued ∧ c.waiters.head? = some call then
      some { c.lock call with waiters := c.waiters.tail }
    else none
  | .written call =>
    if c.phase call = .writing then some (c.set_phase call (.getting 0 true)) else none
  | .write_fails call message =>
    if c.phase call = .writing then
      some (c.release call (.raised (.failed (.BleakError message))))
    else none
  | .notify frame => some (c.on_notify frame)
  | .get call =>
    match c.phase call with
    | .getting attempt true => some (c.get (requests call) call attempt)
    | _ => none
  | .times_out call =>
    match c.phase call with
    | .getting .. => some (c.release call (.raised (.failed (.TimeoutError ""))))
    | _ => none
  | .cancel call =>
    match c.phase call with
    | .queued =>
      some { c.set_phase call (.raised .CancelledError) with waiters := c.waiters.erase call }
    | .writing | .getting .. => some (c.release call (.raised .CancelledError))
    | _ => none

/-! ## A call alone -/

section

variable {requests : κ → Request} {c : Client κ} {call k : κ} {phase : Phase}

theorem set_phase_phase :
    (c.set_phase call phase).phase k = if k = call then phase else c.phase k := by
  simp only [set_phase, Function.update_apply]

/-- The frames in the queue. -/
def frames (c : Client κ) : List Bytes := c.notify_q.map Notification.frame

/-- Where a call stands that ended with the given result. -/
def ended : Except PollError Bytes → Phase
  | .ok response => .returned response
  | .error e => .raised (.failed e)

/-- Where a call stands after its first attempts were used up. -/
def attempting (request : Request) (attempt : Nat) : Phase :=
  if attempt < 3 then .getting attempt true
  else .raised (.failed (.TimeoutError
    s!"3 frames spurios consecutivos sin response valido slave={request.slave.toNat}"))

/-- The run leads to the given result of the call and leaves the given queue. -/
def Ends (requests : κ → Request) (c : Client κ) (call : κ)
    (result : Except PollError Bytes × List Bytes) : Prop :=
  ∃ actions c', run (step requests) c actions = some c' ∧ c'.phase call = ended result.1 ∧
    c'.frames = result.2

theorem Ends.after {c' : Client κ} {actions : List (Action κ)}
    {result : Except PollError Bytes × List Bytes}
    (hrun : run (step requests) c actions = some c') (h : Ends requests c' call result) :
    Ends requests c call result := by
  obtain ⟨rest, c'', hrest, hphase, hframes⟩ := h
  exact ⟨actions ++ rest, c'', by rw [run_append_of_eq hrun, hrest], hphase, hframes⟩

/-- The frames are put into the queue one after the other. -/
theorem run_notify (hawake : woken (c.phase call) = c.phase call) (arrivals : List Bytes) :
    ∃ c', run (step requests) c (arrivals.map .notify) = some c' ∧
      c'.frames = c.frames ++ arrivals ∧ c'.phase call = c.phase call := by
  induction arrivals generalizing c with
  | nil => exact ⟨c, rfl, (List.append_nil _).symm, rfl⟩
  | cons frame arrivals ih =>
    have hphase : (c.on_notify frame).phase call = c.phase call := hawake
    obtain ⟨c', hrun, hframes, hphase'⟩ := ih (c := c.on_notify frame) (by rw [hphase, hawake])
    refine ⟨c', hrun, ?_, hphase'.trans hphase⟩
    rw [hframes]
    simp [frames, on_notify]

theorem ends_times_out {attempt : Nat} {ready : Bool}
    (hphase : c.phase call = .getting attempt ready) :
    Ends requests c call (.error (.TimeoutError ""), c.frames) := by
  refine ⟨[.times_out call], c.release call (.raised (.failed (.TimeoutError ""))), ?_, ?_, rfl⟩
  · simp [step, hphase]
  · simp [release, set_phase_phase, ended]

/-- What an attempt makes of the frames that are there in the end. -/
theorem ends_get {result : Bytes → List Bytes → Except PollError Bytes × List Bytes}
    {attempt : Nat} (hphase : c.phase call = .getting attempt true)
    (hmatch : ∀ response rest, c.frames = response :: rest →
      header_matches (requests call).slave (requests call).expected_byte_count response = true →
      result response rest = (.ok response, rest))
    (hnext : ∀ c' response rest, c.frames = response :: rest →
      ¬ header_matches (requests call).slave (requests call).expected_byte_count response = true →
      c'.phase call = attempting (requests call) (attempt + 1) → c'.frames = rest →
      Ends requests c' call (result response rest)) :
    Ends requests c call
      (match c.frames with
      | [] => (.error (.TimeoutError ""), [])
      | response :: rest => result response rest) := by
  have hget : run (step requests) c [.get call] = some (c.get (requests call) call attempt) := by
    simp [step, hphase]
  refine Ends.after hget ?_
  unfold Client.get
  cases hq : c.notify_q with
  | nil =>
    have hframes : c.frames = [] := by rw [frames, hq, List.map_nil]
    have hphase' : (c.set_phase call (.getting attempt false)).phase call =
        .getting attempt false := by rw [set_phase_phase, if_pos rfl]
    have hend := @ends_times_out κ _ requests _ _ _ _ hphase'
    rw [show (c.set_phase call (.getting attempt false)).frames = [] from hframes] at hend
    rw [hframes]
    exact hend
  | cons e rest =>
    have hframes : c.frames = e.frame :: rest.map Notification.frame := by
      rw [frames, hq, List.map_cons]
    rw [hframes]
    dsimp only
    split_ifs with hresponse hattempt
    · rw [hmatch _ _ hframes hresponse]
      exact ⟨[], _, rfl, by simp [release, set_phase_phase, ended], rfl⟩
    · refine hnext _ _ _ hframes hresponse ?_ rfl
      rw [set_phase_phase, if_pos rfl, attempting, if_pos hattempt]
    · refine hnext _ _ _ hframes hresponse ?_ rfl
      rw [release, attempting, if_neg hattempt]
      exact set_phase_phase.trans (if_pos rfl)

/-- The loop over the attempts, from any of them on. -/
theorem ends_await_response (during : Exchange) {attempt n : Nat} (hn : attempt + n = 3)
    (hphase : c.phase call = attempting (requests call) attempt) :
    Ends requests c call (await_response during (requests call).slave
      (requests call).expected_byte_count c.frames (List.range' attempt n)) := by
  induction n generalizing c attempt with
  | zero =>
    refine ⟨[], c, rfl, hphase.trans ?_, rfl⟩
    rw [attempting, if_neg (by omega)]
    rfl
  | succ n ih =>
    rw [attempting, if_pos (by omega)] at hphase
    obtain ⟨c', hnotify, hframes, hphase'⟩ :=
      @run_notify κ _ requests c call (by rw [hphase]; rfl) (during.arrivals attempt)
    rw [hphase] at hphase'
    refine Ends.after hnotify ?_
    rw [List.range'_succ, await_response, Exchange.get, ← hframes]
    cases hlate : during.times_out attempt with
    | true => exact ends_times_out hphase'
    | false =>
      have hget := @ends_get κ _ requests c' call (fun response rest =>
        if header_matches (requests call).slave (requests call).expected_byte_count response then
          (.ok response, rest)
        else await_response during (requests call).slave (requests call).expected_byte_count rest
          (List.range' (attempt + 1) n)) attempt hphase'
      refine Eq.mp (congrArg (Ends requests c' call) ?_) (hget ?_ ?_)
      · cases c'.frames <;> rfl
      · intro response rest _ hresponse
        exact if_pos hresponse
      · intro c'' response rest _ hresponse hphase'' hframes''
        rw [if_neg hresponse, ← hframes'']
        exact ih (by omega) hphase''

/-- A call that is not disturbed by others ends as `_request` does, and leaves its queue. -/
theorem ends_request (during : Exchange) (is_connected : Bool) (hphase : c.phase call = .idle)
    (hfree : c.tx_lock = none) (hwaiters : c.waiters = []) :
    Ends requests c call (OctopusBleClient.request ⟨is_connected, c.frames⟩ during
      (requests call).slave (requests call).expected_byte_count) := by
  have hstart : run (step requests) c [.start call is_connected] =
      some (c.start call is_connected) := by
    simp [step, hphase]
  refine Ends.after hstart ?_
  unfold Client.start OctopusBleClient.request
  cases is_connected with
  | false =>
    rw [if_pos Bool.false_ne_true, if_pos Bool.false_ne_true]
    exact ⟨[], _, rfl, by simp [set_phase_phase, ended], rfl⟩
  | true =>
    rw [if_neg (not_not.mpr rfl), if_neg (not_not.mpr rfl), if_pos ⟨hfree, hwaiters⟩]
    have hwriting : ((c.drain call).lock call).phase call = .writing :=
      set_phase_phase.trans (if_pos rfl)
    obtain ⟨c', hnotify, hframes, hphase'⟩ :=
      @run_notify κ _ requests _ call (by rw [hwriting]; rfl) during.before_wait
    rw [hwriting] at hphase'
    replace hframes : c'.frames = during.before_wait := hframes
    refine Ends.after hnotify ?_
    cases during.write_error with
    | some message =>
      refine ⟨[.write_fails call message],
        c'.release call (.raised (.failed (.BleakError message))), ?_, ?_, hframes⟩
      · simp [step, hphase']
      · simp [release, set_phase_phase, ended]
    | none =>
      have hwritten : run (step requests) c' [.written call] =
          some (c'.set_phase call (.getting 0 true)) := by
        simp [step, hphase']
      refine Ends.after hwritten ?_
      have hawait := @ends_await_response κ _ requests (c'.set_phase call (.getting 0 true)) call
        during 0 3 rfl (set_phase_phase.trans (if_pos rfl))
      rw [show (c'.set_phase call (.getting 0 true)).frames = during.before_wait from hframes]
        at hawait
      rw [List.range_eq_range']
      exact hawait

end

/-- A matching response of the call, notified while it held `_tx_lock`. -/
def Owned (requests : κ → Request) (call : κ) (e : Notification κ) : Prop :=
  e.holder = some call ∧
    header_matches (requests call).slave (requests call).expected_byte_count e.frame = true

instance (requests : κ → Request) (call : κ) (e : Notification κ) :
    Decidable (Owned requests call e) :=
  inferInstanceAs (Decidable (_ ∧ _))

/-- The responses of a call: while it holds `_tx_lock` they are still in the queue, and one
that was taken out was delivered, or the call does not hold the lock any more. -/
structure NotStolen (requests : κ → Request) (c : Client κ) : Prop where
  in_queue : ∀ call, c.tx_lock = some call → ∀ e ∈ c.notified, Owned requests call e →
    e ∈ c.notify_q
  delivered : ∀ r ∈ c.removed, ∀ call, Owned requests call r.notification →
    r.by_call = call ∧ c.phase call = .returned r.notification.frame ∨
      r.by_call ≠ call ∧ r.holder ≠ some call

/-- A call that starts finds no response of the holder of the lock in the queue. -/
def DrainsNoResponse (requests : κ → Request) (c : Client κ) : Action κ → Prop
  | .start _ true => ∀ holder ∈ c.tx_lock, ∀ e ∈ c.notify_q, ¬ Owned requests holder e
  | _ => True

instance (requests : κ → Request) (c : Client κ) :
    (action : Action κ) → Decidable (DrainsNoResponse requests c action)
  | .start _ true =>
    inferInstanceAs (Decidable (∀ holder ∈ c.tx_lock, ∀ e ∈ c.notify_q, ¬ Owned requests holder e))
  | .start _ false | .acquire _ | .written _ | .write_fails .. | .notify _ | .get _ | .times_out _
  | .cancel _ => isTrue trivial

/-- A call that ends leaves no response of its own in the queue: no second one behind the one
it takes, and none when it fails. -/
def LeavesNoResponse (requests : κ → Request) (c : Client κ) : Action κ → Prop
  | .get call => ∀ e ∈ c.notify_q.head?,
      header_matches (requests call).slave (requests call).expected_byte_count e.frame = true ∨
        (c.phase call).last_attempt = true →
      ∀ e' ∈ c.notify_q.tail, ¬ Owned requests call e'
  | .write_fails call _ | .times_out call | .cancel call =>
    ∀ e ∈ c.notify_q, ¬ Owned requests call e
  | _ => True

instance (requests : κ → Request) (c : Client κ) :
    (action : Action κ) → Decidable (LeavesNoResponse requests c action)
  | .get call =>
    inferInstanceAs (Decidable (∀ e ∈ c.notify_q.head?,
      header_matches (requests call).slave (requests call).expected_byte_count e.frame = true ∨
        (c.phase call).last_attempt = true →
      ∀ e' ∈ c.notify_q.tail, ¬ Owned requests call e'))
  | .write_fails call _ | .times_out call | .cancel call =>
    inferInstanceAs (Decidable (∀ e ∈ c.notify_q, ¬ Owned requests call e))
  | .start .. | .acquire _ | .written _ | .notify _ => isTrue trivial

/-- Every response in the queue belongs to the holder of the lock, and every one taken out
was taken by its own call. -/
structure TakenByOwner (requests : κ → Request) (c : Client κ) : Prop where
  queued : ∀ e ∈ c.notify_q, ∀ call, Owned requests call e → c.tx_lock = some call
  removed : ∀ r ∈ c.removed, ∀ call, Owned requests call r.notification → r.by_call = call

/-- What a step can do to the client, by its effect on the lock and on the queue. -/
inductive Change (requests : κ → Request) (c : Client κ) : Action κ → Client κ → Prop
  | moved {action : Action κ} {call : κ} {phase : Phase} {waiters : List κ}
      (hlock : phase.in_lock = (c.phase call).in_lock)
      (hbefore : phase.before_lock = true → (c.phase call).before_lock = true)
      (hpending : ∀ response, c.phase call ≠ .returned response) :
      Change requests c action { c.set_phase call phase with waiters }
  | locked {action : Action κ} {call : κ} {waiters : List κ} (hfree : c.tx_lock = none)
      (hphase : (c.phase call).before_lock = true) :
      Change requests c action { c.lock call with waiters }
  | drained_locked {call : κ} (hphase : (c.phase call).before_lock = true)
      (hfree : c.tx_lock = none) :
      Change requests c (.start call true) ((c.drain call).lock call)
  | drained_queued {call : κ} {waiters : List κ} (hphase : (c.phase call).before_lock = true) :
      Change requests c (.start call true)
        { (c.drain call).set_phase call .queued with waiters }
  | notified {frame : Bytes} : Change requests c (.notify frame) (c.on_notify frame)
  | delivered {call : κ} {e : Notification κ} {rest : List (Notification κ)}
      (hphase : (c.phase call).in_lock = true) (hq : c.notify_q = e :: rest)
      (hmatch : header_matches (requests call).slave (requests call).expected_byte_count
        e.frame = true) :
      Change requests c (.get call) ((c.take call [e] rest).release call (.returned e.frame))
  | discarded {call : κ} {e : Notification κ} {rest : List (Notification κ)} {attempt : Nat}
      (hphase : (c.phase call).in_lock = true) (hq : c.notify_q = e :: rest)
      (hmatch : ¬ header_matches (requests call).slave (requests call).expected_byte_count
        e.frame = true) :
      Change requests c (.get call) ((c.take call [e] rest).set_phase call (.getting attempt true))
  | exhausted {call : κ} {e : Notification κ} {rest : List (Notification κ)}
      {error : RequestError} (hphase : (c.phase call).in_lock = true) (hq : c.notify_q = e :: rest)
      (hmatch : ¬ header_matches (requests call).slave (requests call).expected_byte_count
        e.frame = true)
      (hlast : (c.phase call).last_attempt = true) :
      Change requests c (.get call) ((c.take call [e] rest).release call (.raised error))
  | failed {action : Action κ} {call : κ} {error : RequestError}
      (hphase : (c.phase call).in_lock = true)
      (haction : action = .times_out call ∨ action = .cancel call ∨
        ∃ message, action = .write_fails call message) :
      Change requests c action (c.release call (.raised error))

/-- What holds of the client in every run. -/
structure Inv (c : Client κ) : Prop where
  in_lock : ∀ call, (c.phase call).in_lock = true ↔ c.tx_lock = some call
  queued : ∀ e ∈ c.notify_q, e ∈ c.notified
  begun : ∀ e ∈ c.notified, ∀ call, e.holder = some call → (c.phase call).before_lock = false

section

variable {requests : κ → Request} {c c' : Client κ} {call k : κ} {phase : Phase}
  {taken rest : List (Notification κ)} {e : Notification κ}

theorem woken_in_lock (phase : Phase) : (woken phase).in_lock = phase.in_lock := by
  cases phase <;> rfl

theorem woken_before_lock (phase : Phase) : (woken phase).before_lock = phase.before_lock := by
  cases phase <;> rfl

theorem in_lock_not_before_lock (h : phase.in_lock = true) : phase.before_lock = false := by
  cases phase <;> first | rfl | cases h

theorem not_in_lock_of_before_lock (h : phase.before_lock = true) : phase.in_lock = false := by
  cases phase <;> first | rfl | cases h

theorem not_returned_of_in_lock (h : phase.in_lock = true) (response : Bytes) :
    phase ≠ .returned response := by
  rintro rfl
  cases h

theorem not_returned_of_before_lock (h : phase.before_lock = true) (response : Bytes) :
    phase ≠ .returned response := by
  rintro rfl
  cases h

omit [DecidableEq κ] in
theorem inv_init : Inv (init : Client κ) where
  in_lock _ := by simp [init, Phase.in_lock]
  queued := nofun
  begun := nofun

/-- A change of phase that neither enters nor leaves the lock. -/
theorem Inv.set_phase (h : Inv c) (hlock : phase.in_lock = (c.phase call).in_lock)
    (hbegun : phase.before_lock = true → (c.phase call).before_lock = true) :
    Inv (c.set_phase call phase) where
  in_lock k := by
    rw [set_phase_phase]
    split_ifs with hk
    · rw [hlock, ← hk]
      exact h.in_lock k
    · exact h.in_lock k
  queued := h.queued
  begun e he k hholder := by
    have hbefore := h.begun e he k hholder
    rw [set_phase_phase]
    split_ifs with hk
    · rw [← Bool.not_eq_true]
      intro hphase
      rw [hk, hbegun hphase] at hbefore
      cases hbefore
    · exact hbefore

omit [DecidableEq κ] in
theorem Inv.take (h : Inv c) (hrest : ∀ e ∈ rest, e ∈ c.notify_q) :
    Inv (c.take call taken rest) where
  in_lock := h.in_lock
  queued e he := h.queued e (hrest e he)
  begun := h.begun

omit [DecidableEq κ] in
theorem Inv.drain (h : Inv c) : Inv (c.drain call) := h.take nofun

omit [DecidableEq κ] in
theorem Inv.waiters (h : Inv c) (waiters : List κ) : Inv { c with waiters } :=
  ⟨h.in_lock, h.queued, h.begun⟩

theorem Inv.lock (h : Inv c) (hfree : c.tx_lock = none) : Inv (c.lock call) where
  in_lock k := by
    have hk := h.in_lock k
    rw [hfree] at hk
    simp only [Client.lock, set_phase_phase]
    split_ifs with heq
    · simp [heq, Phase.in_lock]
    · rw [hk]
      simp [Ne.symm heq]
  queued := h.queued
  begun e he k hholder := by
    simp only [Client.lock, set_phase_phase]
    split_ifs with heq
    · rfl
    · exact h.begun e he k hholder

/-- The call that holds the lock ends. -/
theorem Inv.release (h : Inv c) (hheld : c.tx_lock = some call) (hlock : phase.in_lock = false)
    (hbegun : phase.before_lock = false) : Inv (c.release call phase) where
  in_lock k := by
    have hk := h.in_lock k
    rw [hheld] at hk
    simp only [Client.release, set_phase_phase]
    split_ifs with heq
    · simp [hlock]
    · simp [hk, Ne.symm heq]
  queued := h.queued
  begun e he k hholder := by
    simp only [Client.release, set_phase_phase]
    split_ifs with heq
    · exact hbegun
    · exact h.begun e he k hholder

omit [DecidableEq κ] in
theorem Inv.on_notify (h : Inv c) (frame : Bytes) : Inv (c.on_notify frame) where
  in_lock k := by
    simp only [Client.on_notify, woken_in_lock]
    exact h.in_lock k
  queued := by
    simp only [Client.on_notify, List.mem_append]
    exact fun e he => he.imp_left (h.queued e)
  begun := by
    simp only [Client.on_notify, List.forall_mem_append, List.forall_mem_singleton,
      woken_before_lock]
    exact ⟨h.begun, fun k hholder => in_lock_not_before_lock ((h.in_lock k).mpr hholder)⟩

theorem start_change (hphase : c.phase call = .idle) (is_connected : Bool) :
    c.Change requests (.start call is_connected) (c.start call is_connected) := by
  have hbefore : (c.phase call).before_lock = true := by rw [hphase]; rfl
  unfold Client.start
  cases is_connected with
  | false =>
    rw [if_pos Bool.false_ne_true]
    exact .moved (by rw [hphase]; rfl) nofun (by rw [hphase]; nofun)
  | true =>
    rw [if_neg (not_not.mpr rfl)]
    split_ifs with hfree
    · exact .drained_locked hbefore hfree.1
    · exact .drained_queued hbefore

theorem get_change {attempt : Nat} {ready : Bool}
    (hphase : c.phase call = .getting attempt ready) :
    c.Change requests (.get call) (c.get (requests call) call attempt) := by
  have hlock : (c.phase call).in_lock = true := by rw [hphase]; rfl
  unfold Client.get
  cases hq : c.notify_q with
  | nil => exact .moved (by rw [hphase]; rfl) nofun (by rw [hphase]; nofun)
  | cons e rest =>
    dsimp only
    split_ifs with hmatch hattempt
    · exact .delivered hlock hq hmatch
    · exact .discarded hlock hq hmatch
    · refine .exhausted hlock hq hmatch ?_
      rw [hphase]
      exact decide_eq_true hattempt

theorem step_change {action : Action κ} (hstep : c.step requests action = some c') :
    c.Change requests action c' := by
  cases action with
  | start call is_connected =>
    obtain ⟨hphase, heq⟩ := Option.ite_none_right_eq_some.mp hstep
    cases heq
    exact start_change hphase is_connected
  | acquire call =>
    obtain ⟨⟨hfree, hphase, -⟩, heq⟩ := Option.ite_none_right_eq_some.mp hstep
    cases heq
    exact .locked hfree (by rw [hphase]; rfl)
  | written call =>
    obtain ⟨hphase, heq⟩ := Option.ite_none_right_eq_some.mp hstep
    cases heq
    exact .moved (by rw [hphase]; rfl) nofun (by rw [hphase]; nofun)
  | write_fails call message =>
    obtain ⟨hphase, heq⟩ := Option.ite_none_right_eq_some.mp hstep
    cases heq
    exact .failed (by rw [hphase]; rfl) (.inr (.inr ⟨message, rfl⟩))
  | notify frame =>
    cases hstep
    exact .notified
  | get call =>
    unfold Client.step at hstep
    dsimp only at hstep
    split at hstep
    next attempt hphase =>
      cases hstep
      exact get_change hphase
    next => cases hstep
  | times_out call =>
    unfold Client.step at hstep
    dsimp only at hstep
    split at hstep
    next attempt ready hphase =>
      cases hstep
      exact .failed (by rw [hphase]; rfl) (.inl rfl)
    next => cases hstep
  | cancel call =>
    unfold Client.step at hstep
    dsimp only at hstep
    split at hstep
    next hphase =>
      cases hstep
      exact .moved (by rw [hphase]; rfl) nofun (by rw [hphase]; nofun)
    next hphase =>
      cases hstep
      exact .failed (by rw [hphase]; rfl) (.inr (.inl rfl))
    next attempt ready hphase =>
      cases hstep
      exact .failed (by rw [hphase]; rfl) (.inr (.inl rfl))
    next => cases hstep

/-- Every step keeps the invariant. -/
theorem Inv.step (h : Inv c) {action : Action κ} (hstep : c.step requests action = some c') :
    Inv c' := by
  cases step_change hstep with
  | moved hlock hbefore _ => exact (h.set_phase hlock hbefore).waiters _
  | locked hfree _ => exact (h.lock hfree).waiters _
  | drained_locked _ hfree => exact h.drain.lock hfree
  | drained_queued hphase =>
    have hlock : Phase.queued.in_lock = (c.phase _).in_lock :=
      (not_in_lock_of_before_lock hphase).symm
    exact (h.drain.set_phase hlock fun _ => hphase).waiters _
  | notified => exact h.on_notify _
  | delivered hphase hq _ =>
    exact (h.take (by simp +contextual [hq])).release ((h.in_lock _).mp hphase) rfl rfl
  | discarded hphase hq _ =>
    exact (h.take (by simp +contextual [hq])).set_phase hphase.symm nofun
  | exhausted hphase hq _ _ =>
    exact (h.take (by simp +contextual [hq])).release ((h.in_lock _).mp hphase) rfl rfl
  | failed hphase _ => exact h.release ((h.in_lock _).mp hphase) rfl rfl

omit [DecidableEq κ] in
/-- A call that did not take the lock yet owns no frame. -/
theorem Inv.not_owned (h : Inv c) (hphase : (c.phase call).before_lock = true)
    (he : e ∈ c.notified) : ¬ Owned requests call e := by
  intro howned
  rw [h.begun e he call howned.1] at hphase
  cases hphase

omit [DecidableEq κ] in
theorem not_stolen_init : NotStolen requests (init : Client κ) := ⟨nofun, nofun⟩

/-- Only the phase of a call that did not return yet changes. -/
theorem NotStolen.set_phase (h : NotStolen requests c)
    (hpending : ∀ response, c.phase call ≠ .returned response) :
    NotStolen requests (c.set_phase call phase) where
  in_queue := h.in_queue
  delivered r hr k howned := by
    refine (h.delivered r hr k howned).imp_left fun hreturned => ⟨hreturned.1, ?_⟩
    rw [set_phase_phase, if_neg ?_]
    · exact hreturned.2
    · rintro rfl
      exact hpending _ hreturned.2

omit [DecidableEq κ] in
theorem NotStolen.waiters (h : NotStolen requests c) (waiters : List κ) :
    NotStolen requests { c with waiters } :=
  ⟨h.in_queue, h.delivered⟩

/-- A call takes the lock before any frame can be notified for it. -/
theorem NotStolen.lock (h : NotStolen requests c) (hinv : Inv c)
    (hphase : (c.phase call).before_lock = true) : NotStolen requests (c.lock call) where
  in_queue k hheld e he howned := by
    cases hheld
    exact absurd howned (hinv.not_owned hphase he)
  delivered := by
    have hset : NotStolen requests (c.set_phase call .writing) :=
      h.set_phase (not_returned_of_before_lock hphase)
    exact hset.delivered

theorem NotStolen.release (h : NotStolen requests c) (hphase : (c.phase call).in_lock = true) :
    NotStolen requests (c.release call phase) where
  in_queue := nofun
  delivered := by
    have hset : NotStolen requests (c.set_phase call phase) :=
      h.set_phase (not_returned_of_in_lock hphase)
    exact hset.delivered

omit [DecidableEq κ] in
/-- The holder of the lock takes a frame that is not its response. -/
theorem NotStolen.take (h : NotStolen requests c) (hheld : c.tx_lock = some call)
    (hq : c.notify_q = e :: rest) (hmatch : ¬ Owned requests call e) :
    NotStolen requests (c.take call [e] rest) where
  in_queue k hk e' he' howned := by
    have hmem := h.in_queue k hk e' he' howned
    rw [hq, List.mem_cons] at hmem
    refine hmem.resolve_left ?_
    rintro rfl
    exact hmatch (Option.some.inj (hheld.symm.trans hk) ▸ howned)
  delivered := by
    simp only [Client.take, List.map_singleton, List.forall_mem_append, List.forall_mem_singleton]
    refine ⟨h.delivered, fun k howned => .inr ?_⟩
    have hk : call ≠ k := fun heq => hmatch (heq ▸ howned)
    exact ⟨hk, by rw [hheld]; exact fun heq => hk (Option.some.inj heq)⟩

/-- The holder of the lock takes its response and returns it. -/
theorem NotStolen.deliver (h : NotStolen requests c) (hphase : (c.phase call).in_lock = true)
    (hheld : c.tx_lock = some call) :
    NotStolen requests ((c.take call [e] rest).release call (.returned e.frame)) where
  in_queue := nofun
  delivered r hr k howned := by
    have hset : NotStolen requests (c.set_phase call (.returned e.frame)) :=
      h.set_phase (not_returned_of_in_lock hphase)
    cases List.mem_append.mp hr with
    | inl hr => exact hset.delivered r hr k howned
    | inr hr =>
      obtain rfl := List.mem_singleton.mp hr
      by_cases hk : call = k
      · refine .inl ⟨hk, ?_⟩
        rw [← hk]
        exact Function.update_self call _ _
      · exact .inr ⟨hk, by rw [hheld]; exact fun heq => hk (Option.some.inj heq)⟩

omit [DecidableEq κ] in
/-- A call that starts throws away no response of the holder of the lock. -/
theorem NotStolen.drain (h : NotStolen requests c) (hinv : Inv c)
    (hphase : (c.phase call).before_lock = true)
    (hdrains : ∀ holder ∈ c.tx_lock, ∀ e ∈ c.notify_q, ¬ Owned requests holder e) :
    NotStolen requests (c.drain call) where
  in_queue k hk e he howned := absurd howned (hdrains k hk e (h.in_queue k hk e he howned))
  delivered := by
    simp only [Client.drain, Client.take, List.forall_mem_append, List.forall_mem_map]
    refine ⟨h.delivered, fun e he k howned => .inr ⟨?_, fun hk => hdrains k hk e he howned⟩⟩
    rintro rfl
    exact hinv.not_owned hphase (hinv.queued e he) howned

omit [DecidableEq κ] in
theorem NotStolen.on_notify (h : NotStolen requests c) (frame : Bytes) :
    NotStolen requests (c.on_notify frame) where
  in_queue k hk := by
    simp only [Client.on_notify, List.forall_mem_append, List.forall_mem_singleton]
    exact ⟨fun e he howned => List.mem_append_left _ (h.in_queue k hk e he howned),
      fun _ => List.mem_append_right _ (List.mem_singleton.mpr rfl)⟩
  delivered r hr k howned := by
    refine (h.delivered r hr k howned).imp_left fun hreturned => ⟨hreturned.1, ?_⟩
    simp only [Client.on_notify, hreturned.2, woken]

/-- Every step keeps the responses, as long as no drain finds one. -/
theorem NotStolen.step (h : NotStolen requests c) (hinv : Inv c) {action : Action κ}
    (hdrains : DrainsNoResponse requests c action) (hstep : c.step requests action = some c') :
    NotStolen requests c' := by
  cases step_change hstep with
  | moved _ _ hpending => exact (h.set_phase hpending).waiters _
  | locked _ hphase => exact (h.lock hinv hphase).waiters _
  | drained_locked hphase _ => exact (h.drain hinv hphase hdrains).lock hinv.drain hphase
  | drained_queued hphase =>
    exact ((h.drain hinv hphase hdrains).set_phase (not_returned_of_before_lock hphase)).waiters _
  | notified => exact h.on_notify _
  | delivered hphase _ _ => exact h.deliver hphase ((hinv.in_lock _).mp hphase)
  | discarded hphase hq hmatch =>
    have htake := h.take ((hinv.in_lock _).mp hphase) hq fun howned => hmatch howned.2
    exact htake.set_phase (not_returned_of_in_lock hphase)
  | exhausted hphase hq hmatch _ =>
    exact (h.take ((hinv.in_lock _).mp hphase) hq fun howned => hmatch howned.2).release hphase
  | failed hphase _ => exact h.release hphase

omit [DecidableEq κ] in
theorem taken_by_owner_init : TakenByOwner requests (init : Client κ) := ⟨nofun, nofun⟩

omit [DecidableEq κ] in
/-- The holder of the lock takes a frame: nobody else has a response in the queue. -/
theorem TakenByOwner.take (h : TakenByOwner requests c) (hheld : c.tx_lock = some call)
    (hq : c.notify_q = e :: rest) : TakenByOwner requests (c.take call [e] rest) where
  queued e' he' := h.queued e' (by simp [hq, show e' ∈ rest from he'])
  removed := by
    simp only [Client.take, List.map_singleton, List.forall_mem_append, List.forall_mem_singleton]
    refine ⟨h.removed, fun k howned => ?_⟩
    have hk := h.queued e (by simp [hq]) k howned
    exact Option.some.inj (hheld.symm.trans hk)

omit [DecidableEq κ] in
theorem TakenByOwner.drain (h : TakenByOwner requests c)
    (hdrains : ∀ holder ∈ c.tx_lock, ∀ e ∈ c.notify_q, ¬ Owned requests holder e) :
    TakenByOwner requests (c.drain call) where
  queued := nofun
  removed := by
    simp only [Client.drain, Client.take, List.forall_mem_append, List.forall_mem_map]
    exact ⟨h.removed, fun e he k howned => absurd howned (hdrains k (h.queued e he k howned) e he)⟩

/-- The lock is given up with no response of its holder in the queue. -/
theorem TakenByOwner.release (h : TakenByOwner requests c) (hheld : c.tx_lock = some call)
    (hleaves : ∀ e ∈ c.notify_q, ¬ Owned requests call e) :
    TakenByOwner requests (c.release call phase) where
  queued e he k howned := by
    have hk := h.queued e he k howned
    rw [hheld, Option.some.injEq] at hk
    exact absurd (hk ▸ howned) (hleaves e he)
  removed := h.removed

theorem TakenByOwner.lock (h : TakenByOwner requests c) (hfree : c.tx_lock = none) :
    TakenByOwner requests (c.lock call) where
  queued e he k howned := by
    have hk := h.queued e he k howned
    rw [hfree] at hk
    cases hk
  removed := h.removed

omit [DecidableEq κ] in
theorem TakenByOwner.on_notify (h : TakenByOwner requests c) (frame : Bytes) :
    TakenByOwner requests (c.on_notify frame) where
  queued := by
    simp only [Client.on_notify, List.forall_mem_append, List.forall_mem_singleton]
    exact ⟨h.queued, fun k howned => howned.1⟩
  removed := h.removed

theorem TakenByOwner.step (h : TakenByOwner requests c) (hinv : Inv c) {action : Action κ}
    (hdrains : DrainsNoResponse requests c action) (hleaves : LeavesNoResponse requests c action)
    (hstep : c.step requests action = some c') : TakenByOwner requests c' := by
  cases step_change hstep with
  | moved _ _ _ => exact ⟨h.queued, h.removed⟩
  | locked hfree _ => exact ⟨(h.lock hfree).queued, h.removed⟩
  | drained_locked _ hfree => exact (h.drain hdrains).lock hfree
  | drained_queued _ =>
    exact ⟨nofun, (h.drain hdrains).removed⟩
  | notified => exact h.on_notify _
  | delivered hphase hq hmatch =>
    have hheld := (hinv.in_lock _).mp hphase
    refine (h.take hheld hq).release hheld fun e' he' => ?_
    exact hleaves _ (by rw [hq]; rfl) (.inl hmatch) e' (by rw [hq]; exact he')
  | discarded hphase hq _ =>
    have htake := h.take ((hinv.in_lock _).mp hphase) hq
    exact ⟨htake.queued, htake.removed⟩
  | exhausted hphase hq _ hlast =>
    have hheld := (hinv.in_lock _).mp hphase
    refine (h.take hheld hq).release hheld fun e' he' => ?_
    exact hleaves _ (by rw [hq]; rfl) (.inr hlast) e' (by rw [hq]; exact he')
  | failed hphase haction =>
    refine h.release ((hinv.in_lock _).mp hphase) ?_
    obtain rfl | rfl | ⟨message, rfl⟩ := haction <;> exact hleaves

/-- A drain that finds a response of the holder of the lock takes it from the queue. -/
theorem drain_steals (hinv : Inv c) {action : Action κ}
    (hdrains : ¬ DrainsNoResponse requests c action) (hstep : c.step requests action = some c') :
    ¬ NotStolen requests c' := by
  intro h
  match action with
  | .start call true =>
    obtain ⟨-, heq⟩ := Option.ite_none_right_eq_some.mp hstep
    cases heq
    refine hdrains fun holder hheld e he howned => ?_
    have hbusy : ¬ (c.tx_lock = none ∧ c.waiters = []) := by
      rw [Option.mem_def.mp hheld]
      rintro ⟨hfree, -⟩
      cases hfree
    rw [Client.start, if_neg (not_not.mpr rfl), if_neg hbusy] at h
    cases h.in_queue holder hheld e (hinv.queued e he) howned
  | .start _ false | .acquire _ | .written _ | .write_fails .. | .notify _ | .get _ | .times_out _
  | .cancel _ => exact hdrains trivial

/-- In a run of any calls of `_request`, no response is lost to another call exactly as long
as every call that starts finds none of the holder of the lock in the queue. When in addition
no call ends with a response of its own left in the queue, every response that is taken out
is taken by its own call. -/
theorem responses_not_stolen_iff {actions : List (Action κ)}
    (hrun : run (step requests) init actions = some c) :
    (Along (step requests) (DrainsNoResponse requests) init actions ↔
      ∀ before after s, actions = before ++ after → run (step requests) init before = some s →
        NotStolen requests s) ∧
    (Along (step requests) (DrainsNoResponse requests) init actions →
      Along (step requests) (LeavesNoResponse requests) init actions →
      ∀ r ∈ c.removed, ∀ call, Owned requests call r.notification → r.by_call = call) := by
  constructor
  · exact along_iff_forall_state (I := Inv) (fun s a s' hinv hs' => hinv.step hs')
      (fun s a s' hinv h hok hs' => h.step hinv hok hs')
      (fun s a s' hinv hok hs' => drain_steals hinv hok hs') inv_init not_stolen_init hrun
  · intro hdrains hleaves
    have halong := hdrains.and hleaves
    refine (run_preserves_along (I := fun s => Inv s ∧ TakenByOwner requests s)
      ?_ ⟨inv_init, taken_by_owner_init⟩ halong hrun).2.removed
    exact fun s a s' h hok hs' => ⟨h.1.step hs', h.2.step h.1 hok.1 hok.2 hs'⟩

end

/-- Polls of the PIA of the packs by their numbers. -/
def polls (pack : Nat) : Request := ⟨pack.toUInt8, 0x24⟩

/-- A response with the PIA of a pack, all of its values zero. -/
def pia_response (pack : UInt8) : Bytes :=
  let body : Bytes := [pack, 0x04, 0x24] ++ List.replicate 36 0
  body ++ [(crc16_modbus body).toUInt8, (crc16_modbus body >>> 8).toUInt8]

/-- The second call waits for the lock until the first one has its response. -/
def in_turn : List (Action Nat) :=
  [.start 1 true, .start 2 true, .written 1, .get 1, .notify (pia_response 1), .get 1, .acquire 2,
    .written 2, .notify (pia_response 2), .get 2]

theorem responses_not_stolen_iff_in_turn : ∃ c, run (step polls) init in_turn = some c ∧
    c.phase 1 = .returned (pia_response 1) ∧ c.phase 2 = .returned (pia_response 2) ∧
    NotStolen polls c ∧
    ∀ r ∈ c.removed, ∀ call, Owned polls call r.notification → r.by_call = call := by
  have hend : (run (step polls) init in_turn).map (fun c => (c.phase 1, c.phase 2)) =
      some (.returned (pia_response 1), .returned (pia_response 2)) := by decide +kernel
  obtain ⟨c, hrun, hphases⟩ := Option.map_eq_some_iff.mp hend
  obtain ⟨hfirst, hsecond⟩ := Prod.mk.inj hphases
  have hdrains : Along (step polls) (DrainsNoResponse polls) init in_turn := by decide +kernel
  have hleaves : Along (step polls) (LeavesNoResponse polls) init in_turn := by decide +kernel
  have hresponses := responses_not_stolen_iff hrun
  exact ⟨c, hrun, hfirst, hsecond,
    hresponses.1.mp hdrains in_turn [] c (List.append_nil _).symm hrun,
    hresponses.2 hdrains hleaves⟩

/-- The second call starts after the response of the first one was notified, and before the
first one is resumed. -/
def drained : List (Action Nat) :=
  [.start 1 true, .written 1, .get 1, .notify (pia_response 1), .start 2 true, .get 1, .times_out 1]

theorem response_drained : ∃ c, run (step polls) init drained = some c ∧
    c.phase 1 = .raised (.failed (.TimeoutError "")) ∧
    ∃ r ∈ c.removed, Owned polls 1 r.notification ∧ r.holder = some 1 ∧ r.by_call = 2 := by
  have hend : (run (step polls) init drained).map (fun c => (c.phase 1, c.removed)) =
      some (.raised (.failed (.TimeoutError "")), [⟨⟨0, pia_response 1, some 1⟩, 2, some 1⟩]) := by
    decide +kernel
  obtain ⟨c, hrun, heq⟩ := Option.map_eq_some_iff.mp hend
  obtain ⟨hphase, hremoved⟩ := Prod.mk.inj heq
  refine ⟨c, hrun, hphase, _, hremoved ▸ List.mem_singleton.mpr rfl, ?_, rfl, rfl⟩
  decide +kernel

end Client

end inverter_bridge.bms.ble_client
