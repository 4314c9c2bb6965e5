import InverterBridge.Bms.PollEffects
import InverterBridge.Lib.Trace

open Python Std.Do Trace
open inverter_bridge.config inverter_bridge.bms.octopus_protocol inverter_bridge.bms.ble_client

set_option mvcgen.warning false

namespace inverter_bridge.bms.service

/-! ## The cycles of a trace -/

/-- The cycles that have started, the successful polls of each complete one, and the start of
the last one with a PIB round; and of the cycle that started last, the polls that have ended,
are still due, and have succeeded. -/
structure Tally where
  started : Nat
  completed : List Nat
  last_slow : ℚ
  ended : Nat
  due : Nat
  ok : Nat
  deriving DecidableEq

namespace Tally

/-- A cycle is complete when none of its polls is due. -/
def close (t : Tally) : Tally :=
  if t.due = 0 then { t with completed := t.completed ++ [t.ok] } else t

/-- A cycle polls PIA of every pack, and PIB if the slow interval has passed. -/
def start (cfg : BmsCfg) (t : Tally) (cycle_start : ℚ) : Tally :=
  let packs := cfg.pack_count.toNat
  let slow := decide (cfg.poll_slow_interval_s ≤ .finite (cycle_start - t.last_slow))
  close {
    started := t.started + 1
    completed := t.completed
    last_slow := if slow then cycle_start else t.last_slow
    ended := 0
    due := packs + if slow then packs else 0
    ok := 0 }

/-- A poll has ended. -/
def poll (t : Tally) (succeeded : Bool) : Tally :=
  close { t with ended := t.ended + 1, due := t.due - 1, ok := t.ok + succeeded.toNat }

def count (cfg : BmsCfg) (t : Tally) : Event → Tally
  | .cycle_started cycle_start => t.start cfg cycle_start
  | .pia_stored _ _ _ | .pib_stored _ _ _ => t.poll true
  | .poll_failed _ _ => t.poll false
  | _ => t

/-- The next poll of the cycle is the PIA poll of `pack`. -/
def PiaDue (cfg : BmsCfg) (t : Tally) (pack : Nat) : Prop :=
  0 < t.due ∧ pack ≤ cfg.pack_count.toNat ∧ t.ended + 1 = pack

/-- The next poll of the cycle is the PIB poll of `pack`, after all the PIA polls. -/
def PibDue (cfg : BmsCfg) (t : Tally) (pack : Nat) : Prop :=
  0 < t.due ∧ 1 ≤ pack ∧ pack ≤ cfg.pack_count.toNat ∧ t.ended + 1 = cfg.pack_count.toNat + pack

end Tally

def tally (cfg : BmsCfg) (trace : List Event) : Tally :=
  trace.foldl (Tally.count cfg) ⟨0, [], 0, 0, 0, 0⟩

/-- How many polls succeeded in each complete cycle, in order. -/
def completed_cycles (cfg : BmsCfg) (trace : List Event) : List Nat := (tally cfg trace).completed

/-! ## Why the loop may end -/

/-- The reasons to leave the poll loop: the stop event was seen, a poll failed while the
client reported no connection, or the last `max_failed_cycles` complete cycles had no
successful poll. -/
inductive GivesUp (cfg : BmsCfg) (trace : List Event) : Prop where
  | stopped (h : .looked true ∈ trace)
  | disconnected (pack : Nat) (h : .poll_failed pack false ∈ trace)
  | silent (h : List.replicate cfg.max_failed_cycles.toNat 0 <:+ completed_cycles cfg trace)

def Event.is_look : Event → Bool
  | .looked _ => true
  | _ => false

/-- The next poll is that of `pack`, and raises `e`. -/
def Fails (w : World) (cfg : BmsCfg) (s₀ : ServiceState) (before : List Event) (pack : Nat)
    (e : PollError) : Prop :=
  (tally cfg before).PiaDue cfg pack ∧
      w.poll_pia (s₀.polls + polls_ended before) pack = .error e ∨
    (tally cfg before).PibDue cfg pack ∧
      w.poll_pib (s₀.polls + polls_ended before) pack = .error e

/-- Every event of a loop that began in `s₀` is what the outside gives. A cycle starts right
after the stop event was seen clear, when the one before is complete; and no cycle starts and
no poll is made while there is a reason to leave. -/
def Told (w : World) (cfg : BmsCfg) (s₀ : ServiceState) (before : List Event) : Event → Prop
  | .looked stop => stop = w.stop_is_set (s₀.looks + before.countP Event.is_look)
  | .cycle_started cycle_start =>
    ¬ GivesUp cfg before ∧ before.getLast? = some (.looked false) ∧ (tally cfg before).due = 0 ∧
      ∃ k, cycle_start = w.monotonic k
  | .pia_stored pack data _ =>
    ¬ GivesUp cfg before ∧ (tally cfg before).PiaDue cfg pack ∧
      w.poll_pia (s₀.polls + polls_ended before) pack = .ok data
  | .pib_stored pack data _ =>
    ¬ GivesUp cfg before ∧ (tally cfg before).PibDue cfg pack ∧
      w.poll_pib (s₀.polls + polls_ended before) pack = .ok data
  | .poll_failed pack connected =>
    ¬ GivesUp cfg before ∧ connected = w.is_connected (s₀.polls + polls_ended before) ∧
      ∃ e, e.is_failed_poll = true ∧ Fails w cfg s₀ before pack e
  | _ => True

/-- How the loop ends, seen for at most `n` turns: it returns for a reason, raises what the next
poll raises unless a poll is expected to fail with it, and is seen no longer when `n` cycles
are complete and there is no reason to leave. -/
def Leaves (w : World) (cfg : BmsCfg) (s₀ : ServiceState) (n : Nat) (trace : List Event) :
    Exit → Prop
  | .returned => GivesUp cfg trace
  | .raised e =>
    ¬ GivesUp cfg trace ∧ e.is_failed_poll = false ∧ ∃ pack, Fails w cfg s₀ trace pack e
  | .running => ¬ GivesUp cfg trace ∧ (tally cfg trace).started = n ∧ (tally cfg trace).due = 0

/-! ## The events, one after the other -/

/-- `failed_cycles` is the number of complete cycles since the last one with a success, and less
than the limit. -/
structure Silence (cfg : BmsCfg) (failed_cycles : Nat) (completed : List Nat) : Prop where
  failed : List.replicate failed_cycles 0 <:+ completed
  not_more : ¬ List.replicate (failed_cycles + 1) 0 <:+ completed
  below : (failed_cycles : Int) < cfg.max_failed_cycles
  brief : ¬ List.replicate (cfg.max_failed_cycles.toNat + 1) 0 <:+: completed

/-- The loop goes on: all its events are what the outside gives, and add up to `t`. -/
structure Going (w : World) (cfg : BmsCfg) (s₀ : ServiceState) (t : Tally) (s : ServiceState) :
    Prop where
  polls : s.polls = s₀.polls + polls_ended s.trace
  looks : s.looks = s₀.looks + s.trace.countP Event.is_look
  told : EachAt (Told w cfg s₀) s.trace
  not_stopped : .looked true ∉ s.trace
  connected : ∀ pack, .poll_failed pack false ∉ s.trace
  tally_eq : tally cfg s.trace = t
  brief : ¬ List.replicate (cfg.max_failed_cycles.toNat + 1) 0 <:+: t.completed

/-- The loop has ended, for a reason. -/
def Ended (w : World) (cfg : BmsCfg) (s₀ : ServiceState) (n : Nat) (exit : Exit)
    (trace : List Event) : Prop :=
  EachAt (Told w cfg s₀) trace ∧
    ¬ List.replicate (cfg.max_failed_cycles.toNat + 1) 0 <:+: completed_cycles cfg trace ∧
    Leaves w cfg s₀ n trace exit

section

variable {w : World} {cfg : BmsCfg} {s₀ s : ServiceState} {n failed_cycles : Nat} {t : Tally}
  {completed : List Nat}

theorem tally_append (trace : List Event) (event : Event) :
    tally cfg (trace ++ [event]) = (tally cfg trace).count cfg event := by
  rw [tally, List.foldl_append]
  rfl

theorem looks_append (trace : List Event) (event : Event) :
    (trace ++ [event]).countP Event.is_look =
      trace.countP Event.is_look + if event.is_look then 1 else 0 := by
  rw [List.countP_append, List.countP_singleton]

theorem replicate_suffix_of_le {m n : Nat} {l : List Nat} (hle : m ≤ n)
    (h : List.replicate n 0 <:+ l) : List.replicate m 0 <:+ l := by
  refine List.IsSuffix.trans ⟨List.replicate (n - m) 0, ?_⟩ h
  rw [List.replicate_append_replicate]
  congr 1
  omega

/-- One zero more at the end of both lists. -/
theorem replicate_succ_suffix_iff {n : Nat} {l : List Nat} :
    List.replicate (n + 1) 0 <:+ l ++ [0] ↔ List.replicate n 0 <:+ l := by
  rw [List.replicate_succ', List.suffix_append_self_iff]

/-- Fewer empty cycles than the limit are no reason to leave. -/
theorem Silence.not_silent (h : Silence cfg failed_cycles completed) :
    ¬ List.replicate cfg.max_failed_cycles.toNat 0 <:+ completed := by
  intro hsilent
  have hbelow := h.below
  exact h.not_more (replicate_suffix_of_le (by omega) hsilent)

/-- A complete cycle does not make the silence too long. -/
theorem Silence.brief_append (h : Silence cfg failed_cycles completed) (ok : Nat) :
    ¬ List.replicate (cfg.max_failed_cycles.toNat + 1) 0 <:+: completed ++ [ok] := by
  rw [List.infix_concat_iff]
  rintro (hsuffix | hinfix)
  · have hlast : List.replicate cfg.max_failed_cycles.toNat 0 <:+ completed := by
      rw [List.replicate_succ'] at hsuffix
      obtain ⟨before, heq⟩ := hsuffix
      rw [← List.append_assoc] at heq
      exact ⟨before, (List.append_inj' heq rfl).1⟩
    exact h.not_silent hlast
  · exact h.brief hinfix

/-- One more cycle without a success. -/
theorem Silence.silent_cycle (h : Silence cfg failed_cycles completed)
    (hbelow : ¬ cfg.max_failed_cycles ≤ failed_cycles + 1) :
    Silence cfg (failed_cycles + 1) (completed ++ [0]) where
  failed := replicate_succ_suffix_iff.mpr h.failed
  not_more := by
    rw [replicate_succ_suffix_iff]
    exact h.not_more
  below := by omega
  brief := h.brief_append 0

/-- A cycle with a success starts the count again. -/
theorem Silence.heard_cycle (h : Silence cfg failed_cycles completed) {ok : Nat} (hheard : ok ≠ 0) :
    Silence cfg 0 (completed ++ [ok]) where
  failed := List.nil_suffix
  not_more := by
    rw [List.replicate_succ, List.replicate_zero, List.singleton_suffix_append_singleton_iff]
    exact hheard.symm
  below := by
    have hbelow := h.below
    omega
  brief := h.brief_append ok

theorem Silence.start (hlimit : 0 < cfg.max_failed_cycles) : Silence cfg 0 [] where
  failed := List.nil_suffix
  not_more := by simp
  below := hlimit
  brief := by simp

theorem Silence.brief_close (h : Silence cfg failed_cycles t.completed) :
    ¬ List.replicate (cfg.max_failed_cycles.toNat + 1) 0 <:+: t.close.completed := by
  rw [Tally.close]
  split
  · exact h.brief_append t.ok
  · exact h.brief

/-- The reasons to leave are seen in the tally, but for the two that end the loop at once. -/
theorem Going.not_givesUp (h : Going w cfg s₀ t s)
    (hsilence : Silence cfg failed_cycles t.completed) : ¬ GivesUp cfg s.trace := by
  intro hreason
  cases hreason with
  | stopped hstop => exact h.not_stopped hstop
  | disconnected pack hfailed => exact h.connected pack hfailed
  | silent hsilent =>
    rw [completed_cycles, h.tally_eq] at hsilent
    exact hsilence.not_silent hsilent

/-- One event more. -/
theorem Going.append (h : Going w cfg s₀ t s) {s' : ServiceState} (event : Event)
    (htrace : s'.trace = s.trace ++ [event])
    (hpolls : s'.polls = s.polls + if event.ends_poll then 1 else 0)
    (hlooks : s'.looks = s.looks + if event.is_look then 1 else 0)
    (htold : Told w cfg s₀ s.trace event) (hstop : event ≠ .looked true)
    (hconnected : ∀ pack, event ≠ .poll_failed pack false)
    (hbrief : ¬ List.replicate (cfg.max_failed_cycles.toNat + 1) 0 <:+:
      (t.count cfg event).completed) : Going w cfg s₀ (t.count cfg event) s' := by
  constructor
  · rw [hpolls, htrace, polls_ended_append, h.polls, Nat.add_assoc]
  · rw [hlooks, htrace, looks_append, h.looks, Nat.add_assoc]
  · rw [htrace]
    exact eachAt_append_singleton.mpr ⟨h.told, htold⟩
  · rw [htrace, List.mem_append, List.mem_singleton, not_or]
    exact ⟨h.not_stopped, hstop.symm⟩
  · intro pack
    rw [htrace, List.mem_append, List.mem_singleton, not_or]
    exact ⟨h.connected pack, (hconnected pack).symm⟩
  · rw [htrace, tally_append, h.tally_eq]
  · exact hbrief

/-- An event that is no look, no poll and no start of a cycle. -/
def Event.Neutral : Event → Prop
  | .connecting | .excluded _ | .aggregated _ _ _ | .integrated _ | .published _ => True
  | _ => False

theorem Going.neutral (h : Going w cfg s₀ t s) {s' : ServiceState} (event : Event)
    (hneutral : event.Neutral) (htrace : s'.trace = s.trace ++ [event])
    (hpolls : s'.polls = s.polls) (hlooks : s'.looks = s.looks) : Going w cfg s₀ t s' := by
  cases event with
  | connecting | excluded | aggregated | integrated | published =>
    exact h.append _ htrace hpolls hlooks trivial nofun nofun h.brief
  | _ => exact hneutral.elim

theorem Going.clock_read (h : Going w cfg s₀ t s) : Going w cfg s₀ t s.clock_read :=
  ⟨h.polls, h.looks, h.told, h.not_stopped, h.connected, h.tally_eq, h.brief⟩

theorem Going.warned (h : Going w cfg s₀ t s) (packs : List Nat) :
    Going w cfg s₀ t (s.warned packs) := by
  induction packs generalizing s with
  | nil => simpa [ServiceState.warned] using h
  | cons pack packs ih =>
    have hone : Going w cfg s₀ t (s.warned [pack]) :=
      h.neutral (.excluded pack) trivial rfl rfl rfl
    have hrest := ih hone
    simpa [ServiceState.warned, Finset.union_assoc] using hrest

theorem Going.looked_clear (h : Going w cfg s₀ t s) (hstop : w.stop_is_set s.looks = false) :
    Going w cfg s₀ t (s.looked false) :=
  h.append (.looked false) rfl rfl rfl (by rw [Told, ← h.looks, hstop]) nofun nofun h.brief

/-- A trace with one event more, after which the loop ends. -/
theorem Going.ended (h : Going w cfg s₀ t s) {event : Event} {exit : Exit}
    (htold : Told w cfg s₀ s.trace event)
    (hbrief : ¬ List.replicate (cfg.max_failed_cycles.toNat + 1) 0 <:+:
      (t.count cfg event).completed)
    (hleaves : Leaves w cfg s₀ n (s.trace ++ [event]) exit) :
    Ended w cfg s₀ n exit (s.trace ++ [event]) := by
  refine ⟨eachAt_append_singleton.mpr ⟨h.told, htold⟩, ?_, hleaves⟩
  rw [completed_cycles, tally_append, h.tally_eq]
  exact hbrief

theorem Going.stopped (h : Going w cfg s₀ t s) (hstop : w.stop_is_set s.looks = true) :
    Ended w cfg s₀ n .returned (s.trace ++ [.looked true]) :=
  h.ended (by rw [Told, ← h.looks, hstop]) h.brief
    (.stopped (List.mem_append_right _ (List.mem_singleton_self _)))

theorem Going.start (hlimit : 0 < cfg.max_failed_cycles) (htrace : s.trace = []) :
    Going w cfg s ⟨0, [], 0, 0, 0, 0⟩ s := by
  constructor
  · rw [htrace]
    rfl
  · rw [htrace]
    rfl
  · rw [htrace]
    exact eachAt_nil
  · rw [htrace]
    exact List.not_mem_nil
  · rw [htrace]
    exact fun _ => List.not_mem_nil
  · rw [htrace]
    rfl
  · exact (Silence.start hlimit).brief

end

/-! ## The loop, one part after the other -/

/-- The loop goes on, and its events add up to a tally with `R`. -/
def Accounted (w : World) (cfg : BmsCfg) (s₀ : ServiceState) (R : Tally → Prop) (s : ServiceState) :
    Prop :=
  ∃ t, R t ∧ Going w cfg s₀ t s

/-- Between two cycles. -/
def Idle (cfg : BmsCfg) (failed_cycles : Nat) (last_slow : ℚ) (started : Nat) (t : Tally) : Prop :=
  t.started = started ∧ t.last_slow = last_slow ∧ t.due = 0 ∧ Silence cfg failed_cycles t.completed

/-- In the rounds of a cycle, which may be complete already. -/
def Polling (cfg : BmsCfg) (failed_cycles : Nat) (last_slow : ℚ) (started ended due ok : Nat)
    (t : Tally) : Prop :=
  ∃ completed, Silence cfg failed_cycles completed ∧
    t = Tally.close ⟨started, completed, last_slow, ended, due, ok⟩

section

variable {w : World} {cfg : BmsCfg} {s₀ s s' : ServiceState} {n failed_cycles : Nat} {last_slow : ℚ}
  {started ended due ok pack : Nat} {e : PollError} {R : Tally → Prop}

/-- A cycle with polls due is not complete. -/
theorem Accounted.pending
    (h : Accounted w cfg s₀ (Polling cfg failed_cycles last_slow started ended (due + 1) ok) s) :
    ∃ completed, Silence cfg failed_cycles completed ∧
      Going w cfg s₀ ⟨started, completed, last_slow, ended, due + 1, ok⟩ s := by
  obtain ⟨_, ⟨completed, hsilence, rfl⟩, hgoing⟩ := h
  exact ⟨completed, hsilence, hgoing⟩

theorem Accounted.not_givesUp
    (h : Accounted w cfg s₀ (Polling cfg failed_cycles last_slow started ended (due + 1) ok) s) :
    ¬ GivesUp cfg s.trace :=
  let ⟨_, hsilence, hgoing⟩ := h.pending
  hgoing.not_givesUp hsilence

theorem Accounted.pia_due
    (h : Accounted w cfg s₀ (Polling cfg failed_cycles last_slow started ended (due + 1) ok) s)
    (hpack : ended < cfg.pack_count.toNat) : (tally cfg s.trace).PiaDue cfg (ended + 1) := by
  obtain ⟨_, -, hgoing⟩ := h.pending
  rw [hgoing.tally_eq]
  exact ⟨Nat.succ_pos due, hpack, rfl⟩

theorem Accounted.pib_due {i : Nat}
    (h : Accounted w cfg s₀ (Polling cfg failed_cycles last_slow started
      (cfg.pack_count.toNat + i) (due + 1) ok) s)
    (hpack : i < cfg.pack_count.toNat) : (tally cfg s.trace).PibDue cfg (i + 1) := by
  obtain ⟨_, -, hgoing⟩ := h.pending
  rw [hgoing.tally_eq]
  exact ⟨Nat.succ_pos due, Nat.succ_pos i, hpack, rfl⟩

theorem Accounted.clock_read (h : Accounted w cfg s₀ R s) : Accounted w cfg s₀ R s.clock_read :=
  let ⟨t, hR, hgoing⟩ := h
  ⟨t, hR, hgoing.clock_read⟩

theorem Accounted.polls (h : Accounted w cfg s₀ R s) : s.polls = s₀.polls + polls_ended s.trace :=
  let ⟨_, _, hgoing⟩ := h
  hgoing.polls

/-- A poll that has ended and lets the loop go on. -/
theorem Accounted.poll
    (h : Accounted w cfg s₀ (Polling cfg failed_cycles last_slow started ended (due + 1) ok) s)
    (event : Event) {succeeded : Bool} (hcount : ∀ t : Tally, t.count cfg event = t.poll succeeded)
    (htrace : s'.trace = s.trace ++ [event])
    (hpolls : s'.polls = s.polls + if event.ends_poll then 1 else 0)
    (hlooks : s'.looks = s.looks + if event.is_look then 1 else 0)
    (htold : Told w cfg s₀ s.trace event) (hstop : event ≠ .looked true)
    (hconnected : ∀ pack, event ≠ .poll_failed pack false) :
    Accounted w cfg s₀
      (Polling cfg failed_cycles last_slow started (ended + 1) due (ok + succeeded.toNat)) s' := by
  obtain ⟨completed, hsilence, hgoing⟩ := h.pending
  have hnext := hgoing.append event htrace hpolls hlooks htold hstop hconnected ?_
  · rw [hcount] at hnext
    exact ⟨_, ⟨completed, hsilence, rfl⟩, hnext⟩
  · rw [hcount]
    exact Silence.brief_close (t := ⟨started, completed, last_slow, ended + 1, due, _⟩) hsilence

theorem Accounted.pia_stored
    (h : Accounted w cfg s₀ (Polling cfg failed_cycles last_slow started ended (due + 1) ok) s)
    {pia : PiaData} (hdue : (tally cfg s.trace).PiaDue cfg pack)
    (hpoll : w.poll_pia s.polls pack = .ok pia) (now : ℚ) :
    Accounted w cfg s₀ (Polling cfg failed_cycles last_slow started (ended + 1) due (ok + 1))
      (s.polled.clock_read.with_pia pack pia now) :=
  h.poll (.pia_stored pack pia now) (fun _ => rfl) rfl rfl rfl
    ⟨h.not_givesUp, hdue, h.polls ▸ hpoll⟩ nofun nofun

theorem Accounted.pib_stored
    (h : Accounted w cfg s₀ (Polling cfg failed_cycles last_slow started ended (due + 1) ok) s)
    {pib : PibData} (hdue : (tally cfg s.trace).PibDue cfg pack)
    (hpoll : w.poll_pib s.polls pack = .ok pib) (now : ℚ) :
    Accounted w cfg s₀ (Polling cfg failed_cycles last_slow started (ended + 1) due (ok + 1))
      (s.polled.clock_read.with_pib pack pib now) :=
  h.poll (.pib_stored pack pib now) (fun _ => rfl) rfl rfl rfl
    ⟨h.not_givesUp, hdue, h.polls ▸ hpoll⟩ nofun nofun

/-- What is told of a poll that failed as expected. -/
theorem Accounted.told_failed
    (h : Accounted w cfg s₀ (Polling cfg failed_cycles last_slow started ended (due + 1) ok) s)
    (hexpected : e.is_failed_poll = true) (hfails : Fails w cfg s₀ s.trace pack e) :
    Told w cfg s₀ s.trace (.poll_failed pack (w.is_connected s.polls)) :=
  ⟨h.not_givesUp, congrArg w.is_connected h.polls, e, hexpected, hfails⟩

theorem Accounted.poll_failed
    (h : Accounted w cfg s₀ (Polling cfg failed_cycles last_slow started ended (due + 1) ok) s)
    (hexpected : e.is_failed_poll = true) (hfails : Fails w cfg s₀ s.trace pack e)
    (hconnected : w.is_connected s.polls = true) :
    Accounted w cfg s₀ (Polling cfg failed_cycles last_slow started (ended + 1) due ok)
      (s.polled.logged (.poll_failed pack (w.is_connected s.polls))) := by
  have htold := h.told_failed hexpected hfails
  have hends : Accounted w cfg s₀
      (Polling cfg failed_cycles last_slow started (ended + 1) due (ok + false.toNat))
      (s.polled.logged (.poll_failed pack (w.is_connected s.polls))) := by
    refine h.poll _ (fun _ => rfl) rfl rfl rfl htold nofun ?_
    rw [hconnected]
    nofun
  exact hends

theorem Accounted.disconnected
    (h : Accounted w cfg s₀ (Polling cfg failed_cycles last_slow started ended (due + 1) ok) s)
    (hexpected : e.is_failed_poll = true) (hfails : Fails w cfg s₀ s.trace pack e)
    (hlost : w.is_connected s.polls = false) :
    Ended w cfg s₀ n .returned (s.trace ++ [.poll_failed pack (w.is_connected s.polls)]) := by
  obtain ⟨completed, hsilence, hgoing⟩ := h.pending
  refine hgoing.ended (h.told_failed hexpected hfails) ?_ (.disconnected pack ?_)
  · exact Silence.brief_close (t := ⟨started, completed, last_slow, ended + 1, due, ok⟩) hsilence
  · rw [hlost]
    exact List.mem_append_right _ (List.mem_singleton_self _)

theorem Accounted.raised
    (h : Accounted w cfg s₀ (Polling cfg failed_cycles last_slow started ended (due + 1) ok) s)
    (hother : ¬ e.is_failed_poll = true) (hfails : Fails w cfg s₀ s.trace pack e) :
    Ended w cfg s₀ n (.raised e) s.trace := by
  obtain ⟨completed, hsilence, hgoing⟩ := h.pending
  refine ⟨hgoing.told, ?_, h.not_givesUp, Bool.eq_false_iff.mpr hother, pack, hfails⟩
  rw [completed_cycles, hgoing.tally_eq]
  exact hgoing.brief

/-- A cycle starts with its PIA polls due, and with its PIB polls if the slow interval has
passed. -/
theorem Accounted.cycle_started (h : Accounted w cfg s₀ (Idle cfg failed_cycles last_slow started) s)
    (hlook : s.trace.getLast? = some (.looked false)) (k : Nat) {slow : Bool}
    (hslow : decide (cfg.poll_slow_interval_s ≤ .finite (w.monotonic k - last_slow)) = slow) :
    Accounted w cfg s₀ (Polling cfg failed_cycles (if slow then w.monotonic k else last_slow)
        (started + 1) 0 (cfg.pack_count.toNat + if slow then cfg.pack_count.toNat else 0) 0)
      (s.logged (.cycle_started (w.monotonic k))) := by
  obtain ⟨t, ⟨rfl, rfl, hdue, hsilence⟩, hgoing⟩ := h
  have htold : Told w cfg s₀ s.trace (.cycle_started (w.monotonic k)) :=
    ⟨hgoing.not_givesUp hsilence, hlook, by rw [hgoing.tally_eq, hdue], k, rfl⟩
  subst hslow
  exact ⟨_, ⟨t.completed, hsilence, rfl⟩, hgoing.append (.cycle_started (w.monotonic k)) rfl rfl rfl
    htold nofun nofun (Silence.brief_close hsilence)⟩

/-- A complete cycle without a success that gives no reason to leave. -/
theorem Accounted.silent_cycle
    (h : Accounted w cfg s₀ (Polling cfg failed_cycles last_slow started ended 0 0) s)
    (hbelow : ¬ cfg.max_failed_cycles ≤ failed_cycles + 1) :
    Accounted w cfg s₀ (Idle cfg (failed_cycles + 1) last_slow started) s := by
  obtain ⟨_, ⟨completed, hsilence, rfl⟩, hgoing⟩ := h
  exact ⟨_, ⟨rfl, rfl, rfl, hsilence.silent_cycle hbelow⟩, hgoing⟩

theorem Accounted.heard_cycle
    (h : Accounted w cfg s₀ (Polling cfg failed_cycles last_slow started ended 0 ok) s)
    (hheard : ok ≠ 0) : Accounted w cfg s₀ (Idle cfg 0 last_slow started) s := by
  obtain ⟨_, ⟨completed, hsilence, rfl⟩, hgoing⟩ := h
  exact ⟨_, ⟨rfl, rfl, rfl, hsilence.heard_cycle hheard⟩, hgoing⟩

/-- A cycle without a success that is one too many. -/
theorem Accounted.gives_up
    (h : Accounted w cfg s₀ (Polling cfg failed_cycles last_slow started ended 0 0) s)
    (hlimit : cfg.max_failed_cycles ≤ failed_cycles + 1) :
    Ended w cfg s₀ n .returned s.trace := by
  obtain ⟨_, ⟨completed, hsilence, rfl⟩, hgoing⟩ := h
  have hcompleted : completed_cycles cfg s.trace = completed ++ [0] := by
    rw [completed_cycles, hgoing.tally_eq]
    rfl
  refine ⟨hgoing.told, ?_, .silent (replicate_suffix_of_le (n := failed_cycles + 1) (by omega) ?_)⟩
  · rw [hcompleted]
    exact hsilence.brief_append 0
  · rw [hcompleted, replicate_succ_suffix_iff]
    exact hsilence.failed

theorem Accounted.running (h : Accounted w cfg s₀ (Idle cfg failed_cycles last_slow n) s) :
    Ended w cfg s₀ n .running s.trace := by
  obtain ⟨t, ⟨hstarted, -, hdue, hsilence⟩, hgoing⟩ := h
  refine ⟨hgoing.told, ?_, hgoing.not_givesUp hsilence, ?_, ?_⟩
  · rw [completed_cycles, hgoing.tally_eq]
    exact hgoing.brief
  · rw [hgoing.tally_eq, hstarted]
  · rw [hgoing.tally_eq, hdue]

end

section

variable {w : World} {cfg : BmsCfg} {s₀ : ServiceState} {n failed_cycles : Nat} {last_slow : ℚ}
  {started ended due ok : Nat} {R : Tally → Prop}

theorem publish_accounted (values : List (String × Option Scalar)) :
    ⦃fun s => ⌜Accounted w cfg s₀ R s⌝⦄ publish values
    ⦃post⟨fun _ s => ⌜Accounted w cfg s₀ R s⌝, fun _ _ => ⌜False⌝⟩⦄ := by
  mvcgen [publish]
  case vc1 h _ =>
    obtain ⟨t, hR, hgoing⟩ := h
    exact ⟨t, hR, hgoing.neutral (.published _) trivial rfl rfl rfl⟩

theorem return_if_stopped_accounted :
    ⦃fun s => ⌜Accounted w cfg s₀ R s⌝⦄ return_if_stopped w
    ⦃post⟨fun _ s => ⌜Accounted w cfg s₀ R s ∧ s.trace.getLast? = some (.looked false)⌝,
      fun exit s => ⌜Ended w cfg s₀ n exit s.trace⌝⟩⦄ := by
  mvcgen [return_if_stopped, stop_is_set]
  case vc1.isTrue s h stop hstop =>
    obtain ⟨t, -, hgoing⟩ := h
    have hended : Ended w cfg s₀ n .returned (s.trace ++ [.looked true]) := hgoing.stopped hstop
    rw [← hstop] at hended
    exact hended
  case vc2.isFalse s h stop hstop =>
    obtain ⟨t, hR, hgoing⟩ := h
    rw [Bool.not_eq_true] at hstop
    rw [hstop]
    exact ⟨⟨t, hR, hgoing.looked_clear hstop⟩, List.getLast?_concat⟩

/-- The poll of the round that begins when `offset` polls have ended ends its turn. -/
def Polls (w : World) (cfg : BmsCfg) (s₀ : ServiceState) (n failed_cycles : Nat) (last_slow : ℚ)
    (started offset : Nat) (poll : Nat → Program Bool) : Prop :=
  ∀ i due ok, i < cfg.pack_count.toNat →
    ⦃fun s => ⌜Accounted w cfg s₀
      (Polling cfg failed_cycles last_slow started (offset + i) (due + 1) ok) s⌝⦄
    poll (i + 1)
    ⦃post⟨fun succeeded s => ⌜Accounted w cfg s₀ (Polling cfg failed_cycles last_slow started
        (offset + i + 1) due (if succeeded then ok + 1 else ok)) s⌝,
      fun exit s => ⌜Ended w cfg s₀ n exit s.trace⌝⟩⦄

theorem poll_pia_polls :
    Polls w cfg s₀ n failed_cycles last_slow started 0 (poll_pia w) := by
  intro i due ok hpack
  have hpublish := @publish_accounted w cfg s₀
    (Polling cfg failed_cycles last_slow started (0 + i + 1) due (ok + 1))
  rw [Nat.zero_add] at *
  mvcgen [poll_pia, publish_pia_state, hpublish, monotonic, poll_raised, log]
  case vc1.h_1.pre h pia hpoll _ => exact h.pia_stored (h.pia_due hpack) hpoll _
  case vc3.h_2.isTrue.isTrue s h e hpoll hexpected _ _ hlost =>
    rw [Bool.not_eq_true'] at hlost
    exact h.disconnected hexpected (.inl ⟨h.pia_due hpack, h.polls ▸ hpoll⟩) hlost
  case vc4.h_2.isTrue.isFalse s h e hpoll hexpected _ _ hconnected =>
    rw [Bool.not_eq_true', Bool.not_eq_false] at hconnected
    exact h.poll_failed hexpected (.inl ⟨h.pia_due hpack, h.polls ▸ hpoll⟩) hconnected
  case vc5.h_2.isFalse s h e hpoll hother =>
    exact h.raised hother (.inl ⟨h.pia_due hpack, h.polls ▸ hpoll⟩)

theorem poll_pib_polls :
    Polls w cfg s₀ n failed_cycles last_slow started cfg.pack_count.toNat (poll_pib w) := by
  intro i due ok hpack
  have hpublish := @publish_accounted w cfg s₀ (Polling cfg failed_cycles last_slow started
    (cfg.pack_count.toNat + i + 1) due (ok + 1))
  mvcgen [poll_pib, publish_pib_state, hpublish, monotonic, poll_raised, log]
  case vc1.h_1.pre h pib hpoll _ => exact h.pib_stored (h.pib_due hpack) hpoll _
  case vc3.h_2.isTrue.isTrue s h e hpoll hexpected _ _ hlost =>
    rw [Bool.not_eq_true'] at hlost
    exact h.disconnected hexpected (.inr ⟨h.pib_due hpack, h.polls ▸ hpoll⟩) hlost
  case vc4.h_2.isTrue.isFalse s h e hpoll hexpected _ _ hconnected =>
    rw [Bool.not_eq_true', Bool.not_eq_false] at hconnected
    exact h.poll_failed hexpected (.inr ⟨h.pib_due hpack, h.polls ▸ hpoll⟩) hconnected
  case vc5.h_2.isFalse s h e hpoll hother =>
    exact h.raised hother (.inr ⟨h.pib_due hpack, h.polls ▸ hpoll⟩)

/-- A round from its turn `i` on, with `rest` polls due after it. -/
theorem poll_round_accounted {offset rest : Nat} {poll : Nat → Program Bool}
    (hpoll : Polls w cfg s₀ n failed_cycles last_slow started offset poll) {i m : Nat}
    (hall : i + m = cfg.pack_count.toNat) (ok : Nat) :
    ⦃fun s => ⌜Accounted w cfg s₀
      (Polling cfg failed_cycles last_slow started (offset + i) (m + rest) ok) s⌝⦄
    poll_round w poll ok (List.range' (i + 1) m)
    ⦃post⟨fun ok s => ⌜Accounted w cfg s₀ (Polling cfg failed_cycles last_slow started
        (offset + cfg.pack_count.toNat) rest ok) s⌝,
      fun exit s => ⌜Ended w cfg s₀ n exit s.trace⌝⟩⦄ := by
  induction m generalizing i ok with
  | zero =>
    obtain rfl : i = cfg.pack_count.toNat := hall
    rw [Nat.zero_add]
    mvcgen [poll_round]
  | succ m ih =>
    have hone := hpoll i (m + rest) ok (by omega)
    have hstop (succeeded : Bool) := @return_if_stopped_accounted w cfg s₀ n
      (Polling cfg failed_cycles last_slow started (offset + i + 1) (m + rest)
        (if succeeded then ok + 1 else ok))
    have hrest := @ih (i + 1) (by omega)
    rw [Nat.add_right_comm m 1 rest]
    mvcgen [List.range'_succ, poll_round, hone, hstop, hrest]
    case vc4 h => exact h.1

/-- The two rounds of a cycle: the second one if its polls are due. -/
theorem poll_packs_accounted (cycle_start last_slow : ℚ) {slow : Bool}
    (hslow : decide (cfg.poll_slow_interval_s ≤ .finite (cycle_start - last_slow)) = slow) :
    ⦃fun s => ⌜Accounted w cfg s₀ (Polling cfg failed_cycles
      (if slow then cycle_start else last_slow) started 0
      (cfg.pack_count.toNat + if slow then cfg.pack_count.toNat else 0) 0) s⌝⦄
    poll_packs w cfg cycle_start last_slow
    ⦃post⟨fun r s => ⌜∃ ended, Accounted w cfg s₀
        (Polling cfg failed_cycles r.2 started ended 0 r.1) s⌝,
      fun exit s => ⌜Ended w cfg s₀ n exit s.trace⌝⟩⦄ := by
  have hpia := @poll_round_accounted w cfg s₀ n failed_cycles
    (if slow then cycle_start else last_slow) started 0
    (if slow then cfg.pack_count.toNat else 0) _ poll_pia_polls 0 _ (Nat.zero_add _)
  have hpib := @poll_round_accounted w cfg s₀ n failed_cycles cycle_start started
    cfg.pack_count.toNat 0 _ poll_pib_polls 0 _ (Nat.zero_add _)
  mvcgen [poll_packs, hpia, hpib]
  case vc2.post.success.isTrue.pre hpassed _ h =>
    rw [decide_eq_true hpassed] at hslow
    subst hslow
    rwa [Nat.zero_add] at h
  case vc3.post.success.isTrue.post.success h => exact ⟨_, h⟩
  case vc4.post.success.isFalse hpassed _ h =>
    rw [decide_eq_false hpassed] at hslow
    subst hslow
    exact ⟨_, h⟩

theorem watchdog_accounted :
    ⦃fun s => ⌜∃ ended, Accounted w cfg s₀
      (Polling cfg failed_cycles last_slow started ended 0 ok) s⌝⦄
    watchdog cfg failed_cycles ok
    ⦃post⟨fun failed_cycles s => ⌜Accounted w cfg s₀ (Idle cfg failed_cycles last_slow started) s⌝,
      fun exit s => ⌜Ended w cfg s₀ n exit s.trace⌝⟩⦄ := by
  mvcgen [watchdog]
  case vc1.isTrue.isTrue hsilent _ hlimit _ h =>
    obtain ⟨ended, h⟩ := h
    subst hsilent
    exact h.gives_up hlimit
  case vc2.isTrue.isFalse hsilent _ hlimit _ h =>
    obtain ⟨ended, h⟩ := h
    subst hsilent
    exact h.silent_cycle hlimit
  case vc3.isFalse hheard _ h =>
    obtain ⟨ended, h⟩ := h
    exact h.heard_cycle hheard

theorem fresh_states_accounted :
    ⦃fun s => ⌜Accounted w cfg s₀ R s⌝⦄ fresh_states w cfg
    ⦃post⟨fun _ s => ⌜Accounted w cfg s₀ R s⌝, fun _ _ => ⌜False⌝⟩⦄ := by
  mvcgen [fresh_states, monotonic]
  case vc1 h excluded _ _ =>
    obtain ⟨t, hR, hgoing⟩ := h
    have hwarned := hgoing.clock_read.warned excluded
    exact ⟨t, hR, hwarned.neutral (.aggregated _ _ _) trivial rfl rfl rfl⟩

theorem integrate_energy_accounted (fresh_pia : Dict Nat PiaData) (fresh_pib : Dict Nat PibData) :
    ⦃fun s => ⌜Accounted w cfg s₀ R s⌝⦄ integrate_energy w fresh_pia fresh_pib
    ⦃post⟨fun _ s => ⌜Accounted w cfg s₀ R s⌝, fun _ _ => ⌜False⌝⟩⦄ := by
  have hpublish := @publish_accounted w cfg s₀ R
  mvcgen [integrate_energy, monotonic, hpublish]
  case vc1 h call _ _ =>
    obtain ⟨t, hR, hgoing⟩ := h
    exact ⟨t, hR, hgoing.neutral (.integrated call) trivial rfl rfl rfl⟩

theorem publish_cycle_accounted :
    ⦃fun s => ⌜Accounted w cfg s₀ R s⌝⦄ publish_cycle w cfg
    ⦃post⟨fun _ s => ⌜Accounted w cfg s₀ R s⌝, fun _ _ => ⌜False⌝⟩⦄ := by
  have hfresh := @fresh_states_accounted w cfg s₀ R
  have hpublish := @publish_accounted w cfg s₀ R
  have hintegrate := @integrate_energy_accounted w cfg s₀ R
  mvcgen [publish_cycle, hfresh, publish_bank_state, hpublish, hintegrate, publish_telemetry]

theorem wait_for_next_cycle_accounted (cycle_start : ℚ) :
    ⦃fun s => ⌜Accounted w cfg s₀ R s⌝⦄ wait_for_next_cycle w cfg cycle_start
    ⦃post⟨fun _ s => ⌜Accounted w cfg s₀ R s⌝, fun exit s => ⌜Ended w cfg s₀ n exit s.trace⌝⟩⦄ := by
  have hstop := @return_if_stopped_accounted w cfg s₀ n R
  mvcgen [wait_for_next_cycle, monotonic, hstop]
  case vc1.isTrue.pre h _ => exact h.clock_read
  case vc2.isTrue.post.success =>
    intro h _
    exact h
  case vc3.isFalse h _ => exact h.clock_read

/-- The end of a cycle, and the turns after it. -/
theorem cycle_end_accounted {turns failed_cycles ok : Nat} {last_slow : ℚ} (cycle_start : ℚ)
    (hrest : ∀ failed_cycles,
      ⦃fun s => ⌜Accounted w cfg s₀ (Idle cfg failed_cycles last_slow started) s⌝⦄
      poll_cycles w cfg failed_cycles last_slow turns
      ⦃post⟨fun _ _ => ⌜False⌝, fun exit s => ⌜Ended w cfg s₀ n exit s.trace⌝⟩⦄) :
    ⦃fun s => ⌜∃ ended, Accounted w cfg s₀
      (Polling cfg failed_cycles last_slow started ended 0 ok) s⌝⦄
    (do
      let failed_cycles ← watchdog cfg failed_cycles ok
      publish_cycle w cfg
      wait_for_next_cycle w cfg cycle_start
      poll_cycles w cfg failed_cycles last_slow turns)
    ⦃post⟨fun _ _ => ⌜False⌝, fun exit s => ⌜Ended w cfg s₀ n exit s.trace⌝⟩⦄ := by
  have hwatchdog := @watchdog_accounted w cfg s₀ n failed_cycles last_slow started ok
  have hpublish (failed_cycles : Nat) :=
    @publish_cycle_accounted w cfg s₀ (Idle cfg failed_cycles last_slow started)
  have hwait (failed_cycles : Nat) :=
    @wait_for_next_cycle_accounted w cfg s₀ n (Idle cfg failed_cycles last_slow started)
  mvcgen [hwatchdog, hpublish, hwait, hrest]

/-- The loop from its turn `started` on. -/
theorem poll_cycles_accounted (failed_cycles : Nat) (last_slow : ℚ) {started turns : Nat}
    (hall : started + turns = n) :
    ⦃fun s => ⌜Accounted w cfg s₀ (Idle cfg failed_cycles last_slow started) s⌝⦄
    poll_cycles w cfg failed_cycles last_slow turns
    ⦃post⟨fun _ _ => ⌜False⌝, fun exit s => ⌜Ended w cfg s₀ n exit s.trace⌝⟩⦄ := by
  induction turns generalizing failed_cycles last_slow started with
  | zero =>
    obtain rfl : started = n := hall
    mvcgen [poll_cycles]
    case vc1 h => exact h.running
  | succ turns ih =>
    have hstop := @return_if_stopped_accounted w cfg s₀ n (Idle cfg failed_cycles last_slow started)
    have hpacks (cycle_start : ℚ) :=
      @poll_packs_accounted w cfg s₀ n failed_cycles (started + 1) cycle_start last_slow _ rfl
    mvcgen [poll_cycles, hstop, monotonic, log, hpacks]
    case vc2.succ.post.success.pre s h _ =>
      exact h.1.clock_read.cycle_started h.2 s.clock_reads rfl
    case vc3.succ.post.success.post.success started_s _ _ _ s h =>
      have hend := cycle_end_accounted (w.monotonic started_s.clock_reads)
        (fun failed_cycles => ih failed_cycles _ (by omega)) s h
      rwa [WP.bind] at hend

end

/-- However the polls come out, the poll loop ends only because the stop event was seen,
because a poll failed while the client reported no connection, or because the last
`max_failed_cycles` complete cycles had no successful poll. It lets none of the expected
errors escape, and starts no cycle and makes no poll when one of the reasons holds; so no more
than `max_failed_cycles` complete cycles in a row are without a success. -/
theorem poll_loop_gives_up (w : World) (cfg : BmsCfg) (s : ServiceState) (n : Nat)
    (hlimit : 1 ≤ cfg.max_failed_cycles) (htrace : s.trace = []) :
    ∃ exit s', (poll_loop w cfg n).run.run s = (.error exit, s') ∧
      EachAt (Told w cfg s) s'.trace ∧
      ¬ List.replicate (cfg.max_failed_cycles.toNat + 1) 0 <:+: completed_cycles cfg s'.trace ∧
      Leaves w cfg s n s'.trace exit := by
  have hidle : Accounted w cfg s (Idle cfg 0 0 0) s :=
    ⟨_, ⟨rfl, rfl, rfl, Silence.start (by omega)⟩, Going.start (by omega) htrace⟩
  have hrun := outcome_of_spec (@poll_cycles_accounted w cfg s n 0 0 0 n (Nat.zero_add n)) hidle
  cases hresult : (poll_loop w cfg n).run.run s with
  | mk r s' =>
    rw [← poll_loop, hresult] at hrun
    cases r with
    | ok _ => exact hrun.elim
    | error exit => exact ⟨exit, s', rfl, hrun⟩

/-- No pack answers, and the client says it is connected. -/
def zombie_world : World where
  monotonic k := k
  stop_is_set _ := false
  poll_pia _ _ := .error (.TimeoutError "")
  poll_pib _ _ := .error (.TimeoutError "")
  is_connected _ := true
  connects _ := true
  save_succeeds _ := true

/-- Seen for up to five cycles, the loop returns after two, with a reason. -/
theorem poll_loop_gives_up_zombie : ∃ s',
    (poll_loop zombie_world { max_failed_cycles := 2 } 5).run.run
      (ServiceState.start fresh_station) = (.error .returned, s') ∧
    GivesUp { max_failed_cycles := 2 } s'.trace ∧
    (tally { max_failed_cycles := 2 } s'.trace).started = 2 ∧
    completed_cycles { max_failed_cycles := 2 } s'.trace = [0, 0] := by
  obtain ⟨exit, s', hrun, -, -, hleaves⟩ := poll_loop_gives_up zombie_world
    { max_failed_cycles := 2 } (ServiceState.start fresh_station) 5 (by decide) rfl
  have hstate : s' = ((poll_loop zombie_world { max_failed_cycles := 2 } 5).run.run
      (ServiceState.start fresh_station)).2 := by
    rw [hrun]
  have hstarted : (tally { max_failed_cycles := 2 } s'.trace).started = 2 := by
    rw [hstate]
    decide +kernel
  have hcompleted : completed_cycles { max_failed_cycles := 2 } s'.trace = [0, 0] := by
    rw [hstate]
    decide +kernel
  cases exit with
  | returned => exact ⟨s', hrun, hleaves, hstarted, hcompleted⟩
  | raised e =>
    obtain ⟨-, hother, pack, ⟨-, hpoll⟩ | ⟨-, hpoll⟩⟩ := hleaves
    · obtain rfl := Except.error.inj hpoll
      cases hother
    · obtain rfl := Except.error.inj hpoll
      cases hother
  | running =>
    have hturns := hleaves.2.1
    rw [hstarted] at hturns
    cases hturns

end inverter_bridge.bms.service
