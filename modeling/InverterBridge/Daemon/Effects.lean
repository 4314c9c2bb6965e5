import Mathlib
import InverterBridge.Daemon.MainLoop
import InverterBridge.Lib.Triple

open Python Std.Do
open inverter_bridge.srne_map inverter_bridge.aggregator inverter_bridge.energy_integrator

set_option mvcgen.warning false

namespace inverter_bridge.daemon

variable {N : Nat}

/-- A key the main thread has a reason to publish. -/
inductive Publishes (w : World N) : String → Prop where
  | status {k : Nat} {tier : BlockTier} {result : PollResult N} {i : Nat}
    (hpoll : w.poll k tier = .ok result) (hi : i < N) :
    Publishes w (inverter_key (i + 1) "status")
  | value {k : Nat} {tier : BlockTier} {result : PollResult N} {out : Out} {key : String}
    (hpoll : w.poll k tier = .ok result) (hout : aggregate_inverters result.per_inverter = .ok out)
    (hkey : key ∈ out) : Publishes w key
  | energy (wh_key : WhKey) : Publishes w (WH_TO_KWH_KEY wh_key)
  | diagnostic {key : String} (hkey : key ∈ ["_meta/poll_duration_ms",
      "_meta/poll_duration_per_inverter_ms", "_meta/crc_fails_total", "_meta/uptime_s"]) :
    Publishes w key

/-- An exception that a poll or the MQTT client raises, or the aggregation of a poll. -/
inductive World.Raises (w : World N) : Raised → Prop where
  | poll {k : Nat} {tier : BlockTier} {e : Raised} (hpoll : w.poll k tier = .error e) : w.Raises e
  | publish {k : Nat} {e : Raised} (hpublish : w.publish k = some e) : w.Raises e
  | aggregate {k : Nat} {tier : BlockTier} {result : PollResult N} {e : PyError}
    (hpoll : w.poll k tier = .ok result)
    (herror : aggregate_inverters result.per_inverter = .error e) : w.Raises (.builtin e)

/-- What the code of the main thread can do to its state, one thing at a time. -/
inductive Effect (w : World N) (s : LoopState) : LoopState → Prop where
  | clock : Effect w s { s with monotonic_reads := s.monotonic_reads + 1 }
  | polled : Effect w s { s with polls := s.polls + 1 }
  | client : Effect w s { s with client_calls := s.client_calls + 1 }
  | published {key : String} (value : Scalar) (hkey : Publishes w key) :
    Effect w s { s with trace := s.trace ++ [.published key value] }
  /-- A hot cycle reads the time, integrates and records the time. -/
  | updated {k : Nat} {result : PollResult N} {out : Out}
    (hpoll : w.poll k .HOT = .ok result)
    (hout : aggregate_inverters result.per_inverter = .ok out) :
    Effect w s { s with
      monotonic_reads := s.monotonic_reads + 1
      integrator := s.integrator.charged ⟨readings out,
        .finite (elapsed_since s.last_hot_cycle_monotonic (w.monotonic s.monotonic_reads))⟩
      last_hot_cycle_monotonic := some (w.monotonic s.monotonic_reads)
      trace := s.trace ++ [.updated (readings out)
        (elapsed_since s.last_hot_cycle_monotonic (w.monotonic s.monotonic_reads))] ++
        [.recorded (w.monotonic s.monotonic_reads)] }
  | saved : Effect w s { s with trace := s.trace ++ [.saved] }
  | cold_done (last_cold : ℚ) : Effect w s { s with last_cold }

/-- The code has run from `s₀` to `s`. -/
def Ran (w : World N) (s₀ s : LoopState) : Prop := Relation.ReflTransGen (Effect w) s₀ s

variable {w : World N} {s₀ : LoopState}

theorem Ran.step {s s' : LoopState} (h : Ran w s₀ s) (heffect : Effect w s s') : Ran w s₀ s' :=
  Relation.ReflTransGen.tail h heffect

theorem Ran.preserves {s : LoopState} {P : LoopState → Prop} (h : Ran w s₀ s) (hstart : P s₀)
    (heffect : ∀ {s s' : LoopState}, P s → Effect w s s' → P s') : P s := by
  induction h with
  | refl => exact hstart
  | tail _ hstep ih => exact heffect ih hstep

/-! ## The aggregated dict -/

theorem mem_readings {out : Out} {k : String} : k ∈ readings out ↔ k ∈ out := by
  have hkeys :
      (out.entries.map fun entry => (entry.1, scalar_of entry.2)).map Prod.fst = out.keys := by
    rw [List.map_map]
    rfl
  rw [readings, Dict.mem_assign, hkeys, ← AList.mem_keys]
  simp

theorem lookup_readings (out : Out) (k : String) :
    (readings out).lookup k = (out.lookup k).map scalar_of := by
  cases hlookup : out.lookup k with
  | none =>
    rw [AList.lookup_eq_none] at hlookup
    rw [AList.lookup_eq_none.mpr fun hmem => hlookup (mem_readings.mp hmem)]
    rfl
  | some v =>
    apply Dict.lookup_assign_of_mem
    · rw [List.map_map]
      exact out.nodupKeys
    · exact List.mem_map.mpr ⟨⟨k, v⟩, AList.mem_lookup_iff.mp hlookup, rfl⟩

/-- The aggregator gives the integrator floats and texts only. -/
theorem listed_readings (out : Out) (elapsed_s : PyFloat) :
    Call.Listed ⟨readings out, elapsed_s⟩ := by
  intro key _ n
  rw [lookup_readings]
  cases out.lookup key with
  | none => nofun
  | some v => cases v <;> nofun

theorem key_of_mem_entries {d : Dict String Scalar} {entry : String × Scalar}
    (hentry : entry ∈ d.entries.map fun entry => (entry.1, entry.2)) : entry.1 ∈ d := by
  obtain ⟨e, he, rfl⟩ := List.mem_map.mp hentry
  exact AList.mem_keys.mpr (List.mem_map.mpr ⟨e, he, rfl⟩)

section

variable (s₀ : LoopState)

theorem client_publish_spec :
    ⦃fun s => ⌜Ran w s₀ s⌝⦄ client_publish w
    ⦃post⟨fun _ s => ⌜Ran w s₀ s⌝, fun e s => ⌜Ran w s₀ s ∧ w.Raises e⌝⟩⦄ := by
  mvcgen [client_publish]
  case h_1 hran _ hpublish => exact ⟨Ran.step hran .client, .publish hpublish⟩
  case h_2 hran _ => exact Ran.step hran .client

theorem monotonic_spec :
    ⦃fun s => ⌜Ran w s₀ s⌝⦄ monotonic w
    ⦃post⟨fun _ s => ⌜Ran w s₀ s⌝, fun _ _ => ⌜False⌝⟩⦄ := by
  mvcgen [monotonic]
  exact Ran.step ‹_› .clock

theorem publish_value_spec (key : String) (value : Scalar) (hkey : Publishes w key) :
    ⦃fun s => ⌜Ran w s₀ s⌝⦄ publish_value w key value
    ⦃post⟨fun _ s => ⌜Ran w s₀ s⌝, fun e s => ⌜Ran w s₀ s ∧ w.Raises e⌝⟩⦄ := by
  have hclient := client_publish_spec (w := w) s₀
  mvcgen [publish_value, hclient]
  exact Ran.step ‹_› (.published value hkey)

theorem publish_values_spec {kv : List (String × Scalar)}
    (hkeys : ∀ entry ∈ kv, Publishes w entry.1) :
    ⦃fun s => ⌜Ran w s₀ s⌝⦄ publish_values w kv
    ⦃post⟨fun _ s => ⌜Ran w s₀ s⌝, fun e s => ⌜Ran w s₀ s ∧ w.Raises e⌝⟩⦄ := by
  have hvalue := @publish_value_spec N w s₀
  mvcgen [publish_values, hvalue] invariants
  · post⟨fun _ s => ⌜Ran w s₀ s⌝, fun e s => ⌜Ran w s₀ s ∧ w.Raises e⌝⟩
  case hkey hsplit _ _ _ =>
    apply hkeys
    rw [hsplit]
    simp

theorem poll_all_parallel_spec (tier : BlockTier) :
    ⦃fun s => ⌜Ran w s₀ s⌝⦄ poll_all_parallel w tier
    ⦃post⟨fun result s => ⌜Ran w s₀ s ∧ ∃ k, w.poll k tier = .ok result⌝,
      fun e s => ⌜Ran w s₀ s ∧ w.Raises e⌝⟩⦄ := by
  have hvalue := @publish_value_spec N w s₀
  mvcgen [poll_all_parallel, hvalue] invariants
  · post⟨fun _ s => ⌜Ran w s₀ s⌝, fun e s => ⌜Ran w s₀ s ∧ w.Raises e⌝⟩
  case h_1 hran _ hpoll => exact ⟨Ran.step hran .polled, .poll hpoll⟩
  case hkey result hpoll _ cur _ hsplit _ _ _ =>
    have hmem : cur ∈ result.fails_snapshot.zipIdx 1 := by
      rw [hsplit]
      simp
    have hcur := List.mem_zipIdx hmem
    obtain ⟨i, hi⟩ : ∃ i, cur.2 = i + 1 := ⟨cur.2 - 1, by omega⟩
    rw [hi]
    exact .status hpoll (by rw [← result.length_fails_snapshot]; omega)
  case pre => exact Ran.step ‹_› .polled
  case success hpoll _ _ h => exact ⟨h, _, hpoll⟩

/-- The integration raises nothing, and is one effect. -/
theorem integrate_spec {result : PollResult N} {out : Out}
    (hpoll : ∃ k, w.poll k .HOT = .ok result)
    (hout : aggregate_inverters result.per_inverter = .ok out) :
    ⦃fun s => ⌜Ran w s₀ s⌝⦄ integrate w (readings out)
    ⦃post⟨fun aggregated s => ⌜Ran w s₀ s ∧ ∀ key ∈ aggregated, Publishes w key⌝,
      fun _ _ => ⌜False⌝⟩⦄ := by
  obtain ⟨k, hpoll⟩ := hpoll
  mvcgen [integrate, monotonic, integrator_update, builtin]
  case vc1 hran _ _ _ hupdate _ =>
    cases (EnergyIntegrator.update_eq _ (listed_readings out _)).symm.trans hupdate
    refine ⟨Ran.step hran (.updated hpoll hout), fun key hkey => ?_⟩
    cases Dict.mem_assign.mp hkey with
    | inl hold => exact .value hpoll hout (mem_readings.mp hold)
    | inr hnew =>
      obtain ⟨entry, hentry, rfl⟩ := List.mem_map.mp hnew
      obtain ⟨shown, hshown, rfl⟩ := List.mem_map.mp hentry
      obtain ⟨wh_key, -, rfl⟩ := List.mem_map.mp hshown
      exact .energy wh_key
  case vc2 hupdate =>
    cases (EnergyIntegrator.update_eq _ (listed_readings out _)).symm.trans hupdate

theorem run_one_cold_cycle_spec :
    ⦃fun s => ⌜Ran w s₀ s⌝⦄ run_one_cold_cycle w
    ⦃post⟨fun _ s => ⌜Ran w s₀ s⌝, fun e s => ⌜Ran w s₀ s ∧ w.Raises e⌝⟩⦄ := by
  have hpoll := @poll_all_parallel_spec N w s₀
  have hvalues := @publish_values_spec N w s₀
  mvcgen [run_one_cold_cycle, hpoll, hvalues, save_energy_state, builtin]
  case hkeys hpolled out hout _ _ _ =>
    obtain ⟨-, k, hpolled⟩ := hpolled
    exact fun entry hentry => .value hpolled hout (mem_readings.mp (key_of_mem_entries hentry))
  case pre hpolled _ _ _ _ _ => exact hpolled.1
  case success hran _ => exact Ran.step hran .saved
  case isFalse hpolled _ _ _ _ _ _ => exact Ran.step hpolled.1 .saved
  case h_2 hpolled e herror =>
    obtain ⟨hran, k, hpolled⟩ := hpolled
    exact ⟨hran, .aggregate hpolled herror⟩

theorem publish_meta_spec (self : MainLoop) (cycle_start : ℚ) (durations_json : String) :
    ⦃fun s => ⌜Ran w s₀ s⌝⦄ self.publish_meta w cycle_start durations_json
    ⦃post⟨fun _ s => ⌜Ran w s₀ s⌝, fun e s => ⌜Ran w s₀ s ∧ w.Raises e⌝⟩⦄ := by
  have hclock := @monotonic_spec N w s₀
  have hvalue := @publish_value_spec N w s₀
  mvcgen [MainLoop.publish_meta, hclock, hvalue]
  all_goals
    intros
    exact .diagnostic (by simp)

theorem run_one_hot_cycle_spec (self : MainLoop) :
    ⦃fun s => ⌜Ran w s₀ s⌝⦄ self.run_one_hot_cycle w
    ⦃post⟨fun _ s => ⌜Ran w s₀ s⌝, fun e s => ⌜Ran w s₀ s ∧ w.Raises e⌝⟩⦄ := by
  have hclock := @monotonic_spec N w s₀
  have hpoll := @poll_all_parallel_spec N w s₀
  have hintegrate := @integrate_spec N w s₀
  have hvalues := @publish_values_spec N w s₀
  have hclient := @client_publish_spec N w s₀
  have hmeta := @publish_meta_spec N w s₀
  mvcgen [MainLoop.run_one_hot_cycle, hclock, hpoll, hintegrate, hvalues, hclient, hmeta, builtin]
  case hpoll hpolled _ _ => exact hpolled.2
  case hkeys haggregated =>
    exact fun entry hentry => haggregated.2 entry.1 (key_of_mem_entries hentry)
  case h_1.pre hpolled _ _ => exact hpolled.1
  case success.pre haggregated => exact haggregated.1
  case h_2 hpolled e herror =>
    obtain ⟨hran, k, hpolled⟩ := hpolled
    exact ⟨hran, .aggregate hpolled herror⟩

/-- A turn raises nothing. -/
theorem turn_spec (self : MainLoop) :
    ⦃fun s => ⌜Ran w s₀ s⌝⦄ self.turn w
    ⦃post⟨fun _ s => ⌜Ran w s₀ s⌝, fun _ _ => ⌜False⌝⟩⦄ := by
  have hclock := @monotonic_spec N w s₀
  have hhot := @run_one_hot_cycle_spec N w s₀
  have hcold := @run_one_cold_cycle_spec N w s₀
  mvcgen [MainLoop.turn, hclock, hhot, hcold]
  case success.pre last_cold _ hran _ => exact Ran.step hran (.cold_done last_cold)
  all_goals exact And.left ‹_›

theorem turns_spec (self : MainLoop) (n : Nat) :
    ⦃fun s => ⌜Ran w s₀ s⌝⦄ self.turns w n
    ⦃post⟨fun _ s => ⌜Ran w s₀ s⌝, fun _ _ => ⌜False⌝⟩⦄ := by
  have hturn := @turn_spec N w s₀
  induction n with
  | zero => mvcgen [MainLoop.turns]
  | succ n ih => mvcgen [MainLoop.turns, hturn, ih]

theorem loop_forever_spec (self : MainLoop) (n : Nat) :
    ⦃fun s => ⌜Ran w s₀ s⌝⦄ self.loop_forever w n
    ⦃post⟨fun _ s => ⌜Ran w s₀ s⌝, fun _ _ => ⌜False⌝⟩⦄ := by
  have hclock := @monotonic_spec N w s₀
  have hturns := @turns_spec N w s₀
  mvcgen [MainLoop.loop_forever, hclock, hturns]
  case success last_cold _ hran _ => exact Ran.step hran (.cold_done last_cold)

end

/-- The main thread does nothing but these effects. -/
theorem MainLoop.ran_after (self : MainLoop) (w : World N) (integrator : EnergyIntegrator)
    (n : Nat) :
    Ran w (LoopState.start integrator) (self.after w integrator n) := by
  have hrun := outcome_of_spec (loop_forever_spec (w := w) (LoopState.start integrator) self n)
    Relation.ReflTransGen.refl
  unfold MainLoop.after
  cases hresult : (self.loop_forever w n).run.run (LoopState.start integrator) with
  | mk r s =>
    rw [hresult] at hrun
    cases r with
    | ok _ => exact hrun
    | error _ => exact hrun.elim

/-- Where an event comes from: a published key is one of the above, and an integrated
dict was aggregated from a hot poll. -/
def Event.Explained (w : World N) : Event → Prop
  | .published key _ => Publishes w key
  | .updated aggregated _ => ∃ k result out, w.poll k .HOT = .ok result ∧
    aggregate_inverters result.per_inverter = .ok out ∧ aggregated = readings out
  | .recorded _ | .saved => True

theorem MainLoop.explained_of_mem_trace (self : MainLoop) {w : World N}
    {integrator : EnergyIntegrator} {n : Nat} {event : Event}
    (hmem : event ∈ (self.after w integrator n).trace) : event.Explained w := by
  have hall := (self.ran_after w integrator n).preserves
    (P := fun s => ∀ event ∈ s.trace, event.Explained w) nofun ?_
  · exact hall event hmem
  · intro s s' hs heffect
    cases heffect with
    | clock | polled | client | cold_done => exact hs
    | published value hkey =>
      rw [List.forall_mem_append]
      exact ⟨hs, List.forall_mem_singleton.mpr hkey⟩
    | @updated k result out hpoll hout =>
      rw [List.forall_mem_append, List.forall_mem_append]
      exact ⟨⟨hs, List.forall_mem_singleton.mpr ⟨k, result, out, hpoll, hout, rfl⟩⟩,
        List.forall_mem_singleton.mpr trivial⟩
    | saved =>
      rw [List.forall_mem_append]
      exact ⟨hs, List.forall_mem_singleton.mpr trivial⟩

end inverter_bridge.daemon
