import InverterBridge.Daemon.Effects

open Python
open inverter_bridge.srne_map inverter_bridge.aggregator inverter_bridge.energy_integrator

namespace inverter_bridge.daemon

/-! ## Lengths of intervals -/

/-- The lengths of the consecutive intervals from `last` on. -/
def lengths_from (last : ℚ) : List ℚ → List ℚ
  | [] => []
  | time :: times => (time - last) :: lengths_from time times

/-- The lengths of the intervals between consecutive times, the first one empty. -/
def intervals : List ℚ → List ℚ
  | [] => []
  | first :: times => 0 :: lengths_from first times

theorem lengths_from_append_singleton (last : ℚ) (times : List ℚ) (time : ℚ) :
    lengths_from last (times ++ [time]) =
      lengths_from last times ++ [time - times.getLastD last] := by
  induction times generalizing last with
  | nil => rfl
  | cons t times ih =>
    rw [List.cons_append, lengths_from, ih, List.getLastD_cons]
    rfl

/-- Adjacent intervals add up to one. -/
theorem sum_lengths_from (last : ℚ) (times : List ℚ) :
    (lengths_from last times).sum = times.getLastD last - last := by
  induction times generalizing last with
  | nil => simp [lengths_from]
  | cons t times ih =>
    rw [lengths_from, List.sum_cons, ih, List.getLastD_cons]
    ring

theorem intervals_append_singleton (times : List ℚ) {time : ℚ}
    (hlast : ∀ last ∈ times.getLast?, last ≤ time) :
    intervals (times ++ [time]) = intervals times ++ [elapsed_since times.getLast? time] := by
  cases times with
  | nil => rfl
  | cons first times =>
    rw [List.getLast?_cons] at hlast ⊢
    have hnonneg : 0 ≤ time - times.getLast?.getD first := sub_nonneg.mpr (hlast _ rfl)
    rw [List.cons_append, intervals, lengths_from_append_singleton, List.getLastD_eq_getLast?]
    rw [elapsed_since, max_eq_right hnonneg]
    rfl

theorem sum_intervals {times : List ℚ} {first last : ℚ} (hfirst : times.head? = some first)
    (hlast : times.getLast? = some last) : (intervals times).sum = last - first := by
  cases times with
  | nil => cases hfirst
  | cons t times =>
    cases hfirst
    rw [List.getLast?_cons, Option.some_inj, ← List.getLastD_eq_getLast?] at hlast
    rw [intervals, List.sum_cons, sum_lengths_from, zero_add, hlast]

/-! ## The recorded times -/

/-- The `elapsed_s` values passed to `integrator.update`. -/
def elapsed_values (trace : List Event) : List ℚ :=
  trace.filterMap fun event =>
    match event with
    | .updated _ elapsed_s => some elapsed_s
    | _ => none

/-- The cycle times recorded. -/
def recorded_times (trace : List Event) : List ℚ :=
  trace.filterMap fun event =>
    match event with
    | .recorded now => some now
    | _ => none

/-- The integrated intervals are those between the recorded times, in order, the last of
which is the one in the state; no reading of the clock still to come is before any. -/
structure Timeline {N : Nat} (w : World N) (s : LoopState) : Prop where
  elapsed : elapsed_values s.trace = intervals (recorded_times s.trace)
  sorted : (recorded_times s.trace).Pairwise (· ≤ ·)
  last : s.last_hot_cycle_monotonic = (recorded_times s.trace).getLast?
  past : ∀ time ∈ recorded_times s.trace, ∀ k, s.monotonic_reads ≤ k → time ≤ w.monotonic k

variable {N : Nat}

theorem Timeline.of_eq {w : World N} {s s' : LoopState} (htimeline : Timeline w s)
    (helapsed : elapsed_values s'.trace = elapsed_values s.trace)
    (htimes : recorded_times s'.trace = recorded_times s.trace)
    (hlast : s'.last_hot_cycle_monotonic = s.last_hot_cycle_monotonic)
    (hreads : s.monotonic_reads ≤ s'.monotonic_reads) : Timeline w s' := by
  obtain ⟨helapsed', hsorted, hlast', hpast⟩ := htimeline
  constructor
  · rw [helapsed, helapsed', htimes]
  · rwa [htimes]
  · rw [hlast, hlast', htimes]
  · rw [htimes]
    exact fun time htime k hk => hpast time htime k (hreads.trans hk)

/-- Of all effects, only an integration adds an interval: the one since the last. -/
theorem Timeline.effect {w : World N} {s s' : LoopState} (hclock : Monotone w.monotonic)
    (htimeline : Timeline w s) (heffect : Effect w s s') : Timeline w s' := by
  cases heffect with
  | clock => exact htimeline.of_eq rfl rfl rfl (Nat.le_succ _)
  | polled | client | cold_done => exact htimeline.of_eq rfl rfl rfl le_rfl
  | published value hkey | saved =>
    refine htimeline.of_eq ?_ ?_ rfl le_rfl
    · simp [elapsed_values]
    · simp [recorded_times]
  | updated hpoll hout =>
    obtain ⟨helapsed, hsorted, hlast, hpast⟩ := htimeline
    have hnow := fun time htime => hpast time htime _ le_rfl
    have htimes : ∀ aggregated elapsed_s now, recorded_times (s.trace ++
        [Event.updated aggregated elapsed_s] ++ [.recorded now]) =
        recorded_times s.trace ++ [now] := by
      intros
      simp [recorded_times]
    have hvalues : ∀ aggregated elapsed_s now, elapsed_values (s.trace ++
        [Event.updated aggregated elapsed_s] ++ [.recorded now]) =
        elapsed_values s.trace ++ [elapsed_s] := by
      intros
      simp [elapsed_values]
    constructor
    · rw [hvalues, htimes, helapsed, hlast]
      rw [intervals_append_singleton]
      exact fun last hlast => hnow last (List.mem_of_getLast? hlast)
    · rw [htimes, List.pairwise_append]
      refine ⟨hsorted, List.pairwise_singleton _ _, fun time htime now hmem => ?_⟩
      rw [List.mem_singleton.mp hmem]
      exact hnow time htime
    · rw [htimes, List.getLast?_append]
      rfl
    · rw [htimes]
      intro time htime k hk
      obtain hold | hnew := List.mem_append.mp htime
      · exact hpast time hold k ((Nat.le_succ _).trans hk)
      · rw [List.mem_singleton.mp hnew]
        exact hclock ((Nat.le_succ _).trans hk)

/-- The integrated intervals are consecutive and do not overlap, whatever raised in the
hot and cold cycles: they add up to the last recorded cycle time minus the first. -/
theorem MainLoop.intervals_contiguous (self : MainLoop) (w : World N) (integrator : EnergyIntegrator)
    (n : Nat) (hclock : Monotone w.monotonic) :
    let s := self.after w integrator n
    elapsed_values s.trace = intervals (recorded_times s.trace) ∧
      (recorded_times s.trace).Pairwise (· ≤ ·) ∧
      s.last_hot_cycle_monotonic = (recorded_times s.trace).getLast? ∧
      ∀ first last, (recorded_times s.trace).head? = some first →
        s.last_hot_cycle_monotonic = some last →
        (elapsed_values s.trace).sum = last - first := by
  have htimeline : Timeline w (self.after w integrator n) :=
    (self.ran_after w integrator n).preserves ⟨rfl, List.Pairwise.nil, rfl, nofun⟩
      (Timeline.effect hclock)
  refine ⟨htimeline.elapsed, htimeline.sorted, htimeline.last, fun first last hfirst hlast => ?_⟩
  rw [htimeline.elapsed]
  exact sum_intervals hfirst (htimeline.last.symm.trans hlast)

/-- A world whose second poll raises, as does a later publication, behind an update. -/
def failing_world : World 1 where
  monotonic k := k
  poll k _ := if k = 1 then .error .library else .ok ⟨[∅], [0], "\x7b\x7d", rfl, rfl⟩
  publish k := if k = 25 then some .library else none
  crc_fails_total _ := 0

theorem MainLoop.intervals_contiguous_failing :
    (elapsed_values ((⟨.finite 600, 0⟩ : MainLoop).after failing_world .zero 5).trace).sum =
      24 - 3 :=
  (MainLoop.intervals_contiguous ⟨.finite 600, 0⟩ failing_world .zero 5 Nat.mono_cast).2.2.2 3 24
    (by decide +kernel) (by decide +kernel)

end inverter_bridge.daemon
