import InverterBridge.Bms.PollEffects
import InverterBridge.Lib.Trace

open Python Trace
open inverter_bridge.config inverter_bridge.bms.octopus_protocol inverter_bridge.bms.ble_client

namespace inverter_bridge.bms.service

/-! ## What was stored -/

/-- The reading of `pack` that a successful PIA poll stores, with its time. -/
def pia_of (pack : Nat) : Event → Option (PiaData × ℚ)
  | .pia_stored p data seen_t => if p = pack then some (data, seen_t) else none
  | _ => none

def pib_of (pack : Nat) : Event → Option (PibData × ℚ)
  | .pib_stored p data seen_t => if p = pack then some (data, seen_t) else none
  | _ => none

/-- The readings of the successful PIA polls of `pack`, in order. -/
def pia_readings (trace : List Event) (pack : Nat) : List (PiaData × ℚ) :=
  trace.filterMap (pia_of pack)

def pib_readings (trace : List Event) (pack : Nat) : List (PibData × ℚ) :=
  trace.filterMap (pib_of pack)

/-- The caches hold the latest of the readings of each pack. -/
structure Cached {δ : Type} (state : Dict Nat δ) (seen_t : Dict Nat ℚ)
    (readings : Nat → List (δ × ℚ)) : Prop where
  data : ∀ pack, state.lookup pack = (readings pack).getLast?.map Prod.fst
  time : ∀ pack, seen_t.lookup pack = (readings pack).getLast?.map Prod.snd

theorem Cached.insert {δ : Type} {state : Dict Nat δ} {seen_t : Dict Nat ℚ}
    {readings readings' : Nat → List (δ × ℚ)} (h : Cached state seen_t readings) {pack : Nat}
    {data : δ} {now : ℚ}
    (hnew : ∀ p, readings' p = readings p ++ if pack = p then [(data, now)] else []) :
    Cached (state.insert pack data) (seen_t.insert pack now) readings' := by
  constructor
  · intro p
    rw [hnew]
    split_ifs with hp
    · subst hp
      rw [AList.lookup_insert, List.getLast?_append]
      rfl
    · rw [AList.lookup_insert_ne (Ne.symm hp), List.append_nil, h.data]
  · intro p
    rw [hnew]
    split_ifs with hp
    · subst hp
      rw [AList.lookup_insert, List.getLast?_append]
      rfl
    · rw [AList.lookup_insert_ne (Ne.symm hp), List.append_nil, h.time]

/-- Of the cached data, those that are fresh at `now` are the latest readings of their packs,
read no longer ago than `cutoff`. -/
theorem Cached.lookup_filter {δ : Type} {state : Dict Nat δ} {seen_t : Dict Nat ℚ}
    {readings : Nat → List (δ × ℚ)} (h : Cached state seen_t readings) {now : ℚ}
    {cutoff : PyFloat} {pack : Nat} {data : δ} :
    (state.filter fun p => PyFloat.finite (now - (seen_t.lookup p).getD 0) ≤ cutoff).lookup pack =
        some data ↔
      ∃ seen, (readings pack).getLast? = some (data, seen) ∧ PyFloat.finite (now - seen) ≤ cutoff := by
  rw [Dict.lookup_filter, h.data, h.time]
  cases hlast : (readings pack).getLast? with
  | none => simp
  | some reading =>
    obtain ⟨data', seen⟩ := reading
    simp only [Option.map_some, Option.getD_some, decide_eq_true_eq, Option.some.injEq,
      Prod.mk.injEq]
    split_ifs with hfresh
    · constructor
      · intro hdata
        exact ⟨seen, ⟨Option.some.inj hdata, rfl⟩, hfresh⟩
      · rintro ⟨_, ⟨rfl, rfl⟩, -⟩
        rfl
    · refine iff_of_false nofun ?_
      rintro ⟨_, ⟨-, rfl⟩, hle⟩
      exact hfresh hle

/-! ## What is aggregated -/

/-- At the time `now`, after `before`, the packs handed to the aggregation are those with a
recent reading, each with its latest one. -/
structure FreshAt (cfg : BmsCfg) (before : List Event) (now : ℚ) (fresh_pia : Dict Nat PiaData)
    (fresh_pib : Dict Nat PibData) : Prop where
  /-- A pack whose PIA data counts was polled with success in the last
  `stale_pack_timeout_s`, and counts with the latest data. -/
  pia_recent : ∀ pack data, fresh_pia.lookup pack = some data →
    ∃ seen_t, (pia_readings before pack).getLast? = some (data, seen_t) ∧ seen_t ≤ now ∧
      PyFloat.finite (now - seen_t) ≤ cfg.stale_pack_timeout_s
  /-- Every pack with such a poll counts. -/
  pia_all : ∀ pack data seen_t, .pia_stored pack data seen_t ∈ before →
    PyFloat.finite (now - seen_t) ≤ cfg.stale_pack_timeout_s → pack ∈ fresh_pia
  /-- The cell temperatures count by the time of the PIB polls. -/
  pib_recent : ∀ pack data, fresh_pib.lookup pack = some data →
    ∃ seen_t, (pib_readings before pack).getLast? = some (data, seen_t) ∧ seen_t ≤ now ∧
      PyFloat.finite (now - seen_t) ≤ cfg.poll_slow_interval_s + cfg.poll_slow_interval_s

/-- What the events before it say for an event. -/
def Justified (w : World) (cfg : BmsCfg) (before : List Event) : Event → Prop
  | .pia_stored pack data _ => ∃ k, w.poll_pia k pack = .ok data
  | .aggregated now fresh_pia fresh_pib => FreshAt cfg before now fresh_pia fresh_pib
  | .integrated call => Handed before call
  | .excluded pack => ∀ earlier between, before = earlier ++ .excluded pack :: between →
    ∃ data seen_t, .pia_stored pack data seen_t ∈ between
  | _ => True

/-- The time of a reading. -/
def Event.seen_t : Event → Option ℚ
  | .pia_stored _ _ seen_t | .pib_stored _ _ seen_t => some seen_t
  | _ => none

/-- The caches follow the trace, and each event of it is justified. -/
structure Tracked (w : World) (cfg : BmsCfg) (s : ServiceState) : Prop where
  pia : Cached s.pia_state s.pia_seen_t (pia_readings s.trace)
  pib : Cached s.pib_state s.pib_seen_t (pib_readings s.trace)
  sorted : ∀ pack, ((pia_readings s.trace pack).map Prod.snd).Pairwise (· ≤ ·)
  past : ∀ event ∈ s.trace, ∀ seen_t ∈ event.seen_t, ∀ k, s.clock_reads ≤ k →
    seen_t ≤ w.monotonic k
  /-- A pack that was warned about still is, or was heard of since. -/
  warned : ∀ before pack later, s.trace = before ++ .excluded pack :: later →
    pack ∈ s.stale_warned ∨ ∃ data seen_t, .pia_stored pack data seen_t ∈ later
  justified : EachAt (Justified w cfg) s.trace

variable {w : World} {cfg : BmsCfg} {s : ServiceState}

theorem mem_pia_readings {trace : List Event} {pack : Nat} {data : PiaData} {seen_t : ℚ} :
    (data, seen_t) ∈ pia_readings trace pack ↔ .pia_stored pack data seen_t ∈ trace := by
  rw [pia_readings, List.mem_filterMap]
  constructor
  · rintro ⟨event, hmem, heq⟩
    cases event with
    | pia_stored p d t =>
      simp only [pia_of, Option.ite_none_right_eq_some, Option.some.injEq, Prod.mk.injEq] at heq
      obtain ⟨rfl, rfl, rfl⟩ := heq
      exact hmem
    | _ => cases heq
  · intro hmem
    exact ⟨_, hmem, if_pos rfl⟩

theorem mem_pib_readings {trace : List Event} {pack : Nat} {data : PibData} {seen_t : ℚ} :
    (data, seen_t) ∈ pib_readings trace pack ↔ .pib_stored pack data seen_t ∈ trace := by
  rw [pib_readings, List.mem_filterMap]
  constructor
  · rintro ⟨event, hmem, heq⟩
    cases event with
    | pib_stored p d t =>
      simp only [pib_of, Option.ite_none_right_eq_some, Option.some.injEq, Prod.mk.injEq] at heq
      obtain ⟨rfl, rfl, rfl⟩ := heq
      exact hmem
    | _ => cases heq
  · intro hmem
    exact ⟨_, hmem, if_pos rfl⟩

theorem pia_of_eq_none {event : Event} (htime : event.seen_t = none) (pack : Nat) :
    pia_of pack event = none := by
  cases event with
  | pia_stored p data seen_t => cases htime
  | _ => rfl

theorem pib_of_eq_none {event : Event} (htime : event.seen_t = none) (pack : Nat) :
    pib_of pack event = none := by
  cases event with
  | pib_stored p data seen_t => cases htime
  | _ => rfl

theorem Tracked.clock_read (h : Tracked w cfg s) : Tracked w cfg s.clock_read :=
  ⟨h.pia, h.pib, h.sorted, fun event hevent t ht k hk => h.past event hevent t ht k (by
    simp only [ServiceState.clock_read] at hk; omega), h.warned, h.justified⟩

/-- The readings so far are not after the next one of the clock. -/
theorem Tracked.le_next (h : Tracked w cfg s) {event : Event} (hevent : event ∈ s.trace)
    {seen_t : ℚ} (htime : event.seen_t = some seen_t) : seen_t ≤ w.monotonic s.clock_reads :=
  h.past event hevent seen_t htime _ le_rfl

/-- The stored times are not after the later readings of the clock: with one event more. -/
theorem Tracked.past_append (h : Tracked w cfg s) {event : Event} {reads : Nat}
    (hreads : s.clock_reads ≤ reads)
    (hevent : ∀ seen_t ∈ event.seen_t, ∀ k, reads ≤ k → seen_t ≤ w.monotonic k) :
    ∀ e ∈ s.trace ++ [event], ∀ seen_t ∈ e.seen_t, ∀ k, reads ≤ k → seen_t ≤ w.monotonic k := by
  refine List.forall_mem_append.mpr ⟨?_, List.forall_mem_singleton.mpr hevent⟩
  exact fun e he seen_t ht k hk => h.past e he seen_t ht k (hreads.trans hk)

/-- The packs warned about: with one event more, which may warn, or hear of a pack. -/
theorem Tracked.warned_append (h : Tracked w cfg s) {event : Event} {stale_warned : Finset Nat}
    (hkept : ∀ pack ∈ s.stale_warned,
      pack ∈ stale_warned ∨ ∃ data seen_t, event = .pia_stored pack data seen_t)
    (hnew : ∀ pack, event = .excluded pack → pack ∈ stale_warned) :
    ∀ before pack later, s.trace ++ [event] = before ++ .excluded pack :: later →
      pack ∈ stale_warned ∨ ∃ data seen_t, .pia_stored pack data seen_t ∈ later := by
  intro before pack later heq
  obtain ⟨later', rfl, htrace⟩ | ⟨-, -, hexcluded⟩ := append_singleton_eq_iff.mp heq
  · obtain hwarned | ⟨data, seen_t, hmem⟩ := h.warned before pack later' htrace
    · refine (hkept pack hwarned).imp_right ?_
      rintro ⟨data, seen_t, rfl⟩
      exact ⟨data, seen_t, List.mem_append_right _ (List.mem_singleton_self _)⟩
    · exact .inr ⟨data, seen_t, List.mem_append_left _ hmem⟩
  · exact .inl (hnew pack hexcluded.symm)

/-- An event that stores nothing leaves the readings alone. -/
theorem readings_of_seen_t_none {event : Event} (htime : event.seen_t = none) :
    pia_readings (s.trace ++ [event]) = pia_readings s.trace ∧
      pib_readings (s.trace ++ [event]) = pib_readings s.trace :=
  ⟨funext fun pack => filterMap_append_of_eq_none (pia_of_eq_none htime pack),
    funext fun pack => filterMap_append_of_eq_none (pib_of_eq_none htime pack)⟩

/-- An event that stores nothing and warns of nothing. -/
theorem Tracked.logged (h : Tracked w cfg s) (event : Event) (htime : event.seen_t = none)
    (hwarns : ∀ pack, event ≠ .excluded pack) (hevent : Justified w cfg s.trace event) :
    Tracked w cfg (s.logged event) := by
  obtain ⟨hpia, hpib⟩ := @readings_of_seen_t_none s event htime
  constructor
  · exact hpia ▸ h.pia
  · exact hpib ▸ h.pib
  · exact hpia ▸ h.sorted
  · exact h.past_append le_rfl (by simp [htime])
  · exact h.warned_append (fun _ => .inl) fun pack hexcluded => absurd hexcluded (hwarns pack)
  · exact eachAt_append_singleton.mpr ⟨h.justified, hevent⟩

theorem pia_readings_pia_stored (trace : List Event) (pack : Nat) (pia : PiaData) (seen_t : ℚ)
    (p : Nat) : pia_readings (trace ++ [.pia_stored pack pia seen_t]) p =
      pia_readings trace p ++ if pack = p then [(pia, seen_t)] else [] := by
  refine filterMap_append_singleton.trans (congrArg _ ?_)
  by_cases hp : pack = p <;> simp [pia_of, hp]

theorem pib_readings_pia_stored (trace : List Event) (pack : Nat) (pia : PiaData) (seen_t : ℚ) :
    pib_readings (trace ++ [.pia_stored pack pia seen_t]) = pib_readings trace :=
  funext fun _ => filterMap_append_of_eq_none rfl

theorem pia_readings_pib_stored (trace : List Event) (pack : Nat) (pib : PibData) (seen_t : ℚ) :
    pia_readings (trace ++ [.pib_stored pack pib seen_t]) = pia_readings trace :=
  funext fun _ => filterMap_append_of_eq_none rfl

theorem pib_readings_pib_stored (trace : List Event) (pack : Nat) (pib : PibData) (seen_t : ℚ)
    (p : Nat) : pib_readings (trace ++ [.pib_stored pack pib seen_t]) p =
      pib_readings trace p ++ if pack = p then [(pib, seen_t)] else [] := by
  refine filterMap_append_singleton.trans (congrArg _ ?_)
  by_cases hp : pack = p <;> simp [pib_of, hp]

/-- A stored PIA reading is the latest one of its pack. -/
theorem Tracked.with_pia (hclock : Monotone w.monotonic) (h : Tracked w cfg s) {k pack : Nat}
    {pia : PiaData} (hpoll : w.poll_pia k pack = .ok pia) :
    Tracked w cfg (s.clock_read.with_pia pack pia (w.monotonic s.clock_reads)) := by
  have hpia := pia_readings_pia_stored s.trace pack pia (w.monotonic s.clock_reads)
  have hpib := pib_readings_pia_stored s.trace pack pia (w.monotonic s.clock_reads)
  constructor
  · exact h.pia.insert hpia
  · exact hpib ▸ h.pib
  · intro p
    refine (congrArg (fun l => (l.map Prod.snd).Pairwise (· ≤ ·)) (hpia p)).mpr ?_
    rw [List.map_append, List.pairwise_append]
    refine ⟨h.sorted p, by split_ifs <;> simp, ?_⟩
    intro t ht now hnow
    obtain ⟨⟨data, t'⟩, hmem, rfl⟩ := List.mem_map.mp ht
    split_ifs at hnow with hp
    · rw [List.mem_singleton.mp hnow]
      exact h.le_next (mem_pia_readings.mp hmem) rfl
    · cases hnow
  · refine h.past_append (Nat.le_succ _) ?_
    rintro _ ⟨⟩ k hk
    exact hclock (Nat.le_of_succ_le hk)
  · refine h.warned_append (fun p hp => ?_) nofun
    by_cases heq : p = pack
    · exact .inr ⟨pia, _, by rw [heq]⟩
    · exact .inl (Finset.mem_erase_of_ne_of_mem heq hp)
  · exact eachAt_append_singleton.mpr ⟨h.justified, k, hpoll⟩

theorem Tracked.with_pib (hclock : Monotone w.monotonic) (h : Tracked w cfg s) {pack : Nat}
    (pib : PibData) :
    Tracked w cfg (s.clock_read.with_pib pack pib (w.monotonic s.clock_reads)) := by
  have hpia := pia_readings_pib_stored s.trace pack pib (w.monotonic s.clock_reads)
  have hpib := pib_readings_pib_stored s.trace pack pib (w.monotonic s.clock_reads)
  constructor
  · exact hpia ▸ h.pia
  · exact h.pib.insert hpib
  · exact hpia ▸ h.sorted
  · refine h.past_append (Nat.le_succ _) ?_
    rintro _ ⟨⟩ k hk
    exact hclock (Nat.le_of_succ_le hk)
  · exact h.warned_append (fun _ => .inl) nofun
  · exact eachAt_append_singleton.mpr ⟨h.justified, trivial⟩

/-- A first warning: the pack was heard of since the one before. -/
theorem Tracked.warned_one (h : Tracked w cfg s) {pack : Nat} (hfirst : pack ∉ s.stale_warned) :
    Tracked w cfg (s.warned [pack]) := by
  obtain ⟨hpia, hpib⟩ := @readings_of_seen_t_none s (.excluded pack) rfl
  constructor
  · exact hpia ▸ h.pia
  · exact hpib ▸ h.pib
  · exact hpia ▸ h.sorted
  · exact h.past_append le_rfl nofun
  · refine h.warned_append (fun p hp => .inl (Finset.mem_union_left _ hp)) ?_
    rintro _ ⟨⟩
    exact Finset.mem_union_right _ (by simp)
  · refine eachAt_append_singleton.mpr ⟨h.justified, fun earlier between heq => ?_⟩
    exact (h.warned earlier pack between heq).resolve_left hfirst

/-- What is aggregated at the next reading of the clock. -/
theorem Tracked.freshAt (h : Tracked w cfg s) :
    FreshAt cfg s.trace (w.monotonic s.clock_reads)
      (s.pia_state.filter (pia_fresh cfg s (w.monotonic s.clock_reads)))
      (s.pib_state.filter (pib_fresh cfg s (w.monotonic s.clock_reads))) := by
  constructor
  · intro pack data hlookup
    obtain ⟨seen, hlast, hfresh⟩ := h.pia.lookup_filter.mp hlookup
    exact ⟨seen, hlast, h.le_next (mem_pia_readings.mp (List.mem_of_getLast? hlast)) rfl, hfresh⟩
  · intro pack data t hmem hfresh
    have hreading := mem_pia_readings.mpr hmem
    obtain ⟨⟨data', latest⟩, hlast⟩ := Option.isSome_iff_exists.mp
      (List.getLast?_isSome.mpr (List.ne_nil_of_mem hreading))
    have hle : t ≤ latest := by
      have hsorted := h.sorted pack
      rw [← List.dropLast_append_getLast? _ hlast, List.map_append, List.pairwise_append] at hsorted
      rw [← List.dropLast_append_getLast? _ hlast, List.mem_append] at hreading
      obtain hearlier | hlatest := hreading
      · exact hsorted.2.2 t (List.mem_map_of_mem hearlier) latest (List.mem_singleton_self _)
      · exact (congrArg Prod.snd (List.mem_singleton.mp hlatest)).le
    have hlookup := h.pia.lookup_filter.mpr
      ⟨latest, hlast, PyFloat.finite_le_of_le (sub_le_sub_left hle _) hfresh⟩
    exact Dict.mem_iff_lookup.mpr ⟨data', hlookup⟩
  · intro pack data hlookup
    obtain ⟨seen, hlast, hfresh⟩ := h.pib.lookup_filter.mp hlookup
    exact ⟨seen, hlast, h.le_next (mem_pib_readings.mp (List.mem_of_getLast? hlast)) rfl, hfresh⟩

theorem Tracked.effect (hclock : Monotone w.monotonic) {s' : ServiceState} (h : Tracked w cfg s)
    (heffect : Effect w cfg s s') : Tracked w cfg s' := by
  cases heffect with
  | clock => exact h.clock_read
  | polled => exact ⟨h.pia, h.pib, h.sorted, h.past, h.warned, h.justified⟩
  | looked stop =>
    have hlooked : Tracked w cfg { s with looks := s.looks + 1 } :=
      ⟨h.pia, h.pib, h.sorted, h.past, h.warned, h.justified⟩
    exact hlooked.logged (.looked stop) rfl nofun trivial
  | connecting =>
    have hconnecting : Tracked w cfg { s with connections := s.connections + 1 } :=
      ⟨h.pia, h.pib, h.sorted, h.past, h.warned, h.justified⟩
    exact hconnecting.logged .connecting rfl nofun trivial
  | @harmless event hevent =>
    cases event with
    | cycle_started start => exact h.logged (.cycle_started start) rfl nofun trivial
    | poll_failed pack connected => exact h.logged (.poll_failed pack connected) rfl nofun trivial
    | published values => exact h.logged (.published values) rfl nofun trivial
    | _ => exact hevent.elim
  | pia_stored hpoll => exact h.with_pia hclock hpoll
  | pib_stored hpoll => exact h.with_pib hclock _
  | excluded hfirst => exact h.warned_one hfirst
  | aggregated => exact h.clock_read.logged (.aggregated _ _ _) rfl nofun h.freshAt
  | @integrated call hcall =>
    have hintegrated : Tracked w cfg { s.clock_read with station := s.station.after call } :=
      ⟨h.pia, h.pib, h.sorted, h.clock_read.past, h.warned, h.justified⟩
    exact hintegrated.logged (.integrated call) rfl nofun hcall

theorem Tracked.start (w : World) (cfg : BmsCfg) (station : Station) :
    Tracked w cfg (ServiceState.start station) where
  pia := ⟨fun _ => rfl, fun _ => rfl⟩
  pib := ⟨fun _ => rfl, fun _ => rfl⟩
  sorted _ := List.Pairwise.nil
  past event hmem := by cases hmem
  warned before pack later heq := by simp [ServiceState.start] at heq
  justified := eachAt_nil

/-- In every run, over all reconnections: the packs whose PIA data is aggregated are those
polled with success in the last `stale_pack_timeout_s`, each with its latest data; the
energy is integrated over the same packs; between two warnings that a pack is excluded, it
was heard of. A pack whose PIB polls alone succeed counts with its cell temperatures only. -/
theorem fresh_packs_only (w : World) (cfg : BmsCfg) (station : Station) (sessions n : Nat)
    (hclock : Monotone w.monotonic) :
    let trace := (after w cfg station sessions n).trace
    (∀ before now fresh_pia fresh_pib later,
        trace = before ++ .aggregated now fresh_pia fresh_pib :: later →
        FreshAt cfg before now fresh_pia fresh_pib) ∧
      (∀ before call later, trace = before ++ .integrated call :: later → Handed before call) ∧
      (∀ pack data seen_t, .pia_stored pack data seen_t ∈ trace →
        ∃ k, w.poll_pia k pack = .ok data) ∧
      (∀ before pack between later,
        trace = before ++ .excluded pack :: (between ++ .excluded pack :: later) →
        ∃ data seen_t, .pia_stored pack data seen_t ∈ between) ∧
      ∀ pia_by_pack pib_by_pack,
        { aggregator.aggregate_bank pia_by_pack pib_by_pack with max_cell_temp_C := none } =
          aggregator.aggregate_bank pia_by_pack none := by
  have htracked : Tracked w cfg (after w cfg station sessions n) :=
    (ran_after w cfg station sessions n).preserves (Tracked.start w cfg station)
      (Tracked.effect hclock)
  have hjustified := htracked.justified
  intro trace
  refine ⟨?_, ?_, ?_, ?_, fun _ _ => rfl⟩
  · intro before now fresh_pia fresh_pib later heq
    exact hjustified before _ later heq
  · intro before call later heq
    exact hjustified before _ later heq
  · intro pack data seen_t hmem
    obtain ⟨before, later, heq⟩ := List.append_of_mem hmem
    exact hjustified before _ later heq
  · intro before pack between later heq
    have hsplit : trace = (before ++ .excluded pack :: between) ++ .excluded pack :: later := by
      rw [heq, List.append_assoc, List.cons_append]
    exact hjustified _ _ later hsplit before between rfl

/-- Pack 1 answers every PIA poll. Pack 2 answers its first one and then never again, and the first
time that it does not the connection is lost. -/
def frozen_pack_world : World where
  monotonic k := 10 * k
  stop_is_set _ := false
  poll_pia k pack := if pack = 2 ∧ 2 ≤ k then .error (.TimeoutError "") else .ok {
    pack := pack
    voltage_V := 53
    current_A := 10
    remaining_Ah := 100
    nominal_Ah := 200
    soc_pct := 50 + k
    soh_pct := 100
    cycles := 7
    raw_response := [] }
  poll_pib _ _ := .error (.TimeoutError "")
  is_connected k := k ≠ 3
  connects _ := true
  save_succeeds _ := true

/-- The packs that are handed to `aggregate_bank`. -/
def Event.aggregates : Event → Option (List Nat)
  | .aggregated _ fresh_pia _ => some fresh_pia.keys
  | _ => none

/-- In the second session only pack 1 counts, though there is a reading of pack 2. -/
theorem fresh_packs_only_one : ∃ before now fresh_pia fresh_pib later,
    (after frozen_pack_world { pack_count := 2 } fresh_station 2 2).trace =
      before ++ .aggregated now fresh_pia fresh_pib :: later ∧
    before.countP (fun e => e matches .connecting) = 2 ∧
    (pia_readings before 2).map Prod.snd = [20] ∧ fresh_pia.keys = [1] ∧
    FreshAt { pack_count := 2 } before now fresh_pia fresh_pib := by
  have hclock : Monotone frozen_pack_world.monotonic := fun j k hjk => by
    have hcast : (j : ℚ) ≤ k := Nat.cast_le.mpr hjk
    exact mul_le_mul_of_nonneg_left hcast (by norm_num)
  have hclaim := (fresh_packs_only frozen_pack_world { pack_count := 2 } fresh_station 2 2 hclock).1
  let alone (e : Event) : Bool := e.aggregates = some [1]
  have hfacts :
      let trace := (after frozen_pack_world { pack_count := 2 } fresh_station 2 2).trace
      let before := trace.takeWhile fun e => !alone e
      (before.countP (fun e => e matches .connecting) = 2 ∧
        (pia_readings before 2).map Prod.snd = [20]) ∧
      ((trace.dropWhile fun e => !alone e).head?.bind Event.aggregates) = some [1] := by
    decide +kernel
  obtain ⟨⟨hsessions, hreading⟩, hhead⟩ := hfacts
  obtain ⟨e, hhead, halone⟩ := Option.bind_eq_some_iff.mp hhead
  obtain ⟨later, hrest⟩ := List.head?_eq_some_iff.mp hhead
  cases e with
  | aggregated now fresh_pia fresh_pib =>
    have hsplit := (List.takeWhile_append_dropWhile (p := fun e => !alone e)
      (l := (after frozen_pack_world { pack_count := 2 } fresh_station 2 2).trace)).symm
    rw [hrest] at hsplit
    exact ⟨_, now, fresh_pia, fresh_pib, later, hsplit, hsessions, hreading,
      Option.some.inj halone, hclaim _ _ _ _ _ hsplit⟩
  | _ => cases halone

/-- Pack 1 answers its PIB polls only. -/
def pib_only_world : World where
  monotonic k := 300 + k
  stop_is_set _ := false
  poll_pia _ _ := .error (.TimeoutError "")
  poll_pib _ pack := .ok {
    cell_temp_C := [some 25]
    pack := pack
    cell_v_mV := []
    cell_v_min_mV := 0
    cell_v_max_mV := 0
    cell_v_avg_mV := 0
    cell_v_delta_mV := 0
    env_temp_C := none
    pcb_temp_C := none
    raw_response := [] }
  is_connected _ := true
  connects _ := true
  save_succeeds _ := true

/-- What the aggregation of an event says of the cell temperatures. -/
def Event.max_cell_temp : Event → Option ℚ
  | .aggregated _ fresh_pia fresh_pib =>
    (aggregator.aggregate_bank (fresh_pia.map_values PiaData.toPiaData)
      (some (fresh_pib.map_values PibData.toPibData))).max_cell_temp_C
  | _ => none

/-- A pack that was never polled for its PIA data contributes to an aggregate. -/
theorem pib_only_pack_contributes :
    let trace := (after pib_only_world { pack_count := 1 } fresh_station 1 1).trace
    trace.filterMap Event.max_cell_temp = [25] ∧ pia_readings trace 1 = [] := by
  decide +kernel

end inverter_bridge.bms.service
