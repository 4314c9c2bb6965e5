import InverterBridge.Bms.FreshPacks

open Python Trace
open inverter_bridge.config inverter_bridge.bms.octopus_protocol inverter_bridge.bms.ble_client
open inverter_bridge.bms.discovery

namespace inverter_bridge.bms.service

/-! ## The names of the counters -/

/-- The object id of the heartbeat of a pack: its successful PIA polls. -/
def soc_polls_id (p : Nat) : String := s!"bluesun_{pp p}_soc_polls"

/-- The values come from the telemetry. -/
def IsTelemetry (values : List (String × Scalar)) : Prop :=
  ∃ value, ("bluesun_octopus_parses_ok", value) ∈ values

theorem pp_injective : Function.Injective pp := by
  intro p q heq
  have hdigits : ∀ n, Nat.ofDigitChars 10 ((pp n).toList.drop 4) 0 = n := by
    intro n
    simp [pp, zfill, Nat.ofDigitChars_append]
  rw [← hdigits p, heq, hdigits]

theorem soc_polls_id_injective : Function.Injective soc_polls_id := by
  intro p q heq
  have hpp : "bluesun_" ++ pp p = "bluesun_" ++ pp q := String.append_left_inj _ |>.mp heq
  exact pp_injective ((String.append_right_inj _).mp hpp)

theorem parses_id_ne_soc_polls_id (p q : Nat) :
    "bluesun_" ++ pp p ++ "_parses" ≠ soc_polls_id q := by
  intro heq
  change _ = "bluesun_" ++ pp q ++ "_soc_polls" at heq
  have hchar := congrArg (fun s => s.toList.reverse[1]?) heq
  simp at hchar

/-- The heartbeats of the packs 1 to 4 are in the catalogue. -/
theorem soc_polls_id_catalogued {p : Nat} (hp : 1 ≤ p ∧ p ≤ 4) :
    (all_bms_entities.any fun e => e.object_id == soc_polls_id p) = true := by
  have hmem : counter_entity (soc_polls_id p) s!"{PP p} SoC Polls" ∈ all_bms_entities := by
    refine List.mem_append_right _ (List.mem_append_right _ ?_)
    exact List.mem_map_of_mem (List.mem_range'_1.mpr ⟨hp.1, by omega⟩)
  exact List.any_eq_true.mpr ⟨_, hmem, beq_self_eq_true _⟩

/-! ## What is counted -/

/-- What a publication says of the heartbeats: when it comes from the telemetry, the packs
published have as many polls as PIA readings were stored before, and the packs 1 to 4 are
published. -/
def Heartbeat (before : List Event) : Event → Prop
  | .published values => IsTelemetry values →
    (∀ p value, (soc_polls_id p, value) ∈ values → value = .int (pia_readings before p).length) ∧
      ∀ p, 1 ≤ p ∧ p ≤ 4 → (soc_polls_id p, .int (pia_readings before p).length) ∈ values
  | _ => True

/-- The caches, the counters and what is published of them follow the trace. -/
structure Tallied (s : ServiceState) : Prop where
  stored : ∀ p, s.pia_state.lookup p = (pia_readings s.trace p).getLast?.map Prod.fst
  pia : ∀ p, (s.pia_parses_by_pack.lookup p).getD 0 = (pia_readings s.trace p).length
  parses : ∀ p, (s.parses_by_pack.lookup p).getD 0 =
    (pia_readings s.trace p).length + (pib_readings s.trace p).length
  total : s.parses_ok = s.parses_by_pack.total
  packs : ∀ p, 1 ≤ p ∧ p ≤ 4 → p ∈ s.pia_parses_by_pack
  heartbeats : EachAt Heartbeat s.trace

variable {w : World} {cfg : BmsCfg} {s s' : ServiceState}

theorem mem_catalogued {values : List (String × Option Scalar)} {object_id : String}
    {value : Scalar} : (object_id, value) ∈ catalogued values ↔
      (object_id, some value) ∈ values ∧
        (all_bms_entities.any fun e => e.object_id == object_id) = true := by
  simp only [catalogued, List.mem_filterMap]
  constructor
  · rintro ⟨⟨id, given⟩, hmem, heq⟩
    obtain ⟨hentity, hvalue⟩ := Option.ite_none_right_eq_some.mp heq
    obtain ⟨v, rfl, hpair⟩ := Option.map_eq_some_iff.mp hvalue
    cases hpair
    exact ⟨hmem, hentity⟩
  · rintro ⟨hmem, hentity⟩
    exact ⟨_, hmem, by rw [if_pos hentity]; rfl⟩

/-- The heartbeats in the telemetry are the counters of the PIA polls. -/
theorem mem_telemetry_soc_polls {p : Nat} {value : Option Scalar} :
    (soc_polls_id p, value) ∈ telemetry s ↔
      ∃ n, s.pia_parses_by_pack.lookup p = some n ∧ value = int_value n := by
  simp only [telemetry, List.mem_append, List.mem_singleton, List.mem_map, Prod.mk.injEq]
  constructor
  · rintro ((⟨hid, -⟩ | ⟨entry, -, hid, -⟩) | ⟨entry, hmem, hid, rfl⟩)
    · exact absurd hid (pack_id_ne p "_soc_polls")
    · exact absurd hid (parses_id_ne_soc_polls_id entry.1 p)
    · obtain rfl := soc_polls_id_injective hid
      exact ⟨entry.2, AList.mem_lookup_iff.mpr hmem, rfl⟩
  · rintro ⟨n, hlookup, rfl⟩
    exact .inr ⟨⟨p, n⟩, AList.mem_lookup_iff.mp hlookup, rfl, rfl⟩

/-- Every publication of the telemetry is recognised as one. -/
theorem isTelemetry_telemetry (s : ServiceState) : IsTelemetry (catalogued (telemetry s)) :=
  ⟨.int s.parses_ok, mem_catalogued.mpr ⟨List.mem_cons_self, by decide +kernel⟩⟩

/-- The telemetry tells the number of the readings stored so far. -/
theorem Tallied.telemetry (h : Tallied s) :
    Heartbeat s.trace (.published (catalogued (telemetry s))) := by
  intro _
  have hvalue : ∀ p n, s.pia_parses_by_pack.lookup p = some n →
      n = (pia_readings s.trace p).length := by
    intro p n hlookup
    rw [← h.pia p, hlookup, Option.getD_some]
  constructor
  · intro p value hmem
    obtain ⟨n, hlookup, heq⟩ := mem_telemetry_soc_polls.mp (mem_catalogued.mp hmem).1
    rw [← hvalue p n hlookup]
    exact Option.some.inj heq
  · intro p hp
    obtain ⟨n, hlookup⟩ := Dict.mem_iff_lookup.mp (h.packs p hp)
    rw [← hvalue p n hlookup]
    exact mem_catalogued.mpr
      ⟨mem_telemetry_soc_polls.mpr ⟨n, hlookup, rfl⟩, soc_polls_id_catalogued hp⟩

/-- Other values say nothing of the heartbeats. -/
theorem heartbeat_of_unrelated {values : List (String × Option Scalar)}
    (hvalues : Unrelated values) (before : List Event) :
    Heartbeat before (.published (catalogued values)) := by
  rintro ⟨value, hmem⟩
  exact absurd rfl (hvalues _ (mem_catalogued.mp hmem).1)

/-- An event that stores nothing. -/
theorem Tallied.logged (h : Tallied s) (event : Event) (htime : event.seen_t = none)
    (hevent : Heartbeat s.trace event) : Tallied (s.logged event) := by
  obtain ⟨hpia, hpib⟩ := @readings_of_seen_t_none s event htime
  constructor
  · exact hpia ▸ h.stored
  · exact hpia ▸ h.pia
  · intro p
    rw [ServiceState.logged, hpia, hpib]
    exact h.parses p
  · exact h.total
  · exact h.packs
  · exact eachAt_append_singleton.mpr ⟨h.heartbeats, hevent⟩

/-- One more poll of `pack`, among the counts of the packs. -/
theorem lookup_insert_succ {counts : Dict Nat Nat} {pack p : Nat} :
    ((counts.insert pack ((counts.lookup pack).getD 0 + 1)).lookup p).getD 0 =
      (counts.lookup p).getD 0 + if pack = p then 1 else 0 := by
  split_ifs with hp
  · rw [hp, AList.lookup_insert, Option.getD_some]
  · rw [AList.lookup_insert_ne (Ne.symm hp), Nat.add_zero]

theorem total_insert_succ (counts : Dict Nat Nat) (pack : Nat) :
    Dict.total (counts.insert pack ((counts.lookup pack).getD 0 + 1)) = counts.total + 1 := by
  have htotal := Dict.total_insert counts pack ((counts.lookup pack).getD 0 + 1)
  omega

theorem Tallied.with_pia (h : Tallied s) (pack : Nat) (pia : PiaData) (now : ℚ) :
    Tallied (s.with_pia pack pia now) := by
  have hpia := pia_readings_pia_stored s.trace pack pia now
  have hpib := pib_readings_pia_stored s.trace pack pia now
  have hlength (p : Nat) : (pia_readings (s.trace ++ [.pia_stored pack pia now]) p).length =
      (pia_readings s.trace p).length + if pack = p then 1 else 0 := by
    rw [hpia, List.length_append]
    split_ifs <;> rfl
  constructor
  · intro p
    simp only [ServiceState.with_pia, hpia]
    split_ifs with hp
    · rw [hp, AList.lookup_insert, List.getLast?_append]
      rfl
    · rw [AList.lookup_insert_ne (Ne.symm hp), List.append_nil, h.stored]
  · intro p
    simp only [ServiceState.with_pia, hlength]
    rw [lookup_insert_succ, h.pia]
  · intro p
    simp only [ServiceState.with_pia, hlength, hpib]
    rw [lookup_insert_succ, h.parses]
    omega
  · simp only [ServiceState.with_pia, total_insert_succ, h.total]
  · exact fun p hp => (AList.mem_insert _).mpr (.inr (h.packs p hp))
  · exact eachAt_append_singleton.mpr ⟨h.heartbeats, trivial⟩

theorem Tallied.with_pib (h : Tallied s) (pack : Nat) (pib : PibData) (now : ℚ) :
    Tallied (s.with_pib pack pib now) := by
  have hpia := pia_readings_pib_stored s.trace pack pib now
  have hpib := pib_readings_pib_stored s.trace pack pib now
  have hlength (p : Nat) : (pib_readings (s.trace ++ [.pib_stored pack pib now]) p).length =
      (pib_readings s.trace p).length + if pack = p then 1 else 0 := by
    rw [hpib, List.length_append]
    split_ifs <;> rfl
  constructor
  · exact hpia ▸ h.stored
  · exact hpia ▸ h.pia
  · intro p
    simp only [ServiceState.with_pib, hlength, hpia]
    rw [lookup_insert_succ, h.parses]
    omega
  · simp only [ServiceState.with_pib, total_insert_succ, h.total]
  · exact h.packs
  · exact eachAt_append_singleton.mpr ⟨h.heartbeats, trivial⟩

theorem lookup_no_parses (p : Nat) : (no_parses.lookup p).getD 0 = 0 := by
  cases hlookup : no_parses.lookup p with
  | none => rfl
  | some n =>
    obtain hempty | hmem := Dict.lookup_or_mem_of_lookup_assign hlookup
    · cases hempty
    · obtain ⟨_, -, heq⟩ := List.mem_map.mp hmem
      cases heq
      rfl

theorem Tallied.start (station : Station) : Tallied (ServiceState.start station) where
  stored _ := rfl
  pia := lookup_no_parses
  parses := lookup_no_parses
  total := show 0 = no_parses.total by decide
  packs p hp := Dict.mem_assign.mpr (.inr (by simp; omega))
  heartbeats := eachAt_nil

/-- What one effect leaves of the counters, when it publishes as the code does. -/
theorem Tallied.effect (h : Tallied s) (heffect : Effect w cfg s s') (hannounces : Announces s s') :
    Tallied s' := by
  cases heffect with
  | clock => exact ⟨h.stored, h.pia, h.parses, h.total, h.packs, h.heartbeats⟩
  | polled => exact ⟨h.stored, h.pia, h.parses, h.total, h.packs, h.heartbeats⟩
  | looked stop =>
    have hlooked : Tallied { s with looks := s.looks + 1 } :=
      ⟨h.stored, h.pia, h.parses, h.total, h.packs, h.heartbeats⟩
    exact hlooked.logged (.looked stop) rfl trivial
  | connecting =>
    have hconnecting : Tallied { s with connections := s.connections + 1 } :=
      ⟨h.stored, h.pia, h.parses, h.total, h.packs, h.heartbeats⟩
    exact hconnecting.logged .connecting rfl trivial
  | @harmless event hevent =>
    cases event with
    | cycle_started start => exact h.logged (.cycle_started start) rfl trivial
    | poll_failed pack connected => exact h.logged (.poll_failed pack connected) rfl trivial
    | published values =>
      refine h.logged (.published values) rfl ?_
      obtain rfl | ⟨given, hgiven, rfl⟩ := hannounces values rfl
      · exact h.telemetry
      · exact heartbeat_of_unrelated hgiven _
    | _ => exact hevent.elim
  | pia_stored _ =>
    have hclock : Tallied s.clock_read :=
      ⟨h.stored, h.pia, h.parses, h.total, h.packs, h.heartbeats⟩
    exact hclock.with_pia _ _ _
  | pib_stored _ =>
    have hclock : Tallied s.clock_read :=
      ⟨h.stored, h.pia, h.parses, h.total, h.packs, h.heartbeats⟩
    exact hclock.with_pib _ _ _
  | @excluded pack _ =>
    have hwarned : Tallied { s with stale_warned := s.stale_warned ∪ [pack].toFinset } :=
      ⟨h.stored, h.pia, h.parses, h.total, h.packs, h.heartbeats⟩
    exact hwarned.logged (.excluded pack) rfl trivial
  | aggregated =>
    have hclock : Tallied s.clock_read :=
      ⟨h.stored, h.pia, h.parses, h.total, h.packs, h.heartbeats⟩
    exact hclock.logged (.aggregated _ _ _) rfl trivial
  | @integrated call _ =>
    have hintegrated : Tallied { s.clock_read with station := s.station.after call } :=
      ⟨h.stored, h.pia, h.parses, h.total, h.packs, h.heartbeats⟩
    exact hintegrated.logged (.integrated call) rfl trivial

theorem Acted.tallied {station : Station} (h : Acted w cfg (ServiceState.start station) s) :
    Tallied s := by
  induction h with
  | refl => exact Tallied.start station
  | tail _ hstep ih => exact ih.effect hstep.1 hstep.2

/-! ## Runs -/

/-- None of the three counters is lower in the second state. -/
structure CountersLe (s s' : ServiceState) : Prop where
  parses_ok : s.parses_ok ≤ s'.parses_ok
  parses_by_pack : ∀ p, (s.parses_by_pack.lookup p).getD 0 ≤ (s'.parses_by_pack.lookup p).getD 0
  pia_parses_by_pack : ∀ p,
    (s.pia_parses_by_pack.lookup p).getD 0 ≤ (s'.pia_parses_by_pack.lookup p).getD 0

theorem lookup_le_insert_succ (counts : Dict Nat Nat) (pack p : Nat) :
    (counts.lookup p).getD 0 ≤
      ((counts.insert pack ((counts.lookup pack).getD 0 + 1)).lookup p).getD 0 := by
  rw [lookup_insert_succ]
  exact Nat.le_add_right _ _

theorem Effect.counters_le (h : Effect w cfg s s') : CountersLe s s' := by
  cases h with
  | pia_stored _ =>
    exact ⟨Nat.le_succ _, lookup_le_insert_succ _ _, lookup_le_insert_succ _ _⟩
  | pib_stored _ => exact ⟨Nat.le_succ _, lookup_le_insert_succ _ _, fun _ => le_rfl⟩
  | _ => exact ⟨le_rfl, fun _ => le_rfl, fun _ => le_rfl⟩

/-- The counters never decrease. -/
theorem Acted.counters_le (h : Acted w cfg s s') : CountersLe s s' := by
  induction h with
  | refl => exact ⟨le_rfl, fun _ => le_rfl, fun _ => le_rfl⟩
  | tail _ hstep ih =>
    have hle := hstep.1.counters_le
    exact ⟨ih.parses_ok.trans hle.parses_ok,
      fun p => (ih.parses_by_pack p).trans (hle.parses_by_pack p),
      fun p => (ih.pia_parses_by_pack p).trans (hle.pia_parses_by_pack p)⟩

theorem Effect.trace_eq (h : Effect w cfg s s') :
    s'.trace = s.trace ∨ ∃ event, s'.trace = s.trace ++ [event] := by
  cases h with
  | clock => exact .inl rfl
  | polled => exact .inl rfl
  | _ => exact .inr ⟨_, rfl⟩

/-- Between two states, one is passed at each beginning of the trace. -/
theorem Acted.passes {trace : List Event} (h : Acted w cfg s s') (hfrom : s.trace <+: trace)
    (hto : trace <+: s'.trace) : ∃ mid, Acted w cfg s mid ∧ Acted w cfg mid s' ∧ mid.trace = trace := by
  induction h with
  | refl => exact ⟨s, .refl, .refl, hfrom.eq_of_length (hfrom.length_le.antisymm hto.length_le)⟩
  | @tail last next hrun hstep ih =>
    by_cases hearlier : trace <+: last.trace
    · obtain ⟨mid, hmid, hrest, htrace⟩ := ih hearlier
      exact ⟨mid, hmid, hrest.tail hstep, htrace⟩
    · refine ⟨_, Relation.ReflTransGen.tail hrun hstep, .refl, ?_⟩
      obtain heq | ⟨event, heq⟩ := hstep.1.trace_eq
      · exact absurd (heq ▸ hto) hearlier
      · rw [heq] at hto ⊢
        exact ((List.prefix_concat_iff.mp hto).resolve_right hearlier).symm

/-- What was stored came from a successful poll. -/
theorem Effect.pia_polled (h : Effect w cfg s s') {p : Nat} {data : PiaData} {seen_t : ℚ}
    (hmem : .pia_stored p data seen_t ∈ s'.trace) :
    .pia_stored p data seen_t ∈ s.trace ∨ ∃ k, w.poll_pia k p = .ok data := by
  cases h with
  | clock => exact .inl hmem
  | polled => exact .inl hmem
  | @harmless event hevent =>
    obtain hmem | hmem := List.mem_append.mp hmem
    · exact .inl hmem
    · rw [← List.mem_singleton.mp hmem] at hevent
      exact hevent.elim
  | @pia_stored k _ _ hpoll =>
    obtain hmem | hmem := List.mem_append.mp hmem
    · exact .inl hmem
    · cases List.mem_singleton.mp hmem
      exact .inr ⟨k, hpoll⟩
  | _ =>
    obtain hmem | hmem := List.mem_append.mp hmem
    · exact .inl hmem
    · cases List.mem_singleton.mp hmem

theorem Acted.pia_polled {station : Station} (h : Acted w cfg (ServiceState.start station) s)
    {p : Nat} {data : PiaData} {seen_t : ℚ} (hmem : .pia_stored p data seen_t ∈ s.trace) :
    ∃ k, w.poll_pia k p = .ok data := by
  induction h with
  | refl => cases hmem
  | tail _ hstep ih => exact (hstep.1.pia_polled hmem).elim ih id

/-- The number of polls that a publication of the telemetry says a pack had. -/
def SaysPolls (values : List (String × Scalar)) (p n : Nat) : Prop :=
  ∀ value, (soc_polls_id p, value) ∈ values ↔ value = .int n

theorem Tallied.says_polls (h : Tallied s) {before later : List Event}
    {values : List (String × Scalar)} (htrace : s.trace = before ++ .published values :: later)
    (htelemetry : IsTelemetry values) {p : Nat} (hp : 1 ≤ p ∧ p ≤ 4) :
    SaysPolls values p (pia_readings before p).length := by
  obtain ⟨htold, hall⟩ := h.heartbeats before _ later htrace htelemetry
  intro value
  constructor
  · exact htold p value
  · rintro rfl
    exact hall p hp

/-- A poll of the pack succeeded during `between`, and at that point of the run, which had
come to `before`, its data were stored in `pia_state`. -/
def StoredBetween (w : World) (cfg : BmsCfg) (start final : ServiceState)
    (before between : List Event) (p : Nat) : Prop :=
  ∃ k data seen_t earlier rest s, w.poll_pia k p = .ok data ∧
    between = earlier ++ .pia_stored p data seen_t :: rest ∧
    Acted w cfg start s ∧ Acted w cfg s final ∧
    s.trace = before ++ (earlier ++ [.pia_stored p data seen_t]) ∧
    s.pia_state.lookup p = some data

/-- The state that the run passes right after a reading was stored holds its data. -/
theorem Acted.stored_between {station : Station} {before between : List Event} {p : Nat}
    {data : PiaData} {seen_t : ℚ} (h : Acted w cfg (ServiceState.start station) s)
    (hmem : .pia_stored p data seen_t ∈ between) (hbetween : before ++ between <+: s.trace) :
    StoredBetween w cfg (ServiceState.start station) s before between p := by
  obtain ⟨earlier, rest, rfl⟩ := List.append_of_mem hmem
  have hbegins : before ++ (earlier ++ [.pia_stored p data seen_t]) <+: s.trace := by
    refine List.IsPrefix.trans ⟨rest, ?_⟩ hbetween
    simp
  obtain ⟨mid, hmid, hrest, htrace⟩ := h.passes List.nil_prefix hbegins
  have hlast : (pia_readings mid.trace p).getLast? = some (data, seen_t) := by
    rw [htrace, ← List.append_assoc, pia_readings_pia_stored, if_pos rfl, List.getLast?_concat]
  obtain ⟨k, hpoll⟩ := hmid.pia_polled
    (show .pia_stored p data seen_t ∈ mid.trace by simp [htrace])
  refine ⟨k, data, seen_t, earlier, rest, mid, hpoll, rfl, hmid, hrest, htrace, ?_⟩
  rw [hmid.tallied.stored, hlast, Option.map_some]

/-- Heartbeat counters tell the truth, in every run with every reconnection: in each state
passed, `parses_ok` is the sum of the parses of the packs, and no pack has more PIA parses
than parses; from one state to a later one none of them decreases; and from one publication
of the telemetry to a later one, the published polls of a pack increase exactly when a PIA
poll of it succeeded in between and its data were stored. -/
theorem heartbeats_truthful (w : World) (cfg : BmsCfg) (station : Station) (sessions n : Nat) :
    let start := ServiceState.start station
    let final := after w cfg station sessions n
    (∀ s, Acted w cfg start s → Acted w cfg s final →
      s.parses_ok = s.parses_by_pack.total ∧ ∀ p,
        (s.pia_parses_by_pack.lookup p).getD 0 ≤ (s.parses_by_pack.lookup p).getD 0) ∧
    (∀ s s', Acted w cfg start s → Acted w cfg s s' → Acted w cfg s' final → CountersLe s s') ∧
    ∀ before first between second later,
      final.trace = before ++ .published first :: (between ++ .published second :: later) →
      IsTelemetry first → IsTelemetry second → ∀ p, 1 ≤ p ∧ p ≤ 4 →
        ∃ n₁ n₂, SaysPolls first p n₁ ∧ SaysPolls second p n₂ ∧ n₁ ≤ n₂ ∧
          (n₁ < n₂ ↔ StoredBetween w cfg start final (before ++ [.published first]) between p) := by
  intro start final
  have hfinal : Acted w cfg start final := acted_after w cfg station sessions n
  refine ⟨fun s hs _ => ?_, fun s s' _ hrun _ => hrun.counters_le, ?_⟩
  · have htallied := hs.tallied
    refine ⟨htallied.total, fun p => ?_⟩
    rw [htallied.pia, htallied.parses]
    exact Nat.le_add_right _ _
  · intro before first between second later htrace hfirst hsecond p hp
    have htallied := hfinal.tallied
    have hlater : final.trace =
        (before ++ .published first :: between) ++ .published second :: later := by
      rw [htrace, List.append_assoc, List.cons_append]
    have hreadings : pia_readings (before ++ .published first :: between) p =
        pia_readings before p ++ pia_readings between p := List.filterMap_append
    refine ⟨_, _, htallied.says_polls htrace hfirst hp, htallied.says_polls hlater hsecond hp, ?_⟩
    rw [hreadings, List.length_append, Nat.lt_add_right_iff_pos, List.length_pos_iff]
    refine ⟨Nat.le_add_right _ _, fun hsome => ?_, ?_⟩
    · obtain ⟨⟨data, seen_t⟩, hreading⟩ := List.exists_mem_of_ne_nil _ hsome
      exact hfinal.stored_between (mem_pia_readings.mp hreading)
        ⟨.published second :: later, by simp [hlater]⟩
    · rintro ⟨-, data, seen_t, earlier, rest, -, -, rfl, -⟩
      exact List.ne_nil_of_mem (mem_pia_readings.mpr (List.mem_append_right _ List.mem_cons_self))

end inverter_bridge.bms.service
