import InverterBridge.Lib.SnapshotSweep
import InverterBridge.Tools.RetainedBytes

/-! The cleanup tool's session with a broker that others publish to. -/

open Python TransitionSystem SnapshotSweep
open inverter_bridge.config inverter_bridge.mqtt_publisher inverter_bridge.bms.discovery

namespace tools.cleanup_orphan_discoveries

/-- The command line of `main`. -/
structure Args where
  include_sa_static : Bool
  apply : Bool

section

variable (text : PyValue → String) (is_digit : Char → Bool) (limit : Nat)

/-- The topics that are cleared after a capture; none in a dry run. -/
def topics_to_clear (args : Args) (spec : CanonicalSpec) (captured : Dict String ByteArray) :
    Option (List String) :=
  (capture_retained_bytes text limit captured).map fun discoveries =>
    if args.apply then
      collect_topics_to_clean (build_report is_digit discoveries spec) args.include_sa_static
    else []

/-- What is captured under a topic is to be cleaned. -/
def Cleanable (args : Args) (spec : CanonicalSpec) (topic : String) (bytes : ByteArray) : Prop :=
  ∃ payload d, PayloadBytes.of_bytes limit bytes = some payload ∧
    capture text topic payload = some d ∧
    (categorize is_digit d spec).cleaned args.include_sa_static = true

end

variable {text : PyValue → String} {is_digit : Char → Bool} {float_repr : ℚ → List Char}
  {limit : Nat} {args : Args} {spec : CanonicalSpec}

/-- What was retained under a subscribed topic is captured. -/
theorem mem_of_retained {retained : Dict String ByteArray} {captured : List Discovery}
    (h : capture_retained_bytes text limit retained = some captured) {topic : String}
    {bytes : ByteArray} {payload : PayloadBytes} {d : Discovery}
    (hlookup : retained.lookup topic = some bytes)
    (hpayload : PayloadBytes.of_bytes limit bytes = some payload)
    (hcapture : capture text topic payload = some d) : d ∈ captured := by
  obtain ⟨results, hresults, rfl⟩ := Option.map_eq_some_iff.mp h
  obtain ⟨result, hresult, hread⟩ := (forall_mem_of_mapM hresults).1 _
    (AList.mem_lookup_iff.mp hlookup)
  rw [hpayload, Option.map_some, hcapture, Option.some.injEq] at hread
  exact List.mem_filterMap.mpr ⟨result, hresult, hread.symm⟩

/-- A topic is chosen for what was captured there. -/
theorem mem_topics_iff {captured : Dict String ByteArray} {topics : List String}
    (h : topics_to_clear text is_digit limit args spec captured = some topics) {topic : String} :
    topic ∈ topics ↔ args.apply = true ∧ ∃ bytes, captured.lookup topic = some bytes ∧
      Cleanable text is_digit limit args spec topic bytes := by
  obtain ⟨discoveries, hdiscoveries, rfl⟩ := Option.map_eq_some_iff.mp h
  split_ifs with happly
  · rw [mem_collect_iff]
    constructor
    · rintro ⟨d, hd, rfl, hcleaned⟩
      obtain ⟨bytes, payload, hlookup, hpayload, hcapture⟩ :=
        exists_retained_of_mem hdiscoveries hd
      exact ⟨happly, bytes, hlookup, payload, d, hpayload, hcapture, hcleaned⟩
    · rintro ⟨-, bytes, hlookup, payload, d, hpayload, hcapture, hcleaned⟩
      exact ⟨d, mem_of_retained hdiscoveries hlookup hpayload hcapture, capture_topic hcapture,
        hcleaned⟩
  · simp [happly]

/-- The bytes the bridge publishes under a topic. -/
def Published (float_repr : ℚ → List Char) (published : List Message) (topic : String)
    (bytes : ByteArray) : Prop :=
  ∃ payload, (topic, payload) ∈ published ∧ published_bytes float_repr payload = some bytes

/-- What the bridge published is not cleanable. -/
theorem not_cleanable {publisher : MqttPublisher} {bms_cfg : BmsCfg} {n_inverters depth : Nat}
    (hn : publisher.n_inverters = n_inverters) {topic : String} {bytes : ByteArray}
    (h : Published float_repr (discovery_payloads publisher bms_cfg) topic bytes) :
    ¬ Cleanable text is_digit (depth + 3) args (shipped_spec n_inverters) topic bytes := by
  rintro ⟨payload', d, hpayload', hcapture, hcleaned⟩
  obtain ⟨payload, hm, hbytes⟩ := h
  have hencodable : PyValue.Encodable float_repr (depth + 3) payload := encodable_discovery hm
  obtain ⟨sent, hsent, hread⟩ := of_bytes_published hencodable
  cases hbytes.symm.trans hsent
  cases hpayload'.symm.trans hread
  cases (discovery_payload_category hn hm hcapture args.include_sa_static).symm.trans hcleaned

theorem spares_published {publisher : MqttPublisher} {bms_cfg : BmsCfg} {n_inverters depth : Nat}
    (hn : publisher.n_inverters = n_inverters) :
    Spares (Published float_repr (discovery_payloads publisher bms_cfg))
      (topics_to_clear text is_digit (depth + 3) args (shipped_spec n_inverters)) := by
  intro captured topics htopics hproper topic hmem hguarded
  obtain ⟨-, bytes, hlookup, hcleanable⟩ := (mem_topics_iff htopics).mp hmem
  exact not_cleanable hn (hproper topic bytes hlookup hguarded) hcleanable

/-- The tool's session with a broker, for every configuration of the bridge, with the shipped
document. As long as no one but the bridge publishes under the topics of its discoveries: what the
broker retains of them at any time of the run it retains from then on; a topic is cleared only
when `--apply` is given, for what the broker retained there at some time of the run; and when the
tool exits with zero, all it captured that is to be cleaned was cleared. -/
theorem cleanup_session (text : PyValue → String) (is_digit : Char → Bool)
    (float_repr : ℚ → List Char) (env : Environment) (cfg : MqttCfg) (bms_cfg : BmsCfg)
    (n_inverters depth : Nat) (args : Args) :
    let live := Published float_repr
      (discovery_payloads (MqttPublisher.of_config env cfg n_inverters) bms_cfg)
    ∃ spec, load_canonical_spec text (some (.dict mqtt_canonical)) n_inverters = .ok spec ∧
      ∀ (retained : Dict String ByteArray) (acts : List (Act String ByteArray))
        (s : State String ByteArray),
        let session := step (topics_to_clear text is_digit (depth + 3) args spec)
        (∀ topic bytes, retained.lookup topic = some bytes → Proper live topic bytes) →
        (∀ a ∈ acts, Respects live a) →
        run session (State.start retained) acts = some s →
        (∀ before after mid, acts = before ++ after →
          run session (State.start retained) before = some mid →
          ∀ topic ∈ mid.store, Guarded live topic →
            ∃ bytes, s.store.lookup topic = some bytes ∧ live topic bytes) ∧
        (∀ topic ∈ s.erased, args.apply = true ∧ ¬ Guarded live topic ∧ ∃ bytes,
          Occurred session (State.start retained) acts
            (fun mid _ => mid.store.lookup topic = some bytes) ∧
          Cleanable text is_digit (depth + 3) args spec topic bytes) ∧
        (args.apply = true → s.phase = .over .idle ∨ s.phase = .over .complete →
          ∀ topic bytes, s.seen.lookup topic = some bytes →
            Cleanable text is_digit (depth + 3) args spec topic bytes → topic ∈ s.erased) := by
  intro live
  refine ⟨shipped_spec n_inverters, load_mqtt_canonical text n_inverters, ?_⟩
  intro retained acts s session hretained hacts hrun
  have hspares : Spares live (topics_to_clear text is_digit (depth + 3) args
      (shipped_spec n_inverters)) := spares_published rfl
  have haccounted := run_accounted hrun
  have hsafe := ((Safe.start hretained).run hspares hacts hrun).1
  refine ⟨?_, fun topic htopic => ?_, fun happly hzero topic bytes hlookup hcleanable => ?_⟩
  · intro before after mid heq hmid topic hheld hguarded
    rw [heq, run_append_of_eq hmid] at hrun
    rw [heq, List.forall_mem_append] at hacts
    have hmid_safe := ((Safe.start hretained).run hspares hacts.1 hmid).1
    obtain ⟨hend, hkept⟩ := hmid_safe.run hspares hacts.2 hrun
    obtain ⟨bytes, hbytes⟩ := Dict.mem_iff_lookup.mp (hkept topic hguarded hheld)
    exact ⟨bytes, hbytes, hend.store topic bytes hbytes hguarded⟩
  · obtain ⟨hchosen, -⟩ := haccounted.erased topic htopic
    obtain hnone | ⟨-, hchoose⟩ := haccounted.chosen
    · rw [hnone] at hchosen
      cases hchosen
    · obtain ⟨happly, bytes, hlookup, hcleanable⟩ := (mem_topics_iff hchoose).mp hchosen
      exact ⟨happly, hsafe.chosen topic hchosen, bytes, haccounted.seen topic bytes hlookup,
        hcleanable⟩
  · obtain hidle | hcomplete := hzero
    · have hmem := (mem_topics_iff (haccounted.idle hidle)).mpr ⟨happly, bytes, hlookup, hcleanable⟩
      cases hmem
    · have hchoose := haccounted.sent (.inr (by rw [hcomplete]; rfl))
      have hmem := (mem_topics_iff hchoose).mpr ⟨happly, bytes, hlookup, hcleanable⟩
      exact haccounted.complete hcomplete topic hmem

/-- The tool sees both messages, and clears one. -/
def one_cleared (topic : String) : List (Act String ByteArray) :=
  [.look fun _ => true, .receive, .receive, .choose, .send, .erase topic, .confirm topic, .finish]

/-- A session in which the second of two topics is chosen. -/
theorem run_one_cleared {choose : Dict String ByteArray → Option (List String)}
    {store : Dict String ByteArray} {live topic : String} {sent orphan : ByteArray}
    (hentries : store.entries = [⟨live, sent⟩, ⟨topic, orphan⟩])
    (hchoose : choose (Dict.assign ∅ [(live, sent), (topic, orphan)]) = some [topic]) :
    run (step choose) (State.start store) (one_cleared topic) = some {
      store := store.erase topic
      inbound := []
      seen := Dict.assign ∅ [(live, sent), (topic, orphan)]
      phase := .over .complete
      chosen := [topic]
      erased := [topic]
      confirmed := [topic] } := by
  rw [Dict.assign_cons, Dict.assign_cons, Dict.assign_nil] at hchoose ⊢
  simp [one_cleared, step, State.start, State.outcome, Phase.sent, hentries, hchoose,
    -AList.insert_empty]

/-- The copy is captured, cleared and confirmed, and the bridge's message beside it stays. -/
theorem cleanup_session_orphan :
    ∃ live sent orphan s, live ∈ home_messages ∧
      run (step (topics_to_clear home_env.text Char.isDigit 10 ⟨false, true⟩ (shipped_spec 1)))
        (State.start (Dict.assign ∅ [(orphan_message.1, orphan), (live.1, sent)]))
        (one_cleared orphan_message.1) = some s ∧
      s.phase = .over .complete ∧ s.erased = [orphan_message.1] ∧
      ∃ bytes, s.store.lookup live.1 = some bytes ∧
        Published (fun _ => []) home_messages live.1 bytes := by
  obtain ⟨live, hlive, hcollected⟩ := List.any_eq_true.mp orphan_collected
  obtain ⟨hne, hforeign, hcollected⟩ := of_decide_eq_true hcollected
  have hencodable : PyValue.Encodable (fun _ => []) 10 live.2 := encodable_discovery hlive
  obtain ⟨sent, hsent, hreceived⟩ := of_bytes_published hencodable
  have hpublished : Published (fun _ => []) home_messages live.1 sent := ⟨live.2, hlive, hsent⟩
  obtain ⟨orphan, -, horphan⟩ := @of_bytes_published (fun _ => []) 10 orphan_message.2
    (encodable_dict (List.forall_mem_singleton.mpr (encodable_text _ _)))
  have hchoose : topics_to_clear home_env.text Char.isDigit 10 ⟨false, true⟩ (shipped_spec 1)
      (Dict.assign ∅ [(live.1, sent), (orphan_message.1, orphan)]) = some [orphan_message.1] := by
    rw [topics_to_clear, capture_two hne horphan hreceived, Option.map_some, if_pos rfl, hcollected]
  have hrun := run_one_cleared (entries_two hne.symm sent orphan) hchoose
  obtain ⟨spec, hspec, hsession⟩ := cleanup_session home_env.text Char.isDigit (fun _ => []) home_env
    home_mqtt {} 1 7 ⟨false, true⟩
  obtain rfl := Except.ok.inj (hspec.symm.trans (load_mqtt_canonical home_env.text 1))
  have hretained : (Dict.assign ∅ [(orphan_message.1, orphan), (live.1, sent)]).lookup live.1 =
      some sent := by
    rw [Dict.assign_cons, Dict.assign_cons, Dict.assign_nil, AList.lookup_insert]
  have hproper : ∀ topic bytes,
      (Dict.assign ∅ [(orphan_message.1, orphan), (live.1, sent)]).lookup topic = some bytes →
      Proper (Published (fun _ => []) home_messages) topic bytes := by
    rintro topic bytes hlookup ⟨_, payload, hmessage, -⟩
    obtain hempty | hmem := Dict.lookup_or_mem_of_lookup_assign hlookup
    · cases hempty
    · rw [List.mem_cons, List.mem_singleton] at hmem
      obtain heq | heq := hmem
      · cases heq
        exact absurd (List.mem_map.mpr ⟨_, hmessage, rfl⟩) hforeign
      · cases heq
        exact hpublished
  have hrespects : ∀ a ∈ one_cleared orphan_message.1,
      Respects (Published (fun _ => []) home_messages) a := by
    simp [one_cleared, Respects]
  obtain ⟨hkept, -⟩ := hsession _ _ _ hproper hrespects hrun
  exact ⟨live, sent, orphan, _, hlive, hrun, rfl, rfl,
    hkept [] _ _ rfl rfl live.1 (Dict.mem_iff_lookup.mpr ⟨sent, hretained⟩) ⟨sent, hpublished⟩⟩

end tools.cleanup_orphan_discoveries
