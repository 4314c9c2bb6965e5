import InverterBridge.Lib.JsonValue
import InverterBridge.Tools.LiveDiscoveries

/-! The discovery messages as bytes: what the bridge sends, and what the cleanup tool makes of
what a broker retains. -/

open Python
open inverter_bridge.config inverter_bridge.mqtt_publisher inverter_bridge.bms.discovery

namespace tools.cleanup_orphan_discoveries

/-! ## Sending -/

/-- The discovery messages of the bridge: topics and payloads. -/
def discovery_payloads (publisher : MqttPublisher) (bms_cfg : BmsCfg) : List Message :=
  publisher.publish_discovery.map (fun m => (m.config_topic, m.payload.to_value)) ++
    discovery_messages bms_cfg

section

-- `float.__repr__` of a finite float
variable (float_repr : ℚ → List Char)

/-- The bytes of `publish(topic, json.dumps(payload), ...)`. -/
def published_bytes (payload : PyValue) : Option ByteArray :=
  (PyValue.json_dumps float_repr payload).map String.toUTF8

end

/-! ## Receiving -/

/-- The value of a message's bytes, as `parse_discovery` gets at it; there is none when
`json.loads` fails with another error than a `JSONDecodeError`. -/
def PayloadBytes.of_bytes (limit : Nat) (bytes : ByteArray) : Option PayloadBytes :=
  if bytes.size = 0 then some .empty
  else
    match String.fromUTF8? bytes with
    | none => some .not_utf8
    | some text =>
      match Json.loads limit text.toList with
      | .ok value => (PyValue.of_json value).map .json
      | .error .JSONDecodeError => some .not_json
      | .error _ => none

/-- `capture_retained(...)`, with the retained bytes of the broker. -/
def capture_retained_bytes (text : PyValue → String) (limit : Nat)
    (retained : Dict String ByteArray) : Option (List Discovery) :=
  (retained.entries.mapM fun entry =>
    (PayloadBytes.of_bytes limit entry.2).map (capture text entry.1)).map
      fun captured => captured.filterMap id

variable {text : PyValue → String} {is_digit : Char → Bool} {float_repr : ℚ → List Char}
  {limit : Nat}

/-- The bytes of a payload are read as the payload. -/
theorem of_bytes_published {payload : PyValue} (h : PyValue.Encodable float_repr limit payload) :
    ∃ bytes, published_bytes float_repr payload = some bytes ∧
      PayloadBytes.of_bytes limit bytes = some (.json payload) := by
  obtain ⟨sent, v, hdumps, hloads, hof⟩ := PyValue.loads_json_dumps h
  have hsize : sent.toUTF8.size ≠ 0 := by
    intro hzero
    have hempty : sent = "" := String.toByteArray_inj.mp (ByteArray.size_eq_zero_iff.mp hzero)
    have herror : Json.loads limit [] = .error .JSONDecodeError := by cases limit <;> rfl
    rw [hempty] at hloads
    cases herror.symm.trans hloads
  have hdecode : String.fromUTF8? sent.toUTF8 = some sent := dif_pos sent.isValidUTF8
  refine ⟨sent.toUTF8, by rw [published_bytes, hdumps, Option.map_some], ?_⟩
  rw [PayloadBytes.of_bytes, if_neg hsize, hdecode]
  dsimp only
  rw [hloads]
  dsimp only
  rw [hof, Option.map_some]

/-! ## Every discovery message is written as JSON -/

/-- A member that is written and read back. -/
def EncodableMember (float_repr : ℚ → List Char) (limit : Nat) (member : Scalar × PyValue) :
    Prop :=
  (∃ key, member.1 = .str key) ∧ PyValue.Encodable float_repr limit member.2

theorem encodable_dict {members : List (Scalar × PyValue)}
    (h : ∀ member ∈ members, EncodableMember float_repr limit member) :
    PyValue.Encodable float_repr (limit + 1) (.dict members) :=
  .dict (fun member hmember => (h member hmember).1) fun member hmember => (h member hmember).2

theorem encodable_text (key value : String) :
    EncodableMember float_repr limit (PyValue.text_entry key value) :=
  ⟨⟨key, rfl⟩, .str value⟩

theorem encodable_optional {α : Type} {entry : α → Scalar × PyValue} {o : Option α}
    (h : ∀ x ∈ o, EncodableMember float_repr limit (entry x)) :
    ∀ member ∈ (o.map entry).toList, EncodableMember float_repr limit member := by
  intro member hmember
  rw [Option.mem_toList, Option.map_eq_some_iff] at hmember
  obtain ⟨x, hx, rfl⟩ := hmember
  exact h x hx

theorem encodable_optional_text (key : String) (o : Option String) :
    ∀ member ∈ (o.map (PyValue.text_entry key)).toList, EncodableMember float_repr limit member :=
  encodable_optional fun value _ => encodable_text key value

theorem encodable_strings (values : List String) :
    PyValue.Encodable float_repr (limit + 1) (PyValue.strings values) := by
  refine .list fun item hitem => ?_
  obtain ⟨value, -, rfl⟩ := List.mem_map.mp hitem
  exact .str value

/-- The payload of an inverter sensor is written, whatever its texts are. -/
theorem encodable_payload (payload : Payload) :
    PyValue.Encodable float_repr (limit + 3) payload.to_value := by
  have hdevice : EncodableMember float_repr (limit + 2) (.str "device", .dict [
      (.str "identifiers", PyValue.strings payload.device.identifiers),
      PyValue.text_entry "name" payload.device.name,
      PyValue.text_entry "manufacturer" payload.device.manufacturer,
      PyValue.text_entry "model" payload.device.model]) := by
    refine ⟨⟨_, rfl⟩, encodable_dict ?_⟩
    simp only [List.forall_mem_cons]
    exact ⟨⟨⟨_, rfl⟩, encodable_strings _⟩, encodable_text _ _, encodable_text _ _,
      encodable_text _ _, nofun⟩
  have hforce : ∀ member ∈ (payload.force_update.map fun b =>
      ((.str "force_update", .scalar (.bool b)) : Scalar × PyValue)).toList,
      EncodableMember float_repr (limit + 2) member :=
    encodable_optional fun b _ => ⟨⟨_, rfl⟩, .bool b⟩
  refine encodable_dict ?_
  unfold Payload.members
  dsimp only
  split
  all_goals
    simp only [List.forall_mem_append, List.forall_mem_cons]
  · exact ⟨⟨encodable_text _ _, encodable_text _ _, encodable_text _ _, encodable_text _ _, nofun⟩,
      ⟨⟨encodable_text _ _, encodable_text _ _, nofun⟩, encodable_optional_text _ _⟩,
      encodable_text _ _, hdevice, nofun⟩
  · exact ⟨⟨encodable_text _ _, encodable_text _ _, encodable_text _ _, encodable_text _ _, nofun⟩,
      ⟨⟨⟨⟨encodable_text _ _, hdevice, nofun⟩, encodable_optional_text _ _⟩,
        encodable_optional_text _ _⟩, encodable_optional_text _ _⟩, hforce⟩

/-- The displayed digits of the BMS's entities. -/
theorem accuracy_lt {entity : EntityDef} (hentity : entity ∈ all_bms_entities) {n : Int}
    (hn : entity.accuracy = some n) : n.natAbs < 4 := by
  have hall : ∀ entity ∈ all_bms_entities, ∀ n ∈ entity.accuracy, n.natAbs < 4 := by
    decide +kernel
  exact hall entity hentity n hn

theorem encodable_bms_payload {entity : EntityDef} (hentity : entity ∈ all_bms_entities)
    (device_id device_name topic_prefix availability_topic : String) :
    PyValue.Encodable float_repr (limit + 3) (build_discovery_payload entity device_id device_name
      topic_prefix availability_topic) := by
  have hdevice : EncodableMember float_repr (limit + 2) (.str "device", .dict [
      (.str "identifiers", .list [.scalar (.str device_id)]),
      PyValue.text_entry "name" device_name,
      PyValue.text_entry "manufacturer" "BlueSun / XZH-ElecTech",
      PyValue.text_entry "model" "BMS16S200A-SP05B (4-pack 16s LiFePO4)",
      PyValue.text_entry "configuration_url"
        "https://github.com/gabrielpc1190/SolarInverter2MQTT"]) := by
    refine ⟨⟨_, rfl⟩, encodable_dict ?_⟩
    simp only [List.forall_mem_cons]
    exact ⟨⟨⟨_, rfl⟩, encodable_strings [device_id]⟩, encodable_text _ _, encodable_text _ _,
      encodable_text _ _, encodable_text _ _, nofun⟩
  have haccuracy : ∀ member ∈ (entity.accuracy.map fun n =>
      ((.str "suggested_display_precision", .scalar (.int n)) : Scalar × PyValue)).toList,
      EncodableMember float_repr (limit + 2) member := by
    refine encodable_optional fun n hn => ⟨⟨_, rfl⟩, .int ?_⟩
    have hdigit := (accuracy_lt hentity hn).trans (show 4 < 10 by decide)
    rw [Nat.toDigits_of_lt_base hdigit, List.length_singleton]
    decide
  have hforce : ∀ member ∈ (if entity.force_update then
      [((.str "force_update", .scalar (.bool true)) : Scalar × PyValue)] else []),
      EncodableMember float_repr (limit + 2) member := by
    split_ifs
    · exact List.forall_mem_singleton.mpr ⟨⟨_, rfl⟩, .bool true⟩
    · nofun
  refine encodable_dict ?_
  simp only [List.forall_mem_append, List.forall_mem_cons]
  exact ⟨⟨⟨⟨⟨⟨⟨⟨encodable_text _ _, encodable_text _ _, encodable_text _ _, encodable_text _ _,
    encodable_text _ _, encodable_text _ _, encodable_text _ _, hdevice, nofun⟩,
    encodable_optional_text _ _⟩, encodable_optional_text _ _⟩, encodable_optional_text _ _⟩,
    encodable_optional_text _ _⟩, haccuracy⟩, hforce⟩, encodable_optional_text _ _⟩

theorem encodable_discovery {publisher : MqttPublisher} {bms_cfg : BmsCfg} {m : Message}
    (hm : m ∈ discovery_payloads publisher bms_cfg) :
    PyValue.Encodable float_repr (limit + 3) m.2 := by
  obtain hm | hm := List.mem_append.mp hm
  · obtain ⟨announcement, -, rfl⟩ := List.mem_map.mp hm
    exact encodable_payload announcement.payload
  · obtain ⟨entity, hentity, rfl⟩ := List.mem_map.mp hm
    exact encodable_bms_payload hentity _ _ _ _

/-! ## What the tool captures -/

theorem forall_mem_of_mapM {α β : Type} {f : α → Option β} {xs : List α} {ys : List β}
    (h : xs.mapM f = some ys) :
    (∀ x ∈ xs, ∃ y ∈ ys, f x = some y) ∧ ∀ y ∈ ys, ∃ x ∈ xs, f x = some y := by
  induction xs generalizing ys with
  | nil =>
    cases h
    exact ⟨List.forall_mem_nil _, List.forall_mem_nil _⟩
  | cons x xs ih =>
    simp only [List.mapM_cons, Option.bind_eq_bind, Option.bind_eq_some_iff, Option.pure_def,
      Option.some.injEq] at h
    obtain ⟨y, hx, ys, hxs, rfl⟩ := h
    obtain ⟨hall, honly⟩ := ih hxs
    constructor
    · refine List.forall_mem_cons.mpr ⟨⟨y, List.mem_cons_self, hx⟩, fun x' hx' => ?_⟩
      obtain ⟨y', hy', heq⟩ := hall x' hx'
      exact ⟨y', List.mem_cons_of_mem _ hy', heq⟩
    · refine List.forall_mem_cons.mpr ⟨⟨x, List.mem_cons_self, hx⟩, fun y' hy' => ?_⟩
      obtain ⟨x', hx', heq⟩ := honly y' hy'
      exact ⟨x', List.mem_cons_of_mem _ hx', heq⟩

/-- What is captured was read from the bytes under its topic. -/
theorem exists_retained_of_mem {retained : Dict String ByteArray} {captured : List Discovery}
    (h : capture_retained_bytes text limit retained = some captured) {d : Discovery}
    (hd : d ∈ captured) : ∃ bytes payload, retained.lookup d.topic = some bytes ∧
      PayloadBytes.of_bytes limit bytes = some payload ∧
      capture text d.topic payload = some d := by
  obtain ⟨results, hresults, rfl⟩ := Option.map_eq_some_iff.mp h
  obtain ⟨result, hresult, hsome⟩ := List.mem_filterMap.mp hd
  obtain ⟨entry, hentry, hread⟩ := (forall_mem_of_mapM hresults).2 result hresult
  obtain ⟨payload, hpayload, hcapture⟩ := Option.map_eq_some_iff.mp hread
  have hcaptured : capture text entry.1 payload = some d := hcapture.trans hsome
  rw [capture_topic hcaptured]
  exact ⟨entry.2, payload, AList.mem_lookup_iff.mpr hentry, hpayload, hcaptured⟩

/-- A captured discovery of the bridge is canonical or unrelated. -/
theorem discovery_payload_category {publisher : MqttPublisher} {bms_cfg : BmsCfg}
    {n_inverters : Nat} (hn : publisher.n_inverters = n_inverters) {m : Message} {d : Discovery}
    (hm : m ∈ discovery_payloads publisher bms_cfg)
    (hcapture : capture text m.1 (.json m.2) = some d) (include_sa_static : Bool) :
    (categorize is_digit d (shipped_spec n_inverters)).cleaned include_sa_static = false := by
  obtain hm | hm := List.mem_append.mp hm
  · obtain ⟨announcement, hannouncement, rfl⟩ := List.mem_map.mp hm
    rw [inverter_discovery_canonical hn hannouncement hcapture]
    rfl
  · rw [bms_discovery_unrelated hm hcapture]
    rfl

/-- Every discovery message of the bridge, whatever texts its configuration has, is read back
from the bytes that the broker retains as what was published, where three dicts and lists fit
around one another; and a cleanup that gets through the broker's messages never collects the
topic of one of them. -/
theorem retained_discoveries_read_back (text : PyValue → String) (is_digit : Char → Bool)
    (float_repr : ℚ → List Char) (env : Environment) (cfg : MqttCfg) (bms_cfg : BmsCfg)
    (n_inverters depth : Nat) :
    let published := discovery_payloads (MqttPublisher.of_config env cfg n_inverters) bms_cfg
    (∀ topic payload, (topic, payload) ∈ published → ∃ bytes,
      published_bytes float_repr payload = some bytes ∧
        PayloadBytes.of_bytes (depth + 3) bytes = some (.json payload)) ∧
    ∃ spec, load_canonical_spec text (some (.dict mqtt_canonical)) n_inverters = .ok spec ∧
      ∀ (retained : Dict String ByteArray) (captured : List Discovery) (include_sa_static : Bool),
        capture_retained_bytes text (depth + 3) retained = some captured →
        ∀ topic payload, (topic, payload) ∈ published →
          retained.lookup topic = published_bytes float_repr payload →
          topic ∉ collect_topics_to_clean (build_report is_digit captured spec)
            include_sa_static := by
  intro published
  have hread : ∀ topic payload, (topic, payload) ∈ published → ∃ bytes,
      published_bytes float_repr payload = some bytes ∧
        PayloadBytes.of_bytes (depth + 3) bytes = some (.json payload) :=
    fun topic payload hm => of_bytes_published (encodable_discovery hm)
  refine ⟨hread, shipped_spec n_inverters, load_mqtt_canonical text n_inverters, ?_⟩
  intro retained captured include_sa_static hcaptured topic payload hm hretained hcollected
  obtain ⟨d, hd, rfl, hcleaned⟩ := mem_collect_iff.mp hcollected
  obtain ⟨bytes, payload', hlookup, hpayload', hcapture⟩ := exists_retained_of_mem hcaptured hd
  obtain ⟨sent, hsent, hreceived⟩ := hread d.topic payload hm
  have hbytes : bytes = sent := Option.some.inj (hlookup.symm.trans (hretained.trans hsent))
  have hpayload : payload' = .json payload :=
    Option.some.inj (hpayload'.symm.trans (hbytes ▸ hreceived))
  rw [hpayload] at hcapture
  have hspared := @discovery_payload_category _ is_digit _ _ n_inverters rfl _ d hm hcapture
    include_sa_static
  cases hspared.symm.trans hcleaned

/-- A bridge with one inverter. -/
def home_env : Environment where
  path_text path := path
  file_exists _ := true
  read_text _ := .ok "pwd"
  repr _ := ""
  text _ := ""
  decimal_digit _ := none

def home_mqtt : MqttCfg where
  host := .scalar (.str "192.0.2.10")
  username := .scalar (.str "inverter_bridge")
  password := "pwd"

def home_messages : List Message :=
  discovery_payloads (MqttPublisher.of_config home_env home_mqtt 1) {}

/-- A copy that was retained under another id. -/
def orphan_message : Message :=
  ("homeassistant/sensor/total_battery_state_of_charge_2/config",
    .dict [PyValue.text_entry "unique_id" "total_battery_state_of_charge_2"])

/-- The tool makes two discoveries of the copy and a message of the bridge, and collects the copy. -/
theorem orphan_collected : home_messages.any (fun live =>
    orphan_message.1 ≠ live.1 ∧ orphan_message.1 ∉ home_messages.map Prod.fst ∧
      collect_topics_to_clean (build_report Char.isDigit ([orphan_message, live].filterMap
        fun m => capture home_env.text m.1 (.json m.2)) (shipped_spec 1)) false =
        [orphan_message.1]) = true := by
  decide +kernel

theorem entries_two {topic topic' : String} (hne : topic ≠ topic') (sent sent' : ByteArray) :
    (Dict.assign (∅ : Dict String ByteArray) [(topic', sent'), (topic, sent)]).entries =
      [⟨topic, sent⟩, ⟨topic', sent'⟩] := by
  have hnew : topic ∉ (∅ : Dict String ByteArray).insert topic' sent' := by
    rw [AList.mem_insert]
    simp [hne]
  rw [Dict.assign_cons, Dict.assign_cons, Dict.assign_nil, AList.entries_insert_of_notMem hnew,
    AList.entries_insert_of_notMem (AList.notMem_empty topic')]
  rfl

/-- What is captured of two retained messages. -/
theorem capture_two {first second : Message} (hne : first.1 ≠ second.1) {sent sent' : ByteArray}
    (hsent : PayloadBytes.of_bytes limit sent = some (.json first.2))
    (hsent' : PayloadBytes.of_bytes limit sent' = some (.json second.2)) :
    capture_retained_bytes text limit (Dict.assign ∅ [(second.1, sent'), (first.1, sent)]) =
      some ([first, second].filterMap fun m => capture text m.1 (.json m.2)) := by
  rw [capture_retained_bytes, entries_two hne]
  simp [hsent, hsent', List.filterMap_cons]

theorem retained_discoveries_read_back_orphan :
    ∃ live sent orphan captured spec, live ∈ home_messages ∧
      PayloadBytes.of_bytes 10 sent = some (.json live.2) ∧
      load_canonical_spec home_env.text (some (.dict mqtt_canonical)) 1 = .ok spec ∧
      capture_retained_bytes home_env.text 10
        (Dict.assign ∅ [(live.1, sent), (orphan_message.1, orphan)]) = some captured ∧
      orphan_message.1 ∈ collect_topics_to_clean (build_report Char.isDigit captured spec) false ∧
      live.1 ∉ collect_topics_to_clean (build_report Char.isDigit captured spec) false := by
  obtain ⟨live, hlive, hcollected⟩ := List.any_eq_true.mp orphan_collected
  obtain ⟨hne, -, hcollected⟩ := of_decide_eq_true hcollected
  obtain ⟨hread, spec, hspec, hspared⟩ := retained_discoveries_read_back home_env.text Char.isDigit
    (fun _ => []) home_env home_mqtt {} 1 7
  obtain ⟨sent, hsent, hreceived⟩ := hread live.1 live.2 hlive
  obtain ⟨orphan, -, horphan⟩ := @of_bytes_published (fun _ => []) 10 orphan_message.2
    (encodable_dict (List.forall_mem_singleton.mpr (encodable_text _ _)))
  have hcaptured := @capture_two home_env.text 10 orphan_message live hne _ _ horphan hreceived
  obtain rfl := Except.ok.inj (hspec.symm.trans (load_mqtt_canonical home_env.text 1))
  refine ⟨live, sent, orphan, _, _, hlive, hreceived, hspec, hcaptured, ?_, ?_⟩
  · rw [hcollected]
    exact List.mem_singleton_self _
  · refine hspared _ _ false hcaptured live.1 live.2 hlive ?_
    rw [hsent, Dict.assign_cons, Dict.assign_cons, Dict.assign_nil,
      AList.lookup_insert_ne hne.symm, AList.lookup_insert]

end tools.cleanup_orphan_discoveries
