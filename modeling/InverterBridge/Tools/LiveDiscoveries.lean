import InverterBridge.Tools.CanonicalSpec

open Python
open inverter_bridge.config inverter_bridge.mqtt_publisher inverter_bridge.bms.discovery

namespace tools.cleanup_orphan_discoveries

variable {text : PyValue → String} {is_digit : Char → Bool} {d : Discovery}

/-! ## How a live discovery is captured -/

/-- The component of a captured config topic is its second level. -/
theorem component_of_config_topic {head component name c : String}
    (hcomponent : '/' ∉ component.toList)
    (h : component_of (head ++ "/" ++ component ++ "/" ++ name ++ "/" ++ "config") = some c) :
    c = component := by
  have hsplit : Text.split '/' (head ++ "/" ++ component ++ "/" ++ name ++ "/" ++ "config") =
      Text.split '/' head ++ [component] ++ Text.split '/' name ++ ["config"] := by
    rw [show "/" = String.singleton '/' from rfl, Text.split_append, Text.split_append,
      Text.split_append, Text.split_eq_singleton hcomponent]
    rfl
  have hhead := List.length_pos_iff.mpr (Text.split_ne_nil '/' head)
  have hname := List.length_pos_iff.mpr (Text.split_ne_nil '/' name)
  unfold component_of at h
  rw [hsplit] at h
  split at h
  case h_2 => cases h
  case h_1 c' _ hlevels =>
    have hlength := congrArg List.length hlevels
    simp only [List.length_append, List.length_cons, List.length_nil] at hlength
    obtain ⟨first, hfirst⟩ := List.length_eq_one_iff.mp (show (Text.split '/' head).length = 1 by omega)
    rw [hfirst] at hlevels
    simp only [List.cons_append, List.nil_append, List.cons.injEq] at hlevels
    split_ifs at h
    rw [← Option.some.inj h, hlevels.2.1]

example : component_of "homeassistant/sensor/total_mode/config" = some "sensor" := by
  decide +kernel

theorem text_of_eq {raw : List (Scalar × PyValue)} {key short value : String}
    (hlookup : PyValue.lookup key raw = some (.scalar (.str value))) (hne : value ≠ "") :
    text_of text raw key short = value := by
  simp [text_of, hlookup, PyValue.truthy, Scalar.truthy, hne, PyValue.to_str]

/-- A captured message with a unique id is about it, and of the component of its topic. -/
theorem capture_live {head component name unique_id : String} {raw : List (Scalar × PyValue)}
    (hcomponent : '/' ∉ component.toList)
    (hlookup : PyValue.lookup "unique_id" raw = some (.scalar (.str unique_id)))
    (hne : unique_id ≠ "")
    (h : capture text (head ++ "/" ++ component ++ "/" ++ name ++ "/" ++ "config")
      (.json (.dict raw)) = some d) :
    d.component = component ∧ d.unique_id = unique_id := by
  obtain ⟨c, hc, hparse⟩ := Option.bind_eq_some_iff.mp h
  rw [component_of_config_topic hcomponent hc, parse_discovery, Option.some.injEq] at hparse
  rw [← hparse]
  exact ⟨rfl, text_of_eq hlookup hne⟩

theorem lookup_unique_id (payload : Payload) : ∃ raw, payload.to_value = .dict raw ∧
    PyValue.lookup "unique_id" raw = some (.scalar (.str payload.unique_id)) := by
  refine ⟨payload.members, rfl, ?_⟩
  unfold Payload.members
  dsimp only
  split
  all_goals
    simp (disch := simp) only [PyValue.lookup_append, PyValue.lookup_optional,
      PyValue.lookup_optional_text, Option.none_or]
    rfl

/-! ## The inverters -/

/-- Every message announces a sensor, or is that of the online sensor. -/
theorem publish_discovery_cases {self : MqttPublisher} {m : Announcement}
    (hm : m ∈ self.publish_discovery) :
    (∃ k ∈ announced self.n_inverters, ∃ sensor display_name,
      m = self.publish_discovery_one sensor k.text display_name) ∨
      m = self.publish_binary_sensor_discovery := by
  simp only [MqttPublisher.publish_discovery, List.mem_append, List.mem_map, List.mem_flatMap,
    List.mem_singleton] at hm
  obtain (((⟨sensor, hsensor, rfl⟩ | ⟨sensor, hsensor, rfl⟩) | ⟨i, hi, sensor, hsensor, rfl⟩) |
    ⟨sensor, hsensor, rfl⟩) | rfl := hm
  · refine .inl ⟨.site sensor.key, site_mem_announced _ ?_, sensor, _, rfl⟩
    exact List.mem_map_of_mem (List.mem_append_left _ hsensor)
  · refine .inl ⟨.site sensor.key, site_mem_announced _ ?_, sensor, _, rfl⟩
    exact List.mem_map_of_mem (List.mem_append_right _ hsensor)
  · refine .inl ⟨.inverter (i + 1) sensor.key, ?_, sensor, _, rfl⟩
    exact inverter_mem_announced (List.mem_range.mp hi) (List.mem_map_of_mem hsensor)
  · refine .inl ⟨_, daemon_mem_announced _ hsensor, sensor, ?_⟩
    rw [SensorKey.text, ← meta_key_eq sensor hsensor]
    exact ⟨_, rfl⟩
  · exact .inr rfl

theorem unique_id_ne_empty (k : SensorKey) : k.unique_id ≠ "" := by
  intro heq
  have hlist := congrArg String.toList heq
  cases k with
  | site name => simp [SensorKey.unique_id, toString] at hlist
  | inverter i name => simp [SensorKey.unique_id, Text.toList_numbered] at hlist
  | daemon name => simp [SensorKey.unique_id] at hlist

/-- A captured discovery of the inverters is canonical. -/
theorem inverter_discovery_canonical {self : MqttPublisher} {n_inverters : Nat}
    {m : Announcement} (hself : self.n_inverters = n_inverters) (hm : m ∈ self.publish_discovery)
    (hcapture : capture text m.config_topic (.json m.payload.to_value) = some d) :
    categorize is_digit d (shipped_spec n_inverters) = .CANONICAL := by
  subst hself
  obtain ⟨raw, hraw, hlookup⟩ := lookup_unique_id m.payload
  rw [hraw] at hcapture
  refine if_pos ?_
  obtain ⟨k, hk, sensor, display_name, rfl⟩ | rfl := publish_discovery_cases hm
  · have hunique : (self.publish_discovery_one sensor k.text display_name).payload.unique_id =
        k.unique_id := SensorKey.key_to_unique_id_text (announced_proper hk)
    have htopic : (self.publish_discovery_one sensor k.text display_name).config_topic =
        self.discovery_prefix ++ "/" ++ "sensor" ++ "/" ++ key_to_unique_id k.text ++ "/" ++
          "config" := by
      apply String.toList_inj.mp
      simp [MqttPublisher.publish_discovery_one, toString]
    rw [htopic] at hcapture
    rw [hunique] at hlookup
    obtain ⟨hcomponent, hid⟩ :=
      capture_live (by decide) hlookup (unique_id_ne_empty k) hcapture
    rw [hcomponent, hid]
    have hmem : k.unique_id ∈ (announced self.n_inverters).map SensorKey.unique_id :=
      List.mem_map_of_mem hk
    rw [announced_unique_ids] at hmem
    simpa [shipped_spec, CanonicalSpec.of_component, CanonicalSpec.all_sensor_unique_ids] using hmem
  · have htopic : self.publish_binary_sensor_discovery.config_topic = self.discovery_prefix ++ "/" ++
        "binary_sensor" ++ "/" ++ "inverter_bridge_online" ++ "/" ++ "config" := by
      apply String.toList_inj.mp
      simp [MqttPublisher.publish_binary_sensor_discovery]
    rw [htopic] at hcapture
    have hne : "inverter_bridge_online" ≠ "" := by decide
    obtain ⟨hcomponent, hid⟩ := capture_live (by decide) hlookup hne hcapture
    rw [hcomponent, hid]
    simp [shipped_spec, CanonicalSpec.of_component, BINARY_SENSORS,
      MqttPublisher.publish_binary_sensor_discovery]

/-! ## The BMS -/

theorem bms_lookup_unique_id (entity : EntityDef)
    (device_id device_name topic_prefix availability_topic : String) : ∃ raw,
    build_discovery_payload entity device_id device_name topic_prefix availability_topic =
        .dict raw ∧
      PyValue.lookup "unique_id" raw = some (.scalar (.str entity.object_id)) := by
  refine ⟨_, rfl, ?_⟩
  have hforce : PyValue.lookup "unique_id"
      (if entity.force_update then [(.str "force_update", .scalar (.bool true))] else []) = none := by
    split_ifs <;> rfl
  simp (disch := simp) only [PyValue.lookup_append, PyValue.lookup_optional,
    PyValue.lookup_optional_text, hforce, Option.none_or]
  rfl

/-- What begins like the ids of the BMS is not canonical. -/
theorem bluesun_not_canonical {n_inverters : Nat} {unique_id : String}
    (hb : unique_id.toList.head? = some 'b') :
    .str unique_id ∉ (shipped_spec n_inverters).all_sensor_unique_ids := by
  intro hmem
  refine covered_head (List.range' 1 n_inverters) unique_id (List.mem_append_left _ ?_) hb
  simpa [shipped_spec, CanonicalSpec.all_sensor_unique_ids] using hmem

/-- What stands before a collision suffix is the beginning of the id. -/
theorem before_suffix_head {c : Char} {cs base : List Char} (hc : c ≠ '_')
    (h : before_suffix is_digit (c :: cs) = some base) : base.head? = some c := by
  have hnot : collision_suffix is_digit (c :: cs) = false := by
    unfold collision_suffix
    split
    · rename_i heq
      exact absurd (List.cons.inj heq).1 hc
    · rfl
  rw [before_suffix, hnot, if_neg Bool.false_ne_true, Option.map_eq_some_iff] at h
  obtain ⟨rest, -, rfl⟩ := h
  rfl

theorem bluesun_unrelated {n_inverters : Nat} (hcomponent : d.component = "sensor")
    (hid : "bluesun_".toList <+: d.unique_id.toList) :
    categorize is_digit d (shipped_spec n_inverters) = .UNRELATED := by
  obtain ⟨rest, hrest⟩ := hid
  have hlist : d.unique_id.toList = 'b' :: ("luesun_".toList ++ rest) := hrest.symm
  have hother {head : String} (h : ¬ head.toList <+: 'b' :: ("luesun_".toList ++ rest)) :
      Text.after head d.unique_id = none :=
    Text.after_eq_none (by rwa [hlist])
  have hcanonical : (shipped_spec n_inverters).of_component d.component =
      (shipped_spec n_inverters).all_sensor_unique_ids := by
    rw [hcomponent]
    rfl
  have hbase : .str (strip_collision_suffix is_digit d.unique_id).1 ∉
      (shipped_spec n_inverters).all_sensor_unique_ids := by
    apply bluesun_not_canonical
    unfold strip_collision_suffix
    cases hbefore : before_suffix is_digit d.unique_id.toList with
    | none => rw [hlist]; rfl
    | some base =>
      rw [hlist] at hbefore
      rw [String.toList_ofList]
      exact before_suffix_head (by decide) hbefore
  have hstatic : looks_sa_static is_digit d = false := by
    simp [looks_sa_static, sa_unique_id, numbered_head, hother]
  have hv1 : (Text.after ORPHAN_V1_PREFIX d.unique_id).isSome = false := by
    simp [ORPHAN_V1_PREFIX, hother]
  have hid : .str d.unique_id ∉ (shipped_spec n_inverters).all_sensor_unique_ids := by
    apply bluesun_not_canonical
    rw [hlist]
    rfl
  simp [categorize, hcanonical, hbase, hstatic, hv1, hid]

/-- A captured discovery of the BMS is none of the bridge's business. -/
theorem bms_discovery_unrelated {bms_cfg : BmsCfg} {n_inverters : Nat} {m : Message}
    (hm : m ∈ discovery_messages bms_cfg) (hcapture : capture text m.1 (.json m.2) = some d) :
    categorize is_digit d (shipped_spec n_inverters) = .UNRELATED := by
  obtain ⟨entity, hentity, rfl⟩ := List.mem_map.mp hm
  have hprefix := bluesun_object_ids entity hentity
  obtain ⟨raw, hraw, hlookup⟩ := bms_lookup_unique_id entity bms_cfg.mqtt_device_id
    bms_cfg.mqtt_device_name bms_cfg.mqtt_topic_prefix (availability_topic bms_cfg)
  have htopic : discovery_topic_for entity =
      "homeassistant" ++ "/" ++ "sensor" ++ "/" ++ entity.object_id ++ "/" ++ "config" := by
    have hhead : "homeassistant/sensor/" = "homeassistant" ++ "/" ++ "sensor" ++ "/" := by
      decide +kernel
    have htail : "/config" = "/" ++ "config" := by decide +kernel
    change "homeassistant/sensor/" ++ entity.object_id ++ "/config" = _
    rw [hhead, htail, ← String.append_assoc]
  have hne : entity.object_id ≠ "" := by
    intro heq
    rw [heq] at hprefix
    simp at hprefix
  rw [htopic, hraw] at hcapture
  obtain ⟨hcomponent, hid⟩ := capture_live (by decide) hlookup hne hcapture
  rw [← hid] at hprefix
  exact bluesun_unrelated hcomponent hprefix

/-! ## The cleanup -/

/-- The discovery messages of the bridge: topics and payloads. -/
def live_discoveries (publisher : MqttPublisher) (bms_cfg : BmsCfg) :
    List (String × PayloadBytes) :=
  publisher.publish_discovery.map (fun m => (m.config_topic, .json m.payload.to_value)) ++
    (discovery_messages bms_cfg).map fun m => (m.1, .json m.2)

/-- For every number of inverters, with the shipped document: a discovery of the bridge is
canonical or unrelated, so whatever is retained besides, its topic is never cleaned; and a
second cleanup finds nothing more. -/
theorem cleanup_spares_live_entities (text : PyValue → String) (is_digit : Char → Bool)
    (env : Environment) (cfg : MqttCfg) (bms_cfg : BmsCfg) (n_inverters : Nat) :
    let live := live_discoveries (MqttPublisher.of_config env cfg n_inverters) bms_cfg
    ∃ spec, load_canonical_spec text (some (.dict mqtt_canonical)) n_inverters = .ok spec ∧
      (∀ topic payload d, (topic, payload) ∈ live → capture text topic payload = some d →
        categorize is_digit d spec = .CANONICAL ∨ categorize is_digit d spec = .UNRELATED) ∧
      ∀ (retained : Dict String PayloadBytes) (include_sa_static : Bool),
        let collect (retained : Dict String PayloadBytes) := collect_topics_to_clean
          (build_report is_digit (capture_retained text retained) spec) include_sa_static
        (∀ topic payload, (topic, payload) ∈ live → retained.lookup topic = some payload →
          topic ∉ collect retained) ∧
        collect (clear_retained retained (collect retained)) = [] := by
  intro live
  have hcategory : ∀ topic payload d, (topic, payload) ∈ live →
      capture text topic payload = some d →
      categorize is_digit d (shipped_spec n_inverters) = .CANONICAL ∨
        categorize is_digit d (shipped_spec n_inverters) = .UNRELATED := by
    intro topic payload d hlive hcapture
    obtain hlive | hlive := List.mem_append.mp hlive
    · obtain ⟨m, hm, heq⟩ := List.mem_map.mp hlive
      cases heq
      exact .inl (inverter_discovery_canonical rfl hm hcapture)
    · obtain ⟨m, hm, heq⟩ := List.mem_map.mp hlive
      cases heq
      exact .inr (bms_discovery_unrelated hm hcapture)
  refine ⟨shipped_spec n_inverters, load_mqtt_canonical text n_inverters, hcategory, ?_⟩
  intro retained include_sa_static collect
  refine ⟨fun topic payload hlive hretained hcollected => ?_, ?_⟩
  · obtain ⟨payload', d, hlookup, hcapture, hcleaned⟩ := mem_collect_captured_iff.mp hcollected
    rw [hretained, Option.some.injEq] at hlookup
    obtain hcat | hcat := hcategory topic payload' d (hlookup ▸ hlive) hcapture
    · rw [hcat] at hcleaned
      cases hcleaned
    · rw [hcat] at hcleaned
      cases hcleaned
  · exact collect_after_clear is_digit (shipped_spec n_inverters) include_sa_static

end tools.cleanup_orphan_discoveries
