import InverterBridge.Lib.PyFloat
import InverterBridge.Tools.CanonicalSpec

open Python
open inverter_bridge.config inverter_bridge.mqtt_publisher inverter_bridge.bms.discovery
open tools.cleanup_orphan_discoveries (per_inverter mapM_per_inverter_strings)

namespace tools.purge_ha_zombies

def STALE_STATES : List String := ["unavailable", "unknown"]

structure StateRecord where
  entity_id : String
  state : String
  -- `None` if there was no valid timestamp; in seconds
  last_updated : Option ℚ

structure RegistryEntry where
  entity_id : String
  unique_id : String
deriving DecidableEq

/-- `{s.entity_id: s for s in states}`. -/
def state_by_id (states : List StateRecord) : Dict String StateRecord :=
  Dict.assign ∅ (states.map fun s => (s.entity_id, s))

/-- `entry.entity_id.startswith(prefixes)`. -/
def in_domains (domain_prefixes : List String) (entry : RegistryEntry) : Bool :=
  domain_prefixes.any fun head => (Text.after head entry.entity_id).isSome

/-- `(now - last_updated).total_seconds() >= min_age_s`. -/
def aged (min_age_s : PyFloat) (now last_updated : ℚ) : Bool :=
  min_age_s ≤ PyFloat.finite (now - last_updated)

/-- Rules (b) and (c) of the selection. -/
def dead (states : List StateRecord) (min_age_s : PyFloat) (include_stale_values : Bool) (now : ℚ)
    (entry : RegistryEntry) : Bool :=
  match (state_by_id states).lookup entry.entity_id with
  -- in the registry but not in `/api/states`
  | none => true
  | some st =>
    if st.state ∈ STALE_STATES then
      match st.last_updated with
      | none => true
      | some last_updated => aged min_age_s now last_updated
    else
      match st.last_updated with
      | none => false
      | some last_updated => include_stale_values && aged min_age_s now last_updated

/-- The entries to remove. -/
def select_candidates (registry : List RegistryEntry) (states : List StateRecord)
    (domain_prefixes : List String) (min_age_s : PyFloat) (include_stale_values : Bool)
    (canonical_unique_ids : Option (List Scalar)) (now : ℚ) : List RegistryEntry :=
  let canonical := canonical_unique_ids.getD []
  registry.filter fun entry =>
    in_domains domain_prefixes entry &&
      !(entry.unique_id ≠ "" && .str entry.unique_id ∈ canonical) &&
      dead states min_age_s include_stale_values now entry

/-- The safety net of `_run_async`, from what `json.load` returns; there is none when no file
is given or it cannot be loaded. -/
def canonical_uids (text : PyValue → String) :
    Option PyValue → Except PyError (Option (List Scalar))
  | none => .ok none
  | some spec => do
    let aggregates ← (← spec.get_or "aggregates" (.list [])).to_set
    let meta_ids ← (← spec.get_or "meta" (.list [])).to_set
    let binary_sensors ← (← spec.get_or "binary_sensors" (.list [])).to_set
    let suffixes ← spec.get_or "per_inverter_suffixes" (.list [])
    let unique_ids ← [1, 2].mapM (per_inverter text suffixes)
    return some (aggregates ++ meta_ids ++ binary_sensors ++ unique_ids.flatten)

/-! ## The safety net of the shipped document -/

/-- The unique ids that are never selected. -/
def protected_unique_ids : List String :=
  AGGREGATES ++ META ++ BINARY_SENSORS ++ inverter_unique_ids [1, 2]

theorem canonical_uids_mqtt_canonical (text : PyValue → String) :
    canonical_uids text (some (.dict mqtt_canonical)) =
      .ok (some (protected_unique_ids.map .str)) := by
  have hget {key : String} {ids : List String}
      (h : PyValue.lookup key mqtt_canonical = some (PyValue.strings ids)) :
      PyValue.get_or key (.dict mqtt_canonical) (.list []) = .ok (PyValue.strings ids) := by
    simp only [PyValue.get_or, PyValue.get, h]
    rfl
  have haggregates := @hget "aggregates" AGGREGATES rfl
  have hmeta := @hget "meta" META rfl
  have hbinary := @hget "binary_sensors" BINARY_SENSORS rfl
  have hsuffixes := @hget "per_inverter_suffixes" PER_INVERTER_SUFFIXES rfl
  simp only [canonical_uids, haggregates, hmeta, hbinary, hsuffixes, PyValue.to_set_strings,
    mapM_per_inverter_strings, bind, Except.bind, pure, Except.pure, protected_unique_ids,
    inverter_unique_ids, List.map_append, List.flatMap_def, List.map_flatten, List.map_map,
    Function.comp_def]

theorem empty_not_protected : "" ∉ protected_unique_ids := by
  decide +kernel

section

variable {registry : List RegistryEntry} {states : List StateRecord} {domain_prefixes : List String}
  {min_age_s : PyFloat} {include_stale_values : Bool} {now : ℚ} {entry : RegistryEntry}

/-- With the shipped document, the age and the state decide about what is not protected. -/
theorem mem_select_candidates_iff :
    entry ∈ select_candidates registry states domain_prefixes min_age_s include_stale_values
        (some (protected_unique_ids.map .str)) now ↔
      entry ∈ registry ∧ in_domains domain_prefixes entry = true ∧
        dead states min_age_s include_stale_values now entry = true ∧
        entry.unique_id ∉ protected_unique_ids := by
  have hcanonical : (!(decide (entry.unique_id ≠ "") &&
      decide (Scalar.str entry.unique_id ∈ protected_unique_ids.map Scalar.str))) = true ↔
      entry.unique_id ∉ protected_unique_ids := by
    by_cases hempty : entry.unique_id = ""
    · simp [hempty, empty_not_protected]
    · simp [hempty]
  simp only [select_candidates, Option.getD_some, List.mem_filter, Bool.and_eq_true, hcanonical]
  tauto

/-! ## Live entities -/

/-- The ids of an inverter beyond the second are not protected. -/
theorem numbered_not_protected {i : Nat} (hi : 3 ≤ i) (suffix : String) :
    Text.numbered "inverter" i suffix ∉ protected_unique_ids := by
  have hother : ∀ unique_id ∈ AGGREGATES ++ META,
      ¬ "inverter".toList ++ ['_'] <+: unique_id.toList := by decide +kernel
  intro hmem
  simp only [protected_unique_ids, List.mem_append] at hmem
  obtain ((hmem | hmem) | hmem) | hmem := hmem
  · exact Text.ne_numbered (hother _ (List.mem_append_left _ hmem)) i suffix rfl
  · exact Text.ne_numbered (hother _ (List.mem_append_right _ hmem)) i suffix rfl
  · exact unique_id_ne_online (.inverter i suffix) (List.mem_singleton.mp hmem)
  · obtain ⟨j, hj, suffix', -, heq⟩ := mem_inverter_unique_ids_iff.mp hmem
    have hij := (Text.numbered_inj.mp heq).1
    simp only [List.mem_cons, List.not_mem_nil, or_false] at hj
    omega

/-- What the inverters announce is protected, but for the third inverter and those after it. -/
theorem protected_iff_of_announced {self : MqttPublisher} {unique_id : String}
    (h : unique_id ∈ self.publish_discovery.map fun m => m.payload.unique_id) :
    unique_id ∈ protected_unique_ids ↔
      unique_id ∉ inverter_unique_ids (List.range' 3 (self.n_inverters - 2)) := by
  constructor
  · intro hprotected hlater
    obtain ⟨i, hi, suffix, -, rfl⟩ := mem_inverter_unique_ids_iff.mp hlater
    exact numbered_not_protected (List.mem_range'_1.mp hi).1 suffix hprotected
  · intro hlater
    have hannounced : (announced self.n_inverters).map (fun k => k.unique_id) = _ :=
      announced_unique_ids self.n_inverters
    rw [unique_ids_eq, hannounced] at h
    simp only [protected_unique_ids, List.mem_append] at h ⊢
    obtain ((h | h) | h) | h := h
    · exact .inl (.inl (.inl h))
    · obtain ⟨i, hi, suffix, hsuffix, rfl⟩ := mem_inverter_unique_ids_iff.mp h
      refine .inr (mem_inverter_unique_ids_iff.mpr ⟨i, ?_, suffix, hsuffix, rfl⟩)
      have hbounds := List.mem_range'_1.mp hi
      by_contra hnot
      simp only [List.mem_cons, List.not_mem_nil, or_false, not_or] at hnot
      exact hlater (mem_inverter_unique_ids_iff.mpr
        ⟨i, List.mem_range'_1.mpr (by omega), suffix, hsuffix, rfl⟩)
    · exact .inl (.inl (.inr h))
    · exact .inl (.inr h)

/-- No id of the BMS is protected. -/
theorem bms_not_protected {unique_id : String}
    (h : unique_id ∈ all_bms_entities.map EntityDef.object_id) :
    unique_id ∉ protected_unique_ids := by
  obtain ⟨entity, hentity, rfl⟩ := List.mem_map.mp h
  obtain ⟨rest, hrest⟩ := bluesun_object_ids entity hentity
  intro hmem
  refine covered_head [1, 2] entity.object_id ?_ (by rw [← hrest]; rfl)
  simp only [protected_unique_ids, List.mem_append] at hmem ⊢
  tauto

/-- The entry of an inverter is selected exactly when it is dead and that of a later one. -/
theorem announced_selected_iff {self : MqttPublisher}
    (h : entry.unique_id ∈ self.publish_discovery.map fun m => m.payload.unique_id) :
    entry ∈ select_candidates registry states domain_prefixes min_age_s include_stale_values
        (some (protected_unique_ids.map .str)) now ↔
      entry ∈ registry ∧ in_domains domain_prefixes entry = true ∧
        dead states min_age_s include_stale_values now entry = true ∧
        entry.unique_id ∈ inverter_unique_ids (List.range' 3 (self.n_inverters - 2)) := by
  rw [mem_select_candidates_iff, protected_iff_of_announced h, not_not]

/-- The entry of the BMS is selected exactly when it is dead. -/
theorem bms_selected_iff (h : entry.unique_id ∈ all_bms_entities.map EntityDef.object_id) :
    entry ∈ select_candidates registry states domain_prefixes min_age_s include_stale_values
        (some (protected_unique_ids.map .str)) now ↔
      entry ∈ registry ∧ in_domains domain_prefixes entry = true ∧
        dead states min_age_s include_stale_values now entry = true := by
  rw [mem_select_candidates_iff, and_iff_left (bms_not_protected h)]

end

/-- With the shipped document the purge spares, for every number of inverters, what the inverters
announce for the site, the daemon and the first two inverters. What the BMS announces the
document does not list: its entries go by domain, state and age alone. -/
theorem purge_spares_listed_entities (text : PyValue → String) (env : Environment) (cfg : MqttCfg)
    (n_inverters : Nat) :
    ∃ uids, canonical_uids text (some (.dict mqtt_canonical)) = .ok uids ∧
      ∀ (registry : List RegistryEntry) (states : List StateRecord) (domain_prefixes : List String)
        (min_age_s : PyFloat) (include_stale_values : Bool) (now : ℚ),
        let candidates := select_candidates registry states domain_prefixes min_age_s
          include_stale_values uids now
        (∀ entry ∈ candidates, ∀ message ∈
          (MqttPublisher.of_config env cfg n_inverters).publish_discovery,
          entry.unique_id = message.payload.unique_id →
            entry.unique_id ∈ inverter_unique_ids (List.range' 3 (n_inverters - 2))) ∧
        ∀ entry ∈ registry, ∀ entity ∈ all_bms_entities, entry.unique_id = entity.object_id →
          (entry ∈ candidates ↔ in_domains domain_prefixes entry = true ∧
            dead states min_age_s include_stale_values now entry = true) := by
  refine ⟨_, canonical_uids_mqtt_canonical text, ?_⟩
  intro registry states domain_prefixes min_age_s include_stale_values now candidates
  constructor
  · intro entry hentry message hmessage heq
    have hannounced := List.mem_map_of_mem (f := fun m => m.payload.unique_id) hmessage
    rw [← heq] at hannounced
    exact ((announced_selected_iff hannounced).mp hentry).2.2.2
  · intro entry hentry entity hentity heq
    have hbms := List.mem_map_of_mem (f := EntityDef.object_id) hentity
    rw [← heq] at hbms
    rw [bms_selected_iff hbms, and_iff_right hentry]

/-- The serial number of a pack, which never changes, is selected when values may be stale. -/
theorem constant_bms_value_selected :
    ∃ uids, canonical_uids (fun _ => "") (some (.dict mqtt_canonical)) = .ok uids ∧
      ∃ entry ∈ select_candidates [⟨"sensor.bluesun_pack01_serial", "bluesun_pack01_serial"⟩]
        [⟨"sensor.bluesun_pack01_serial", "A1", some 0⟩] ["sensor.bluesun_"] (.finite 3600) true
        uids 7200,
        entry.unique_id ∈ all_bms_entities.map EntityDef.object_id := by
  refine ⟨_, canonical_uids_mqtt_canonical _,
    ⟨"sensor.bluesun_pack01_serial", "bluesun_pack01_serial"⟩, ?_, ?_⟩
  · decide +kernel
  · decide +kernel

end tools.purge_ha_zombies
