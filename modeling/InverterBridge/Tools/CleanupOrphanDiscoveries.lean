import InverterBridge.Lib.Dict
import InverterBridge.Lib.PyValue
import InverterBridge.Lib.Text

open Python

namespace tools.cleanup_orphan_discoveries

inductive Category where
  | CANONICAL
  | ORPHAN_V1
  | ORPHAN_COLLISION
  | SA_STATIC
  | UNRELATED
deriving DecidableEq

def ORPHAN_V1_PREFIX : String := "gadi_inverters_"

def SA_TOPIC_PREFIX : String := "solar_assistant"

/-- A captured retained discovery payload. -/
structure Discovery where
  component : String
  topic : String
  object_id : String
  unique_id : String
  state_topic : String
  device_identifiers : List String

/-- Sets of unique ids: the keys that stand for the elements. -/
structure CanonicalSpec where
  aggregates : List Scalar
  per_inverter_unique_ids : List Scalar
  meta_ids : List Scalar
  binary_sensors : List Scalar

def CanonicalSpec.all_sensor_unique_ids (spec : CanonicalSpec) : List Scalar :=
  spec.aggregates ++ spec.per_inverter_unique_ids ++ spec.meta_ids

def CanonicalSpec.empty : CanonicalSpec := ⟨[], [], [], []⟩

/-- What a message carries, with the value of its JSON. -/
inductive PayloadBytes where
  | empty
  | not_utf8
  | not_json
  | json (value : PyValue)

section

-- The texts of what is not a string.
variable (text : PyValue → String)

/-- The unique ids of one inverter. -/
def per_inverter (suffixes : PyValue) (i : Nat) : Except PyError (List Scalar) := do
  return (← suffixes.items).map fun suffix =>
    .str (Text.numbered "inverter" i (suffix.to_str text))

/-- `load_canonical_spec(path, n_inverters=n_inverters)`; there is no `data` when the file is
missing or not valid JSON. -/
def load_canonical_spec (data : Option PyValue) (n_inverters : Nat) :
    Except PyError CanonicalSpec :=
  match data with
  | some (.dict entries) => do
    let aggregates ← (PyValue.or_empty (PyValue.lookup "aggregates" entries)).to_set
    let suffixes := PyValue.or_empty (PyValue.lookup "per_inverter_suffixes" entries)
    let meta_ids ← (PyValue.or_empty (PyValue.lookup "meta" entries)).to_set
    let binary_sensors ← (PyValue.or_empty (PyValue.lookup "binary_sensors" entries)).to_set
    let unique_ids ← (List.range' 1 n_inverters).mapM (per_inverter text suffixes)
    return { aggregates, per_inverter_unique_ids := unique_ids.flatten, meta_ids, binary_sensors }
  | _ => .ok .empty

/-- `str(raw.get(key) or raw.get(short) or "")`. -/
def text_of (raw : List (Scalar × PyValue)) (key short : String) : String :=
  match ((PyValue.lookup key raw).toList ++ (PyValue.lookup short raw).toList).find?
    PyValue.truthy with
  | some v => v.to_str text
  | none => ""

/-- The normalised `payload["device"]["identifiers"]`. -/
def device_identifiers (entries : List (Scalar × PyValue)) : List String :=
  match PyValue.lookup "device" entries with
  | some (.dict device) =>
    match PyValue.lookup "identifiers" device with
    | some (.scalar (.str id)) => [id]
    | some (.list ids) => ids.map (·.to_str text)
    | _ => []
  | _ => []

/-- What `parse_discovery` makes of the dict `raw`. -/
def read_discovery (component topic : String) (raw : List (Scalar × PyValue)) : Discovery :=
  let parts := Text.split '/' topic
  { component, topic
    object_id :=
      if 4 ≤ parts.length ∧ parts.getLast? = some "config" then (parts.dropLast.getLast?).getD ""
      else ""
    unique_id := text_of text raw "unique_id" "uniq_id"
    state_topic := text_of text raw "state_topic" "stat_t"
    device_identifiers := device_identifiers text raw }

/-- `parse_discovery(component, topic, payload_bytes)`. -/
def parse_discovery (component topic : String) : PayloadBytes → Option Discovery
  | .empty | .not_utf8 => none
  | .json (.dict raw) => some (read_discovery text component topic raw)
  -- what is not a JSON object is kept as a placeholder
  | .not_json | .json _ => some (read_discovery text component topic [])

/-- The component, when the topic is one of those subscribed to. -/
def component_of (topic : String) : Option String :=
  match Text.split '/' topic with
  | ["homeassistant", component, _, "config"] =>
    if component = "sensor" ∨ component = "binary_sensor" then some component else none
  | _ => none

/-- What is captured of a retained message. -/
def capture (topic : String) (payload : PayloadBytes) : Option Discovery := do
  let component ← component_of topic
  parse_discovery text component topic payload

/-- `capture_retained(...)`, with the retained messages of the broker. -/
def capture_retained (retained : Dict String PayloadBytes) : List Discovery :=
  retained.entries.filterMap fun entry => capture text entry.1 entry.2

end

/-- The broker after `clear_retained(..., topics)`: an empty payload removes what is retained. -/
def clear_retained (retained : Dict String PayloadBytes) (topics : List String) :
    Dict String PayloadBytes :=
  retained.filter fun topic => topic ∉ topics

section

-- The characters that are digits in a regular expression.
variable (is_digit : Char → Bool)

/-- The rest of a collision suffix, behind a digit: digits, groups of an underscore and
digits, and the end or a last line break. -/
def suffix_end : List Char → Bool
  | [] | ['\n'] => true
  | '_' :: c :: cs => is_digit c && suffix_end cs
  | c :: cs => is_digit c && suffix_end cs

/-- `COLLISION_SUFFIX_RE` matches here. -/
def collision_suffix : List Char → Bool
  | '_' :: c :: cs => is_digit c && suffix_end is_digit cs
  | _ => false

/-- What stands before the first place where the suffix matches. -/
def before_suffix : List Char → Option (List Char)
  | [] => none
  | c :: cs =>
    if collision_suffix is_digit (c :: cs) then some [] else (before_suffix cs).map (c :: ·)

/-- `_strip_collision_suffix(uid)`. -/
def strip_collision_suffix (uid : String) : String × Bool :=
  match before_suffix is_digit uid.toList with
  | none => (uid, false)
  | some base => (String.ofList base, true)

/-- A head, digits and an underscore. -/
def numbered_head (head uid : String) : Bool :=
  match Text.after head uid with
  | some rest =>
    rest.toList.takeWhile is_digit ≠ [] && (rest.toList.dropWhile is_digit).head? = some '_'
  | none => false

/-- `_SA_UNIQUE_ID_RE.match(uid)`. -/
def sa_unique_id (uid : String) : Bool :=
  (Text.after "total_" uid).isSome || numbered_head is_digit "inverter_" uid ||
    numbered_head is_digit "battery_" uid || numbered_head is_digit "bms_" uid ||
    (Text.after "meta_" uid).isSome

/-- `_looks_sa_static(d, spec)`. -/
def looks_sa_static (d : Discovery) : Bool :=
  sa_unique_id is_digit d.unique_id &&
    ((Text.after (SA_TOPIC_PREFIX ++ "/") d.state_topic).isSome ||
      "sa_inverter" ∈ d.device_identifiers)

/-- The unique ids that are canonical for the component. -/
def CanonicalSpec.of_component (spec : CanonicalSpec) (component : String) : List Scalar :=
  if component = "binary_sensor" then spec.binary_sensors else spec.all_sensor_unique_ids

/-- `categorize(d, spec)`. -/
def categorize (d : Discovery) (spec : CanonicalSpec) : Category :=
  let uid := d.unique_id
  let canonical := spec.of_component d.component
  if .str uid ∈ canonical then .CANONICAL
  else if (Text.after ORPHAN_V1_PREFIX uid).isSome then .ORPHAN_V1
  else
    let (base, had_suffix) := strip_collision_suffix is_digit uid
    if had_suffix ∧ base ≠ uid ∧ .str base ∈ canonical then .ORPHAN_COLLISION
    else if looks_sa_static is_digit d then .SA_STATIC
    else .UNRELATED

/-- `build_report(discoveries, spec)`: the bucket of each category. -/
def build_report (discoveries : List Discovery) (spec : CanonicalSpec) (cat : Category) :
    List Discovery :=
  discoveries.filter fun d => categorize is_digit d spec = cat

end

/-- The topics that were not seen before, in order. -/
def keep_first (seen : List String) : List String → List String
  | [] => []
  | t :: ts => if t ∈ seen then keep_first seen ts else t :: keep_first (t :: seen) ts

/-- `collect_topics_to_clean(buckets, include_sa_static=include_sa_static)`. -/
def collect_topics_to_clean (buckets : Category → List Discovery) (include_sa_static : Bool) :
    List String :=
  keep_first [] (((buckets .ORPHAN_V1).map Discovery.topic) ++
    ((buckets .ORPHAN_COLLISION).map Discovery.topic) ++
    if include_sa_static then (buckets .SA_STATIC).map Discovery.topic else [])

/-! ## Which topics are collected -/

/-- The categories that are cleaned. -/
def Category.cleaned (include_sa_static : Bool) : Category → Bool
  | .ORPHAN_V1 | .ORPHAN_COLLISION => true
  | .SA_STATIC => include_sa_static
  | .CANONICAL | .UNRELATED => false

theorem mem_keep_first {seen ts : List String} {topic : String} :
    topic ∈ keep_first seen ts ↔ topic ∈ ts ∧ topic ∉ seen := by
  induction ts generalizing seen with
  | nil => simp [keep_first]
  | cons t ts ih =>
    rw [keep_first]
    split_ifs with hseen
    · rw [ih, List.mem_cons]
      constructor
      · rintro ⟨hmem, hnew⟩
        exact ⟨.inr hmem, hnew⟩
      · rintro ⟨rfl | hmem, hnew⟩
        · exact absurd hseen hnew
        · exact ⟨hmem, hnew⟩
    · rw [List.mem_cons, ih, List.mem_cons, List.mem_cons, not_or]
      constructor
      · rintro (rfl | ⟨hmem, -, hnew⟩)
        · exact ⟨.inl rfl, hseen⟩
        · exact ⟨.inr hmem, hnew⟩
      · rintro ⟨rfl | hmem, hnew⟩
        · exact .inl rfl
        · by_cases heq : topic = t
          · exact .inl heq
          · exact .inr ⟨hmem, heq, hnew⟩

theorem mem_collect_iff {is_digit : Char → Bool} {discoveries : List Discovery}
    {spec : CanonicalSpec} {include_sa_static : Bool} {topic : String} :
    topic ∈ collect_topics_to_clean (build_report is_digit discoveries spec) include_sa_static ↔
      ∃ d ∈ discoveries, d.topic = topic ∧
        (categorize is_digit d spec).cleaned include_sa_static = true := by
  have hbucket (cat : Category) : topic ∈ (build_report is_digit discoveries spec cat).map
      Discovery.topic ↔ ∃ d ∈ discoveries, d.topic = topic ∧ categorize is_digit d spec = cat := by
    simp only [build_report, List.mem_map, List.mem_filter, decide_eq_true_eq]
    exact exists_congr fun d => by tauto
  have hstatic : topic ∈ (if include_sa_static then
      (build_report is_digit discoveries spec .SA_STATIC).map Discovery.topic else []) ↔
      include_sa_static = true ∧
        ∃ d ∈ discoveries, d.topic = topic ∧ categorize is_digit d spec = .SA_STATIC := by
    rw [← hbucket]
    cases include_sa_static <;> simp
  rw [collect_topics_to_clean, mem_keep_first, List.mem_append, List.mem_append, hbucket, hbucket,
    hstatic, and_iff_left List.not_mem_nil]
  constructor
  · rintro ((⟨d, hd, htopic, hcat⟩ | ⟨d, hd, htopic, hcat⟩) | ⟨hinclude, d, hd, htopic, hcat⟩)
    · exact ⟨d, hd, htopic, by rw [hcat]; rfl⟩
    · exact ⟨d, hd, htopic, by rw [hcat]; rfl⟩
    · exact ⟨d, hd, htopic, by rw [hcat]; exact hinclude⟩
  · rintro ⟨d, hd, htopic, hcleaned⟩
    cases hcat : categorize is_digit d spec with
    | ORPHAN_V1 => exact .inl (.inl ⟨d, hd, htopic, hcat⟩)
    | ORPHAN_COLLISION => exact .inl (.inr ⟨d, hd, htopic, hcat⟩)
    | SA_STATIC =>
      rw [hcat] at hcleaned
      exact .inr ⟨hcleaned, d, hd, htopic, hcat⟩
    | CANONICAL | UNRELATED =>
      rw [hcat] at hcleaned
      cases hcleaned

/-! ## Captured discoveries -/

section

variable {text : PyValue → String} {retained : Dict String PayloadBytes} {d : Discovery}

theorem capture_topic {topic : String} {payload : PayloadBytes}
    (h : capture text topic payload = some d) : d.topic = topic := by
  obtain ⟨component, -, hparse⟩ := Option.bind_eq_some_iff.mp h
  unfold parse_discovery at hparse
  split at hparse
  all_goals cases hparse
  all_goals rfl

theorem mem_capture_retained_iff : d ∈ capture_retained text retained ↔
    ∃ topic payload, retained.lookup topic = some payload ∧ capture text topic payload = some d := by
  rw [capture_retained, List.mem_filterMap]
  constructor
  · rintro ⟨⟨topic, payload⟩, hmem, hcapture⟩
    exact ⟨topic, payload, AList.mem_lookup_iff.mpr hmem, hcapture⟩
  · rintro ⟨topic, payload, hlookup, hcapture⟩
    exact ⟨⟨topic, payload⟩, AList.mem_lookup_iff.mp hlookup, hcapture⟩

/-- A topic is collected by what is retained there. -/
theorem mem_collect_captured_iff {is_digit : Char → Bool} {spec : CanonicalSpec}
    {include_sa_static : Bool} {topic : String} :
    topic ∈ collect_topics_to_clean
        (build_report is_digit (capture_retained text retained) spec) include_sa_static ↔
      ∃ payload d, retained.lookup topic = some payload ∧ capture text topic payload = some d ∧
        (categorize is_digit d spec).cleaned include_sa_static = true := by
  rw [mem_collect_iff]
  constructor
  · rintro ⟨d, hd, rfl, hcleaned⟩
    obtain ⟨topic, payload, hlookup, hcapture⟩ := mem_capture_retained_iff.mp hd
    rw [capture_topic hcapture]
    exact ⟨payload, d, hlookup, hcapture, hcleaned⟩
  · rintro ⟨payload, d, hlookup, hcapture, hcleaned⟩
    refine ⟨d, mem_capture_retained_iff.mpr ⟨topic, payload, hlookup, hcapture⟩, ?_, hcleaned⟩
    exact capture_topic hcapture

/-- After a cleanup there is nothing more to clean. -/
theorem collect_after_clear (is_digit : Char → Bool) (spec : CanonicalSpec)
    (include_sa_static : Bool) :
    collect_topics_to_clean (build_report is_digit (capture_retained text (clear_retained retained
      (collect_topics_to_clean (build_report is_digit (capture_retained text retained) spec)
        include_sa_static))) spec) include_sa_static = [] := by
  rw [List.eq_nil_iff_forall_not_mem]
  intro topic hmem
  obtain ⟨payload, d, hlookup, hcapture, hcleaned⟩ := mem_collect_captured_iff.mp hmem
  rw [clear_retained, Dict.lookup_filter] at hlookup
  split_ifs at hlookup with hkept
  refine of_decide_eq_true hkept ?_
  exact mem_collect_captured_iff.mpr ⟨payload, d, hlookup, hcapture, hcleaned⟩

end

end tools.cleanup_orphan_discoveries
