import InverterBridge.Config

open Python

namespace inverter_bridge.config

/-! ## What a document gives -/

/-- The entries of a mapping. -/
def entries_of : PyValue → List (Scalar × PyValue)
  | .dict entries => entries
  | _ => []

/-- The entries of a section of the document: none when it is left out. -/
def section_entries (data : PyValue) (name : String) : List (Scalar × PyValue) :=
  entries_of ((PyValue.lookup name (entries_of data)).getD (.dict []))

/-- The value the document gives for the field `k` of a section. -/
def given (data : PyValue) (name k : String) : Option PyValue :=
  PyValue.lookup k (section_entries data name)

/-- Where a list is optional, null stands for leaving it out. -/
def unless_null : Option PyValue → Option PyValue
  | some (.scalar .null) => none
  | v => v

/-- A field holds the given value, converted to its type, or its default when none is given. -/
def Faithful {α : Type} (given : Option PyValue) (convert : PyValue → Except PyError α)
    (default : Option α) (x : α) : Prop :=
  match given with
  | some v => convert v = .ok x
  | none => default = some x

/-! ## The conversions to the types of the fields -/

def as_float (env : Environment) (v : PyValue) : Except PyError PyFloat :=
  v.to_float env.decimal_digit env.repr

def as_int (env : Environment) (v : PyValue) : Except PyError Int :=
  v.to_int env.decimal_digit env.repr

def as_bool (v : PyValue) : Except PyError Bool := .ok v.truthy

def as_str (env : Environment) (v : PyValue) : Except PyError String := .ok (env.str v)

/-- A string, as the value it is in a field that may hold any. -/
def as_text (env : Environment) (v : PyValue) : Except PyError PyValue :=
  .ok (text_value (env.str v))

/-- `tuple(v)` of a list of strings. -/
def as_strings : PyValue → Except PyError (List String)
  | .list items =>
    match all_strings items with
    | some serials => .ok serials
    | none => .error (.ValueError "bms.pack_serials debe ser lista de strings")
  | _ => .error (.ValueError "bms.pack_serials debe ser lista de strings")

/-! ## A configuration that is faithful to the document -/

section

variable (env : Environment) (data : PyValue)

structure FaithfulPolling (cfg : PollingCfg) : Prop where
  hot_interval_s : Faithful (given data "polling" "hot_interval_s") (as_float env)
    (some ({} : PollingCfg).hot_interval_s) cfg.hot_interval_s
  cold_interval_s : Faithful (given data "polling" "cold_interval_s") (as_float env)
    (some ({} : PollingCfg).cold_interval_s) cfg.cold_interval_s
  serial_timeout_s : Faithful (given data "polling" "serial_timeout_s") (as_float env)
    (some ({} : PollingCfg).serial_timeout_s) cfg.serial_timeout_s
  inter_query_delay_s : Faithful (given data "polling" "inter_query_delay_s") (as_float env)
    (some ({} : PollingCfg).inter_query_delay_s) cfg.inter_query_delay_s
  retry_attempts : Faithful (given data "polling" "retry_attempts") (as_int env)
    (some ({} : PollingCfg).retry_attempts) cfg.retry_attempts
  retry_backoff_s : Faithful (given data "polling" "retry_backoff_s") (as_float env)
    (some ({} : PollingCfg).retry_backoff_s) cfg.retry_backoff_s

structure FaithfulLogging (cfg : LoggingCfg) : Prop where
  level : Faithful (given data "logging" "level") (as_text env)
    (some ({} : LoggingCfg).level) cfg.level
  format : Faithful (given data "logging" "format") (as_text env)
    (some ({} : LoggingCfg).format) cfg.format

/-- `MqttCfg(host, username, password)`: all else has its default. -/
def required_only (cfg : MqttCfg) : MqttCfg :=
  { host := cfg.host, username := cfg.username, password := cfg.password }

/-- The password is that of a file, and aside. -/
structure FaithfulMqtt (cfg : MqttCfg) : Prop where
  host : Faithful (given data "mqtt" "host") (as_text env)
    none cfg.host
  username : Faithful (given data "mqtt" "username") (as_text env)
    none cfg.username
  port : Faithful (given data "mqtt" "port") (as_int env)
    (some (required_only cfg).port) cfg.port
  client_id : Faithful (given data "mqtt" "client_id") (as_text env)
    (some (required_only cfg).client_id) cfg.client_id
  topic_prefix : Faithful (given data "mqtt" "topic_prefix") (as_text env)
    (some (MqttCfg.topic_prefix (required_only cfg))) cfg.topic_prefix
  discovery_prefix : Faithful (given data "mqtt" "discovery_prefix") (as_text env)
    (some (MqttCfg.discovery_prefix (required_only cfg))) cfg.discovery_prefix
  retain_discovery : Faithful (given data "mqtt" "retain_discovery") as_bool
    (some (required_only cfg).retain_discovery) cfg.retain_discovery
  qos : Faithful (given data "mqtt" "qos") (as_int env)
    (some (required_only cfg).qos) cfg.qos

structure FaithfulBms (cfg : BmsCfg) : Prop where
  enabled : Faithful (given data "bms" "enabled") as_bool
    (some ({} : BmsCfg).enabled) cfg.enabled
  master_mac : Faithful (given data "bms" "master_mac") (as_str env)
    (some ({} : BmsCfg).master_mac) cfg.master_mac
  pack_count : Faithful (given data "bms" "pack_count") (as_int env)
    (some ({} : BmsCfg).pack_count) cfg.pack_count
  poll_fast_interval_s : Faithful (given data "bms" "poll_fast_interval_s") (as_float env)
    (some ({} : BmsCfg).poll_fast_interval_s) cfg.poll_fast_interval_s
  poll_slow_interval_s : Faithful (given data "bms" "poll_slow_interval_s") (as_float env)
    (some ({} : BmsCfg).poll_slow_interval_s) cfg.poll_slow_interval_s
  inter_pack_delay_s : Faithful (given data "bms" "inter_pack_delay_s") (as_float env)
    (some ({} : BmsCfg).inter_pack_delay_s) cfg.inter_pack_delay_s
  connect_timeout_s : Faithful (given data "bms" "connect_timeout_s") (as_float env)
    (some ({} : BmsCfg).connect_timeout_s) cfg.connect_timeout_s
  reconnect_initial_backoff_s : Faithful (given data "bms" "reconnect_initial_backoff_s")
    (as_float env) (some ({} : BmsCfg).reconnect_initial_backoff_s) cfg.reconnect_initial_backoff_s
  reconnect_max_backoff_s : Faithful (given data "bms" "reconnect_max_backoff_s") (as_float env)
    (some ({} : BmsCfg).reconnect_max_backoff_s) cfg.reconnect_max_backoff_s
  max_failed_cycles : Faithful (given data "bms" "max_failed_cycles") (as_int env)
    (some ({} : BmsCfg).max_failed_cycles) cfg.max_failed_cycles
  stale_pack_timeout_s : Faithful (given data "bms" "stale_pack_timeout_s") (as_float env)
    (some ({} : BmsCfg).stale_pack_timeout_s) cfg.stale_pack_timeout_s
  mqtt_topic_prefix : Faithful (given data "bms" "mqtt_topic_prefix") (as_str env)
    (some (BmsCfg.mqtt_topic_prefix {})) cfg.mqtt_topic_prefix
  mqtt_device_name : Faithful (given data "bms" "mqtt_device_name") (as_str env)
    (some ({} : BmsCfg).mqtt_device_name) cfg.mqtt_device_name
  mqtt_device_id : Faithful (given data "bms" "mqtt_device_id") (as_str env)
    (some ({} : BmsCfg).mqtt_device_id) cfg.mqtt_device_id
  energy_persist_path : Faithful (given data "bms" "energy_persist_path") (as_str env)
    (some ({} : BmsCfg).energy_persist_path) cfg.energy_persist_path
  pack_serials : Faithful (unless_null (given data "bms" "pack_serials")) as_strings
    (some ({} : BmsCfg).pack_serials) cfg.pack_serials

structure FaithfulConfig (cfg : BridgeConfig) : Prop where
  mqtt : FaithfulMqtt env data cfg.mqtt
  polling : FaithfulPolling env data cfg.polling
  logging : FaithfulLogging env data cfg.logging
  bms : FaithfulBms env data cfg.bms

/-- The fields that are copied as they stand. -/
def copied_fields : List (String × String) :=
  [("mqtt", "host"), ("mqtt", "username"), ("mqtt", "client_id"), ("mqtt", "topic_prefix"),
    ("mqtt", "discovery_prefix"), ("logging", "level"), ("logging", "format")]

/-- Only strings are given for what is copied, and the default, if anything, for what is
not read. -/
structure ReadAsGiven : Prop where
  copied : ∀ field ∈ copied_fields, ∀ v ∈ given data field.1 field.2, ∃ s, v = text_value s
  max_failed_cycles : ∀ v ∈ given data "bms" "max_failed_cycles",
    as_int env v = .ok ({} : BmsCfg).max_failed_cycles

end

section

variable {env : Environment} {v d x : PyValue} {k : String}

theorem get_or_eq_ok (h : v.get_or k d = .ok x) : x = (PyValue.lookup k (entries_of v)).getD d := by
  obtain ⟨found, hfound, h⟩ := bind_eq_ok_iff.mp h
  cases h
  cases v with
  | dict entries =>
    cases hfound
    rfl
  | list items => cases hfound
  | scalar s => cases hfound

theorem get_item_eq_ok (h : v.get_item k = .ok x) : PyValue.lookup k (entries_of v) = some x := by
  cases v with
  | dict entries =>
    rw [PyValue.get_item] at h
    cases hlookup : PyValue.lookup k entries with
    | none =>
      rw [hlookup] at h
      cases h
    | some found =>
      rw [hlookup] at h
      cases h
      exact hlookup
  | list items => cases h
  | scalar s => cases s <;> cases h

/-- A converted entry is faithful when the default it falls back on is converted to that of
the field. -/
theorem faithful_of_get_or {α : Type} {convert : PyValue → Except PyError α} {default y : α}
    (hget : v.get_or k d = .ok x) (hconvert : convert x = .ok y) (hdefault : convert d = .ok default) :
    Faithful (PyValue.lookup k (entries_of v)) convert (some default) y := by
  have hx := get_or_eq_ok hget
  cases hlookup : PyValue.lookup k (entries_of v) with
  | none =>
    rw [hlookup, Option.getD_none] at hx
    rw [hx, hdefault] at hconvert
    exact congrArg some (Except.ok.inj hconvert)
  | some found =>
    rw [hlookup, Option.getD_some] at hx
    rw [← hx]
    exact hconvert

theorem float_setting_faithful {default : ℚ} {y : PyFloat}
    (h : float_setting env v k default = .ok y) :
    Faithful (PyValue.lookup k (entries_of v)) (as_float env) (some (.finite default)) y := by
  obtain ⟨x, hget, hconvert⟩ := bind_eq_ok_iff.mp h
  exact faithful_of_get_or hget hconvert rfl

theorem int_setting_faithful {default y : Int} (h : int_setting env v k default = .ok y) :
    Faithful (PyValue.lookup k (entries_of v)) (as_int env) (some default) y := by
  obtain ⟨x, hget, hconvert⟩ := bind_eq_ok_iff.mp h
  exact faithful_of_get_or hget hconvert rfl

theorem bool_setting_faithful {default y : Bool} (h : bool_setting v k default = .ok y) :
    Faithful (PyValue.lookup k (entries_of v)) as_bool (some default) y := by
  obtain ⟨x, hget, h⟩ := bind_eq_ok_iff.mp h
  have hconvert : as_bool x = .ok y := h
  exact faithful_of_get_or hget hconvert rfl

theorem str_setting_faithful {default y : String} (h : str_setting env v k default = .ok y) :
    Faithful (PyValue.lookup k (entries_of v)) (as_str env) (some default) y := by
  obtain ⟨x, hget, h⟩ := bind_eq_ok_iff.mp h
  have hconvert : as_str env x = .ok y := h
  exact faithful_of_get_or hget hconvert rfl

/-- A value is the string it is converted to exactly when it is a string. -/
theorem as_text_eq_iff : as_text env v = .ok v ↔ ∃ s, v = text_value s := by
  rw [as_text, Except.ok.injEq]
  constructor
  · intro h
    exact ⟨env.str v, h.symm⟩
  · rintro ⟨s, rfl⟩
    rfl

/-- A copied entry is faithful when it is a string. -/
theorem copied_faithful_iff {default : String} (hget : v.get_or k (text_value default) = .ok x) :
    Faithful (PyValue.lookup k (entries_of v)) (as_text env) (some (text_value default)) x ↔
      ∀ found ∈ PyValue.lookup k (entries_of v), ∃ s, found = text_value s := by
  have hx := get_or_eq_ok hget
  cases hlookup : PyValue.lookup k (entries_of v) with
  | none =>
    rw [hlookup, Option.getD_none] at hx
    exact iff_of_true (congrArg some hx.symm) nofun
  | some found =>
    rw [hlookup, Option.getD_some] at hx
    rw [hx]
    simp only [Option.mem_some_iff, forall_eq']
    exact as_text_eq_iff

/-- So is a required one. -/
theorem required_faithful_iff (hget : v.get_item k = .ok x) :
    Faithful (PyValue.lookup k (entries_of v)) (as_text env) none x ↔
      ∀ found ∈ PyValue.lookup k (entries_of v), ∃ s, found = text_value s := by
  rw [get_item_eq_ok hget]
  simp only [Option.mem_some_iff, forall_eq']
  exact as_text_eq_iff

end

/-! ## The sections -/

section

variable {env : Environment} {data : PyValue}

theorem load_polling_faithful {cfg : PollingCfg}
    (h : load_polling env ((PyValue.lookup "polling" (entries_of data)).getD (.dict [])) = .ok cfg) :
    FaithfulPolling env data cfg := by
  obtain ⟨hot, hhot, h⟩ := bind_eq_ok_iff.mp h
  obtain ⟨cold, hcold, h⟩ := bind_eq_ok_iff.mp h
  obtain ⟨serial, hserial, h⟩ := bind_eq_ok_iff.mp h
  obtain ⟨delay, hdelay, h⟩ := bind_eq_ok_iff.mp h
  obtain ⟨attempts, hattempts, h⟩ := bind_eq_ok_iff.mp h
  obtain ⟨backoff, hbackoff, h⟩ := bind_eq_ok_iff.mp h
  cases h
  exact ⟨float_setting_faithful hhot, float_setting_faithful hcold, float_setting_faithful hserial,
    float_setting_faithful hdelay, int_setting_faithful hattempts, float_setting_faithful hbackoff⟩

theorem load_logging_faithful_iff {cfg : LoggingCfg}
    (h : load_logging ((PyValue.lookup "logging" (entries_of data)).getD (.dict [])) = .ok cfg) :
    FaithfulLogging env data cfg ↔
      (∀ v ∈ given data "logging" "level", ∃ s, v = text_value s) ∧
        ∀ v ∈ given data "logging" "format", ∃ s, v = text_value s := by
  obtain ⟨level, hlevel, h⟩ := bind_eq_ok_iff.mp h
  obtain ⟨format, hformat, h⟩ := bind_eq_ok_iff.mp h
  cases h
  have hlevel_iff := @copied_faithful_iff env _ _ _ _ hlevel
  have hformat_iff := @copied_faithful_iff env _ _ _ _ hformat
  constructor
  · intro hfaithful
    exact ⟨hlevel_iff.mp hfaithful.level, hformat_iff.mp hfaithful.format⟩
  · rintro ⟨hlevels, hformats⟩
    exact ⟨hlevel_iff.mpr hlevels, hformat_iff.mpr hformats⟩

theorem load_mqtt_faithful_iff {cfg : MqttCfg}
    (h : load_mqtt env ((PyValue.lookup "mqtt" (entries_of data)).getD (.dict [])) = .ok cfg) :
    FaithfulMqtt env data cfg ↔
      ∀ k ∈ ["host", "username", "client_id", "topic_prefix", "discovery_prefix"],
        ∀ v ∈ given data "mqtt" k, ∃ s, v = text_value s := by
  unfold load_mqtt at h
  obtain ⟨found, -, h⟩ := bind_eq_ok_iff.mp h
  split_ifs at h
  obtain ⟨file, -, h⟩ := bind_eq_ok_iff.mp h
  split at h
  case h_2 => cases h
  case h_1 path =>
    split_ifs at h
    obtain ⟨password, -, h⟩ := bind_eq_ok_iff.mp h
    obtain ⟨host, hhost, h⟩ := bind_eq_ok_iff.mp h
    obtain ⟨username, husername, h⟩ := bind_eq_ok_iff.mp h
    obtain ⟨port, hport, h⟩ := bind_eq_ok_iff.mp h
    obtain ⟨client_id, hclient, h⟩ := bind_eq_ok_iff.mp h
    obtain ⟨topic, htopic, h⟩ := bind_eq_ok_iff.mp h
    obtain ⟨discovery, hdiscovery, h⟩ := bind_eq_ok_iff.mp h
    obtain ⟨retain, hretain, h⟩ := bind_eq_ok_iff.mp h
    obtain ⟨qos, hqos, h⟩ := bind_eq_ok_iff.mp h
    cases h
    have hhost_iff := @required_faithful_iff env _ _ _ hhost
    have husername_iff := @required_faithful_iff env _ _ _ husername
    have hclient_iff := @copied_faithful_iff env _ _ _ _ hclient
    have htopic_iff := @copied_faithful_iff env _ _ _ _ htopic
    have hdiscovery_iff := @copied_faithful_iff env _ _ _ _ hdiscovery
    simp only [List.forall_mem_cons, List.not_mem_nil, false_implies, implies_true, and_true]
    constructor
    · intro hfaithful
      exact ⟨hhost_iff.mp hfaithful.host, husername_iff.mp hfaithful.username,
        hclient_iff.mp hfaithful.client_id, htopic_iff.mp hfaithful.topic_prefix,
        hdiscovery_iff.mp hfaithful.discovery_prefix⟩
    · rintro ⟨hhosts, husernames, hclients, htopics, hdiscoveries⟩
      exact ⟨hhost_iff.mpr hhosts, husername_iff.mpr husernames, int_setting_faithful hport,
        hclient_iff.mpr hclients, htopic_iff.mpr htopics, hdiscovery_iff.mpr hdiscoveries,
        bool_setting_faithful hretain, int_setting_faithful hqos⟩

/-- The serials are those given, when a list is given. -/
theorem load_pack_serials_faithful {found : Option PyValue} {serials : List String}
    (h : load_pack_serials found = .ok serials) :
    Faithful (unless_null found) as_strings (some default_pack_serials) serials := by
  match found with
  | none | some (.scalar .null) => exact congrArg some (Except.ok.inj h)
  | some (.list items) => exact h
  | some (.dict _) | some (.scalar (.bool _)) | some (.scalar (.int _)) | some (.scalar (.float _))
  | some (.scalar (.str _)) | some (.scalar (.date _ _)) => cases h

theorem get_eq_ok {v : PyValue} {k : String} {found : Option PyValue} (h : v.get k = .ok found) :
    found = PyValue.lookup k (entries_of v) := by
  cases v with
  | dict entries => exact (Except.ok.inj h).symm
  | list items => cases h
  | scalar s => cases h

/-- The checks behind the `bms` section leave it as it is. -/
theorem load_bms_faithful_iff {cfg : BmsCfg}
    (h : load_bms env ((PyValue.lookup "bms" (entries_of data)).getD (.dict [])) = .ok cfg) :
    FaithfulBms env data cfg ↔ ∀ v ∈ given data "bms" "max_failed_cycles",
      as_int env v = .ok ({} : BmsCfg).max_failed_cycles := by
  unfold load_bms at h
  obtain ⟨found, hfound, h⟩ := bind_eq_ok_iff.mp h
  obtain ⟨serials, hserials, h⟩ := bind_eq_ok_iff.mp h
  obtain ⟨enabled, henabled, h⟩ := bind_eq_ok_iff.mp h
  obtain ⟨mac, hmac, h⟩ := bind_eq_ok_iff.mp h
  obtain ⟨count, hcount, h⟩ := bind_eq_ok_iff.mp h
  obtain ⟨fast, hfast, h⟩ := bind_eq_ok_iff.mp h
  obtain ⟨slow, hslow, h⟩ := bind_eq_ok_iff.mp h
  obtain ⟨delay, hdelay, h⟩ := bind_eq_ok_iff.mp h
  obtain ⟨connect, hconnect, h⟩ := bind_eq_ok_iff.mp h
  obtain ⟨initial, hinitial, h⟩ := bind_eq_ok_iff.mp h
  obtain ⟨longest, hlongest, h⟩ := bind_eq_ok_iff.mp h
  obtain ⟨stale, hstale, h⟩ := bind_eq_ok_iff.mp h
  obtain ⟨topic, htopic, h⟩ := bind_eq_ok_iff.mp h
  obtain ⟨name, hname, h⟩ := bind_eq_ok_iff.mp h
  obtain ⟨device, hdevice, h⟩ := bind_eq_ok_iff.mp h
  obtain ⟨path, hpath, h⟩ := bind_eq_ok_iff.mp h
  have hcfg : cfg = {
      enabled, master_mac := mac, pack_count := count, poll_fast_interval_s := fast,
      poll_slow_interval_s := slow, inter_pack_delay_s := delay, connect_timeout_s := connect,
      reconnect_initial_backoff_s := initial, reconnect_max_backoff_s := longest,
      stale_pack_timeout_s := stale, mqtt_topic_prefix := topic, mqtt_device_name := name,
      mqtt_device_id := device, energy_persist_path := path, pack_serials := serials } := by
    dsimp only at h
    split_ifs at h
    all_goals
      cases h
      rfl
  have hcycles : cfg.max_failed_cycles = ({} : BmsCfg).max_failed_cycles := by rw [hcfg]
  constructor
  · intro hfaithful v hv
    have hgiven := hfaithful.max_failed_cycles
    rw [Option.mem_def.mp hv, hcycles] at hgiven
    exact hgiven
  · intro hcycles_given
    have hmax : Faithful (given data "bms" "max_failed_cycles") (as_int env)
        (some ({} : BmsCfg).max_failed_cycles) cfg.max_failed_cycles := by
      rw [hcycles]
      cases hgiven : given data "bms" "max_failed_cycles" with
      | none => rfl
      | some v => exact hcycles_given v hgiven
    rw [get_eq_ok hfound] at hserials
    rw [hcfg] at hmax ⊢
    exact ⟨bool_setting_faithful henabled, str_setting_faithful hmac, int_setting_faithful hcount,
      float_setting_faithful hfast, float_setting_faithful hslow, float_setting_faithful hdelay,
      float_setting_faithful hconnect, float_setting_faithful hinitial,
      float_setting_faithful hlongest, hmax, float_setting_faithful hstale,
      str_setting_faithful htopic, str_setting_faithful hname, str_setting_faithful hdevice,
      str_setting_faithful hpath, load_pack_serials_faithful hserials⟩

end

/-- A document that is accepted is read faithfully when it gives only strings for what is
copied, and does not set what is not read. -/
theorem load_config_faithful_iff (env : Environment) (data : PyValue) (cfg : BridgeConfig)
    (hload : load_config env data = .ok cfg) :
    FaithfulConfig env data cfg ↔ ReadAsGiven env data := by
  unfold load_config at hload
  split at hload
  case h_2 => cases hload
  case h_1 entries =>
    split at hload
    case h_1 => cases hload
    case h_2 invs _ =>
      split_ifs at hload
      split at hload
      case h_1 => cases hload
      case h_2 mq hmq =>
        obtain ⟨items, -, hload⟩ := bind_eq_ok_iff.mp hload
        obtain ⟨inverters, -, hload⟩ := bind_eq_ok_iff.mp hload
        obtain ⟨mqtt, hmqtt, hload⟩ := bind_eq_ok_iff.mp hload
        obtain ⟨polling, hpolling, hload⟩ := bind_eq_ok_iff.mp hload
        obtain ⟨logging, hlogging, hload⟩ := bind_eq_ok_iff.mp hload
        obtain ⟨bms, hbms, hload⟩ := bind_eq_ok_iff.mp hload
        cases hload
        have hsection : (PyValue.lookup "mqtt" (entries_of (.dict entries))).getD (.dict []) = mq := by
          rw [entries_of, hmq]
          rfl
        rw [← hsection] at hmqtt
        have hmqtt_iff := load_mqtt_faithful_iff hmqtt
        have hlogging_iff := @load_logging_faithful_iff env (.dict entries) _ hlogging
        have hbms_iff := @load_bms_faithful_iff env (.dict entries) _ hbms
        have hpolling' := @load_polling_faithful env (.dict entries) _ hpolling
        simp only [List.forall_mem_cons, List.not_mem_nil, false_implies, implies_true,
          and_true] at hmqtt_iff
        constructor
        · intro hfaithful
          obtain ⟨hhost, husername, hclient, htopic, hdiscovery⟩ := hmqtt_iff.mp hfaithful.mqtt
          obtain ⟨hlevel, hformat⟩ := hlogging_iff.mp hfaithful.logging
          refine ⟨?_, hbms_iff.mp hfaithful.bms⟩
          simp only [copied_fields, List.forall_mem_cons, List.not_mem_nil, false_implies,
            implies_true, and_true]
          exact ⟨hhost, husername, hclient, htopic, hdiscovery, hlevel, hformat⟩
        · rintro ⟨hcopied, hcycles⟩
          simp only [copied_fields, List.forall_mem_cons, List.not_mem_nil, false_implies,
            implies_true, and_true] at hcopied
          obtain ⟨hhost, husername, hclient, htopic, hdiscovery, hlevel, hformat⟩ := hcopied
          exact ⟨hmqtt_iff.mpr ⟨hhost, husername, hclient, htopic, hdiscovery⟩, hpolling',
            hlogging_iff.mpr ⟨hlevel, hformat⟩, hbms_iff.mpr hcycles⟩

/-- Every file is there, and holds the password of the tests. The digits beyond ASCII are the
Arabic-Indic ones. -/
def password_env : Environment where
  path_text := id
  file_exists _ := true
  read_text _ := .ok "pwd"
  repr _ := ""
  text _ := ""
  decimal_digit c := if 0x660 ≤ c ∧ c ≤ 0x669 then some (c - 0x660) else none

example : as_int password_env (text_value "٣") = .ok 3 := by rfl

/-- A minimal document, with a `bms` section. -/
def document (bms : List (Scalar × PyValue)) : PyValue := .dict [
  (.str "inverters", .list [.dict [
    (.str "name", text_value "inv1"), (.str "port", text_value "/dev/ttyUSB0"),
    (.str "slave", int_value 1)]]),
  (.str "mqtt", .dict [
    (.str "host", text_value "localhost"), (.str "username", text_value "u"),
    (.str "password_file", text_value "secret")]),
  (.str "bms", .dict bms)]

def is_text : PyValue → Bool
  | .scalar (.str _) => true
  | _ => false

theorem exists_of_is_text {given : Option PyValue} (h : given.all is_text = true) :
    ∀ v ∈ given, ∃ s, v = text_value s := by
  rintro v rfl
  match v with
  | .scalar (.str s) => exact ⟨s, rfl⟩
  | .scalar .null | .scalar (.bool _) | .scalar (.int _) | .scalar (.float _)
  | .scalar (.date _ _) | .list _ | .dict _ => cases h

theorem load_config_faithful_iff_pack_count : ∃ cfg,
    load_config password_env (document [(.str "pack_count", int_value 2)]) = .ok cfg ∧
      FaithfulConfig password_env (document [(.str "pack_count", int_value 2)]) cfg := by
  obtain ⟨cfg, hload⟩ : ∃ cfg, load_config password_env
      (document [(.str "pack_count", int_value 2)]) = .ok cfg := ⟨_, rfl⟩
  refine ⟨cfg, hload, (load_config_faithful_iff password_env _ cfg hload).mpr ⟨?_, nofun⟩⟩
  have htexts : ∀ field ∈ copied_fields,
      (given (document [(.str "pack_count", int_value 2)]) field.1 field.2).all
        is_text = true := by decide
  exact fun field hfield => exists_of_is_text (htexts field hfield)

/-- The cycles until the service gives up are always three. -/
theorem max_failed_cycles_ignored : ∃ cfg,
    load_config password_env (document [(.str "max_failed_cycles", int_value 5)]) = .ok cfg ∧
      cfg.bms.max_failed_cycles = 3 ∧
      ¬ FaithfulConfig password_env (document [(.str "max_failed_cycles", int_value 5)]) cfg := by
  refine ⟨_, rfl, rfl, fun hfaithful => ?_⟩
  have hcycles : (Except.ok 5 : Except PyError Int) = .ok 3 := hfaithful.bms.max_failed_cycles
  cases hcycles

end inverter_bridge.config
