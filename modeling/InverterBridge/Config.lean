import Mathlib.Data.List.Nodup
import InverterBridge.Lib.PyValue
import InverterBridge.Modbus

open Python
open inverter_bridge.modbus

namespace inverter_bridge.config

/-- One inverter. The loader checks the slave address only: names and ports are
whatever the document gives. -/
structure InverterCfg (κ δ : Type) where
  name : κ
  port : δ
  slave : SlaveId

structure PollingCfg where
  hot_interval_s : PyFloat := .finite 3
  cold_interval_s : PyFloat := .finite 60
  serial_timeout_s : PyFloat := .finite (3 / 2)
  inter_query_delay_s : PyFloat := .finite (1 / 20)
  retry_attempts : Int := 3
  retry_backoff_s : PyFloat := .finite (1 / 10)

structure MqttCfg where
  host : PyValue
  username : PyValue
  password : String
  port : Int := 1883
  client_id : PyValue := .scalar (.str "inverter_bridge")
  topic_prefix : PyValue := .scalar (.str "gadi_inverters")
  discovery_prefix : PyValue := .scalar (.str "homeassistant")
  retain_discovery : Bool := true
  qos : Int := 0

structure LoggingCfg where
  level : PyValue := .scalar (.str "INFO")
  format : PyValue := .scalar (.str "text")

def default_pack_serials : List String :=
  ["BN012502180020", "BN012502180443", "BN012502180269", "BN012502180456"]

structure BmsCfg where
  enabled : Bool := false
  master_mac : String := ""
  pack_count : Int := 4
  poll_fast_interval_s : PyFloat := .finite 5
  poll_slow_interval_s : PyFloat := .finite 300
  inter_pack_delay_s : PyFloat := .finite (1 / 2)
  connect_timeout_s : PyFloat := .finite 15
  reconnect_initial_backoff_s : PyFloat := .finite 2
  reconnect_max_backoff_s : PyFloat := .finite 60
  max_failed_cycles : Int := 3
  stale_pack_timeout_s : PyFloat := .finite 60
  mqtt_topic_prefix : String := "gadi_bms"
  mqtt_device_name : String := "BlueSun"
  mqtt_device_id : String := "bluesun_bms"
  energy_persist_path : String := "/var/lib/inverter-bridge/bms-energy.json"
  pack_serials : List String := default_pack_serials

structure BridgeConfig where
  inverters : List (InverterCfg PyValue PyValue)
  mqtt : MqttCfg
  polling : PollingCfg := {}
  logging : LoggingCfg := {}
  bms : BmsCfg := {}

/-- The files the loader looks at, by the path the document gives, the texts of values that are
not strings, and the decimal digits beyond ASCII in the interpreter's Unicode database. -/
structure Environment where
  path_text : String → String
  file_exists : String → Bool
  read_text : String → Except PyError String
  repr : PyValue → String
  text : PyValue → String
  decimal_digit : Nat → Option Nat

/-- `str(v)`. -/
def Environment.str (env : Environment) : PyValue → String
  | .scalar (.str s) => s
  | v => env.text v

/-- `_parse_int_or_hex(v)`, with the text the number is printed as: a bool is an int. -/
def parse_int_or_hex (env : Environment) (v : PyValue) : Except PyError (Int × String) :=
  match v with
  | .scalar (.bool b) => .ok (if b then (1, "True") else (0, "False"))
  | .scalar (.int n) => .ok (n, toString n)
  | .scalar (.str s) =>
    match read_int env.decimal_digit 0 s with
    | some n => .ok (n, toString n)
    | none => .error (int_error env.decimal_digit 0 (env.repr v) s)
  | v => .error (.ValueError s!"expected int or hex string, got {v.type_name}: {env.repr v}")

/-- The range check on a slave address. -/
def slave_id (n : Int) : Option SlaveId :=
  if h : 1 ≤ n ∧ n ≤ 247 then
    some ⟨UInt8.ofNat n.toNat, by
      obtain ⟨m, rfl⟩ := Int.eq_ofNat_of_zero_le (Int.le_trans (by decide) h.1)
      have hm : m < 256 := by omega
      simp only [Int.toNat_natCast, UInt8.le_iff_toNat_le, UInt8.toNat_ofNat', Nat.mod_eq_of_lt hm]
      simp
      omega⟩
  else none

/-- The loop over the inverters of the document. -/
def load_inverters (env : Environment) (seen_slaves : List SlaveId)
    (inverters : List (InverterCfg PyValue PyValue)) :
    List PyValue → Except PyError (List (InverterCfg PyValue PyValue))
  | [] => .ok inverters
  | entry :: entries => do
    let (n, text) ← parse_int_or_hex env (← entry.get_item "slave")
    match slave_id n with
    | none => .error (.ValueError s!"slave {text} out of valid range 1..247")
    | some slave =>
      if slave ∈ seen_slaves then .error (.ValueError s!"duplicate slave address {text}")
      else
        let name ← entry.get_item "name"
        let port ← entry.get_item "port"
        load_inverters env (seen_slaves ++ [slave]) (inverters ++ [⟨name, port, slave⟩]) entries

def text_value (s : String) : PyValue := .scalar (.str s)
def int_value (n : Int) : PyValue := .scalar (.int n)
def float_value (x : ℚ) : PyValue := .scalar (.float (.finite x))

/-- `float(section.get(k, default))`. -/
def float_setting (env : Environment) (v : PyValue) (k : String) (default : ℚ) :
    Except PyError PyFloat := do
  (← v.get_or k (float_value default)).to_float env.decimal_digit env.repr

/-- `int(section.get(k, default))`. -/
def int_setting (env : Environment) (v : PyValue) (k : String) (default : Int) :
    Except PyError Int := do
  (← v.get_or k (int_value default)).to_int env.decimal_digit env.repr

/-- `bool(section.get(k, default))`. -/
def bool_setting (v : PyValue) (k : String) (default : Bool) : Except PyError Bool := do
  return (← v.get_or k (.scalar (.bool default))).truthy

/-- `str(section.get(k, default))`. -/
def str_setting (env : Environment) (v : PyValue) (k : String) (default : String) :
    Except PyError String := do
  return env.str (← v.get_or k (text_value default))

/-- The `mqtt` section. -/
def load_mqtt (env : Environment) (mq : PyValue) : Except PyError MqttCfg := do
  if ! (← mq.contains "password_file") then
    .error (.ValueError "config missing 'mqtt.password_file'")
  else
    match ← mq.get_item "password_file" with
    | .scalar (.str path) =>
      if ! env.file_exists path then
        .error (.ValueError s!"mqtt.password_file does not exist: {env.path_text path}")
      else
        let password := strip (← env.read_text path)
        return {
          host := ← mq.get_item "host"
          username := ← mq.get_item "username"
          password
          port := ← int_setting env mq "port" 1883
          client_id := ← mq.get_or "client_id" (text_value "inverter_bridge")
          topic_prefix := ← mq.get_or "topic_prefix" (text_value "gadi_inverters")
          discovery_prefix := ← mq.get_or "discovery_prefix" (text_value "homeassistant")
          retain_discovery := ← bool_setting mq "retain_discovery" true
          qos := ← int_setting env mq "qos" 0 }
    | v => .error (.TypeError s!"expected str, bytes or os.PathLike object, not {v.type_name}")

/-- The `polling` section. -/
def load_polling (env : Environment) (poll_data : PyValue) : Except PyError PollingCfg := do
  return {
    hot_interval_s := ← float_setting env poll_data "hot_interval_s" 3
    cold_interval_s := ← float_setting env poll_data "cold_interval_s" 60
    serial_timeout_s := ← float_setting env poll_data "serial_timeout_s" (3 / 2)
    inter_query_delay_s := ← float_setting env poll_data "inter_query_delay_s" (1 / 20)
    retry_attempts := ← int_setting env poll_data "retry_attempts" 3
    retry_backoff_s := ← float_setting env poll_data "retry_backoff_s" (1 / 10) }

/-- The `logging` section. -/
def load_logging (log_data : PyValue) : Except PyError LoggingCfg := do
  return {
    level := ← log_data.get_or "level" (text_value "INFO")
    format := ← log_data.get_or "format" (text_value "text") }

/-- A list of strings, as the strings. -/
def all_strings : List PyValue → Option (List String)
  | [] => some []
  | .scalar (.str s) :: items => (all_strings items).map (s :: ·)
  | _ => none

/-- `bms.pack_serials`, when the document gives them. -/
def load_pack_serials : Option PyValue → Except PyError (List String)
  | none | some (.scalar .null) => .ok default_pack_serials
  | some v =>
    let serials := match v with
      | .list items => all_strings items
      | _ => none
    match serials with
    | some serials => .ok serials
    | none => .error (.ValueError "bms.pack_serials debe ser lista de strings")

/-- The `bms` section. The document's `max_failed_cycles` is not read. -/
def load_bms (env : Environment) (bms_data : PyValue) : Except PyError BmsCfg := do
  let pack_serials ← load_pack_serials (← bms_data.get "pack_serials")
  let bms : BmsCfg := {
    enabled := ← bool_setting bms_data "enabled" false
    master_mac := ← str_setting env bms_data "master_mac" ""
    pack_count := ← int_setting env bms_data "pack_count" 4
    poll_fast_interval_s := ← float_setting env bms_data "poll_fast_interval_s" 5
    poll_slow_interval_s := ← float_setting env bms_data "poll_slow_interval_s" 300
    inter_pack_delay_s := ← float_setting env bms_data "inter_pack_delay_s" (1 / 2)
    connect_timeout_s := ← float_setting env bms_data "connect_timeout_s" 15
    reconnect_initial_backoff_s := ← float_setting env bms_data "reconnect_initial_backoff_s" 2
    reconnect_max_backoff_s := ← float_setting env bms_data "reconnect_max_backoff_s" 60
    stale_pack_timeout_s := ← float_setting env bms_data "stale_pack_timeout_s" 60
    mqtt_topic_prefix := ← str_setting env bms_data "mqtt_topic_prefix" "gadi_bms"
    mqtt_device_name := ← str_setting env bms_data "mqtt_device_name" "BlueSun"
    mqtt_device_id := ← str_setting env bms_data "mqtt_device_id" "bluesun_bms"
    energy_persist_path :=
      ← str_setting env bms_data "energy_persist_path" "/var/lib/inverter-bridge/bms-energy.json"
    pack_serials }
  if bms.enabled then
    if bms.master_mac = "" then
      .error (.ValueError "bms.enabled=true requires bms.master_mac to be set")
    else if ¬ (1 ≤ bms.pack_count ∧ bms.pack_count ≤ 4) then
      .error (.ValueError s!"bms.pack_count {bms.pack_count} out of range 1..4")
    else return bms
  else return bms

/-- `load_config(path)`, for a file whose text is the document `data`. -/
def load_config (env : Environment) (data : PyValue) : Except PyError BridgeConfig :=
  match data with
  | .dict entries =>
    match PyValue.lookup "inverters" entries with
    | none => .error (.ValueError "config missing 'inverters' or it is empty")
    | some invs =>
      if ! invs.truthy then .error (.ValueError "config missing 'inverters' or it is empty")
      else
        match PyValue.lookup "mqtt" entries with
        | none => .error (.ValueError "config missing 'mqtt' section")
        | some mq => do
          let inverters ← load_inverters env [] [] (← invs.items)
          let mqtt ← load_mqtt env mq
          let polling ← load_polling env ((PyValue.lookup "polling" entries).getD (.dict []))
          let logging ← load_logging ((PyValue.lookup "logging" entries).getD (.dict []))
          let bms ← load_bms env ((PyValue.lookup "bms" entries).getD (.dict []))
          return { inverters, mqtt, polling, logging, bms }
  | v => .error (.ValueError s!"config root must be a mapping, got {v.type_name}")

/-- The loop keeps the addresses it has seen, and they stay distinct. -/
theorem load_inverters_nodup {env : Environment} {seen_slaves : List SlaveId}
    {inverters inverters' : List (InverterCfg PyValue PyValue)} {entries : List PyValue}
    (hload : load_inverters env seen_slaves inverters entries = .ok inverters')
    (hseen : inverters.map InverterCfg.slave = seen_slaves) (hnodup : seen_slaves.Nodup) :
    (inverters'.map InverterCfg.slave).Nodup := by
  induction entries generalizing seen_slaves inverters with
  | nil =>
    cases hload
    exact hseen ▸ hnodup
  | cons entry entries ih =>
    obtain ⟨v, -, hload⟩ := bind_eq_ok_iff.mp hload
    obtain ⟨⟨n, text⟩, -, hload⟩ := bind_eq_ok_iff.mp hload
    cases hslave : slave_id n with
    | none =>
      simp only [hslave] at hload
      cases hload
    | some slave =>
      simp only [hslave] at hload
      by_cases hdup : slave ∈ seen_slaves
      · rw [if_pos hdup] at hload
        cases hload
      · rw [if_neg hdup] at hload
        obtain ⟨name, -, hload⟩ := bind_eq_ok_iff.mp hload
        obtain ⟨port, -, hload⟩ := bind_eq_ok_iff.mp hload
        refine ih hload (by rw [List.map_append, hseen, List.map_singleton]) ?_
        simpa using List.Nodup.concat hdup hnodup

/-- The inverters of an accepted document have distinct slave addresses. -/
theorem load_config_nodup {env : Environment} {data : PyValue} {cfg : BridgeConfig}
    (hload : load_config env data = .ok cfg) : (cfg.inverters.map InverterCfg.slave).Nodup := by
  unfold load_config at hload
  split at hload
  case h_2 => cases hload
  case h_1 entries =>
    split at hload
    case h_1 => cases hload
    case h_2 invs _ =>
      split_ifs at hload
      split at hload
      case h_1 => cases hload
      case h_2 mq _ =>
        obtain ⟨items, -, hload⟩ := bind_eq_ok_iff.mp hload
        obtain ⟨inverters, hinverters, hload⟩ := bind_eq_ok_iff.mp hload
        obtain ⟨mqtt, -, hload⟩ := bind_eq_ok_iff.mp hload
        obtain ⟨polling, -, hload⟩ := bind_eq_ok_iff.mp hload
        obtain ⟨logging, -, hload⟩ := bind_eq_ok_iff.mp hload
        obtain ⟨bms, -, hload⟩ := bind_eq_ok_iff.mp hload
        cases hload
        exact load_inverters_nodup hinverters rfl List.nodup_nil

end inverter_bridge.config
