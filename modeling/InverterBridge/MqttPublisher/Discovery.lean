import InverterBridge.Config
import InverterBridge.Lib.Text

open Python
open inverter_bridge.config

namespace inverter_bridge.mqtt_publisher

/-- A row of the sensor tables: key, unit, device class and state class. -/
structure Sensor where
  key : String
  unit : String
  device_class : Option String
  state_class : Option String

def AGGREGATE_SENSORS : List Sensor := [
  ⟨"battery_state_of_charge", "%", some "battery", some "measurement"⟩,
  ⟨"battery_voltage", "V", some "voltage", some "measurement"⟩,
  ⟨"battery_power", "W", some "power", some "measurement"⟩,
  ⟨"bus_voltage", "V", some "voltage", some "measurement"⟩,
  ⟨"load_power", "W", some "power", some "measurement"⟩,
  ⟨"pv_power", "W", some "power", some "measurement"⟩,
  ⟨"grid_power", "W", some "power", some "measurement"⟩,
  ⟨"grid_voltage", "V", some "voltage", some "measurement"⟩,
  ⟨"grid_frequency", "Hz", some "frequency", some "measurement"⟩,
  ⟨"mode", "", none, none⟩,
  ⟨"pv_energy_today", "kWh", some "energy", some "total_increasing"⟩,
  ⟨"load_energy_today", "kWh", some "energy", some "total_increasing"⟩,
  ⟨"battery_charge_ah_today", "Ah", none, some "total_increasing"⟩,
  ⟨"battery_discharge_ah_today", "Ah", none, some "total_increasing"⟩]

def PER_INVERTER_SENSORS : List Sensor := [
  ⟨"battery_current", "A", some "current", some "measurement"⟩,
  ⟨"battery_voltage", "V", some "voltage", some "measurement"⟩,
  ⟨"bus_voltage", "V", some "voltage", some "measurement"⟩,
  ⟨"load_power", "W", some "power", some "measurement"⟩,
  ⟨"load_power_l1", "W", some "power", some "measurement"⟩,
  ⟨"load_power_l2", "W", some "power", some "measurement"⟩,
  ⟨"load_apparent_power", "VA", some "apparent_power", some "measurement"⟩,
  ⟨"load_apparent_power_l1", "VA", some "apparent_power", some "measurement"⟩,
  ⟨"load_apparent_power_l2", "VA", some "apparent_power", some "measurement"⟩,
  ⟨"load_percentage", "%", none, some "measurement"⟩,
  ⟨"ac_output_voltage", "V", some "voltage", some "measurement"⟩,
  ⟨"ac_output_frequency", "Hz", some "frequency", some "measurement"⟩,
  ⟨"grid_voltage", "V", some "voltage", some "measurement"⟩,
  ⟨"grid_power", "W", some "power", some "measurement"⟩,
  ⟨"grid_frequency", "Hz", some "frequency", some "measurement"⟩,
  ⟨"temperature", "°C", some "temperature", some "measurement"⟩,
  ⟨"temperature_dc_dc", "°C", some "temperature", some "measurement"⟩,
  ⟨"temperature_dc_ac", "°C", some "temperature", some "measurement"⟩,
  ⟨"temperature_transformer", "°C", some "temperature", some "measurement"⟩,
  ⟨"pv_voltage_mppt1", "V", some "voltage", some "measurement"⟩,
  ⟨"pv_voltage_mppt2", "V", some "voltage", some "measurement"⟩,
  ⟨"pv_current", "A", some "current", some "measurement"⟩,
  ⟨"pv_current_mppt1", "A", some "current", some "measurement"⟩,
  ⟨"pv_current_mppt2", "A", some "current", some "measurement"⟩,
  ⟨"pv_power", "W", some "power", some "measurement"⟩,
  ⟨"pv_power_mppt1", "W", some "power", some "measurement"⟩,
  ⟨"pv_power_mppt2", "W", some "power", some "measurement"⟩,
  ⟨"device_mode", "", none, none⟩,
  ⟨"charge_state", "", none, none⟩,
  ⟨"pv_energy_today", "kWh", some "energy", some "total_increasing"⟩,
  ⟨"load_energy_today", "kWh", some "energy", some "total_increasing"⟩,
  ⟨"battery_charge_ah_today", "Ah", none, some "total_increasing"⟩,
  ⟨"battery_discharge_ah_today", "Ah", none, some "total_increasing"⟩,
  ⟨"pv_energy_yesterday", "kWh", some "energy", some "measurement"⟩,
  ⟨"pv_energy_2_days_ago", "kWh", some "energy", some "measurement"⟩,
  ⟨"pv_energy_3_days_ago", "kWh", some "energy", some "measurement"⟩,
  ⟨"pv_energy_4_days_ago", "kWh", some "energy", some "measurement"⟩,
  ⟨"pv_energy_5_days_ago", "kWh", some "energy", some "measurement"⟩,
  ⟨"pv_energy_6_days_ago", "kWh", some "energy", some "measurement"⟩,
  ⟨"pv_energy_7_days_ago", "kWh", some "energy", some "measurement"⟩,
  ⟨"firmware_version", "", none, none⟩,
  ⟨"hardware_version", "", none, none⟩,
  ⟨"status", "", none, none⟩,
  ⟨"fault_bits", "", none, none⟩]

def ENERGY_SENSORS : List Sensor := [
  ⟨"battery_energy_in", "kWh", some "energy", some "total_increasing"⟩,
  ⟨"battery_energy_out", "kWh", some "energy", some "total_increasing"⟩,
  ⟨"pv_energy", "kWh", some "energy", some "total_increasing"⟩,
  ⟨"load_energy", "kWh", some "energy", some "total_increasing"⟩,
  ⟨"grid_energy_in", "kWh", some "energy", some "total_increasing"⟩,
  ⟨"grid_energy_out", "kWh", some "energy", some "total_increasing"⟩]

def META_SENSORS : List Sensor := [
  ⟨"_meta/poll_duration_ms", "ms", none, some "measurement"⟩,
  ⟨"_meta/poll_duration_per_inverter_ms", "", none, none⟩,
  ⟨"_meta/crc_fails_total", "", none, some "total_increasing"⟩,
  ⟨"_meta/uptime_s", "s", some "duration", some "total_increasing"⟩]

def FORCE_UPDATE_KEY_SUFFIXES : List String :=
  ["battery_state_of_charge", "mode", "device_mode", "charge_state", "load_percentage",
    "inverter_state_code", "grid_voltage", "grid_frequency", "grid_power", "grid_energy_in",
    "grid_energy_out", "battery_energy_in", "battery_energy_out", "pv_energy", "load_energy"]

/-- `_key_to_topic_path(key)`. -/
def key_to_topic_path (key : String) : String :=
  if (Text.after "_meta/" key).isSome then key
  else
    match (Text.after "inverter_" key).bind (Text.split_once '_') with
    | some (n, rest) => s!"inverter_{n}/{rest}"
    | none => s!"total/{key}"

/-- `_key_to_unique_id(key)`. -/
def key_to_unique_id (key : String) : String :=
  match Text.after "_meta/" key with
  | some rest => "meta_" ++ rest
  | none => if (Text.after "inverter_" key).isSome then key else s!"total_{key}"

/-- `_needs_force_update(key)`. -/
def needs_force_update (key : String) : Bool :=
  (Text.after "_meta/" key).isSome || FORCE_UPDATE_KEY_SUFFIXES.any fun suffix =>
    key = suffix || decide ((s!"_{suffix}").toList <:+ key.toList)

/-- `key.replace("_", " ")`. -/
def spaced (key : String) : String :=
  String.ofList (key.toList.map fun c => if c = '_' then ' ' else c)

/-- `s.capitalize()` of an ASCII text. -/
def capitalize (s : String) : String :=
  match s.toList with
  | [] => ""
  | c :: cs => String.ofList (c.toUpper :: cs.map Char.toLower)

/-- `_device_block()`. -/
structure Device where
  identifiers : List String := ["sa_inverter"]
  name : String := "SRNE Split-phase x 2"
  manufacturer : String := "SRNE"
  model : String := "SRNE Split-phase"

/-- The discovery payloads. A field that the payload leaves out is `none`. -/
structure Payload where
  name : String
  unique_id : String
  object_id : String
  state_topic : String
  payload_on : Option String := none
  payload_off : Option String := none
  availability_topic : String
  device : Device := {}
  unit_of_measurement : Option String := none
  device_class : Option String := none
  state_class : Option String := none
  force_update : Option Bool := none

/-- The members of a payload in the order in which the publisher puts them in: those of the
online sensor stand in front of the availability topic. -/
def Payload.members (payload : Payload) : List (Scalar × PyValue) :=
  let availability : Scalar × PyValue :=
    PyValue.text_entry "availability_topic" payload.availability_topic
  let device : Scalar × PyValue := (.str "device", .dict [
    (.str "identifiers", PyValue.strings payload.device.identifiers),
    PyValue.text_entry "name" payload.device.name,
    PyValue.text_entry "manufacturer" payload.device.manufacturer,
    PyValue.text_entry "model" payload.device.model])
  let device_class := (payload.device_class.map (PyValue.text_entry "device_class")).toList
  [PyValue.text_entry "name" payload.name,
    PyValue.text_entry "unique_id" payload.unique_id,
    PyValue.text_entry "object_id" payload.object_id,
    PyValue.text_entry "state_topic" payload.state_topic] ++
  match payload.payload_on, payload.payload_off with
  | some on, some off =>
    [PyValue.text_entry "payload_on" on, PyValue.text_entry "payload_off" off] ++ device_class ++
      [availability, device]
  | _, _ =>
    [availability, device] ++
      (payload.unit_of_measurement.map (PyValue.text_entry "unit_of_measurement")).toList ++
      device_class ++
      (payload.state_class.map (PyValue.text_entry "state_class")).toList ++
      (payload.force_update.map fun b => (.str "force_update", .scalar (.bool b))).toList

/-- `payload`, as the dict that is published. -/
def Payload.to_value (payload : Payload) : PyValue := .dict payload.members

/-- A retained discovery message. -/
structure Announcement where
  config_topic : String
  payload : Payload
  qos : Int
  retain : Bool

/-- The publisher, with the topic texts of its configuration. -/
structure MqttPublisher where
  topic_prefix : String
  discovery_prefix : String
  retain_discovery : Bool
  qos : Int
  n_inverters : Nat

/-- `MqttPublisher(cfg, n_inverters=n_inverters)`. -/
def MqttPublisher.of_config (env : Environment) (cfg : MqttCfg) (n_inverters : Nat) :
    MqttPublisher where
  topic_prefix := env.str cfg.topic_prefix
  discovery_prefix := env.str cfg.discovery_prefix
  retain_discovery := cfg.retain_discovery
  qos := cfg.qos
  n_inverters := n_inverters

namespace MqttPublisher

variable (self : MqttPublisher)

/-- `self._availability_topic`. -/
def availability_topic : String := self.topic_prefix ++ "/availability"

/-- The topic `publish_value(sensor_key, value)` publishes to. -/
def state_topic (sensor_key : String) : String :=
  self.topic_prefix ++ s!"/{key_to_topic_path sensor_key}/state"

/-- `if text:`. -/
def present (text : String) : Option String := if text = "" then none else some text

/-- `_publish_discovery_one`. -/
def publish_discovery_one (sensor : Sensor) (key display_name : String) : Announcement :=
  let unique := key_to_unique_id key
  { config_topic := self.discovery_prefix ++ s!"/sensor/{unique}/config"
    payload := {
      name := display_name
      unique_id := unique
      object_id := unique
      state_topic := self.state_topic key
      availability_topic := self.availability_topic
      unit_of_measurement := present sensor.unit
      device_class := sensor.device_class.bind present
      state_class := sensor.state_class.bind present
      force_update := if needs_force_update key then some true else none }
    qos := self.qos
    retain := self.retain_discovery }

/-- `publish_binary_sensor_discovery`. -/
def publish_binary_sensor_discovery : Announcement where
  config_topic := self.discovery_prefix ++ "/binary_sensor/inverter_bridge_online/config"
  payload := {
    name := "Inverter bridge online"
    unique_id := "inverter_bridge_online"
    object_id := "inverter_bridge_online"
    state_topic := self.availability_topic
    payload_on := some "online"
    payload_off := some "offline"
    device_class := some "connectivity"
    availability_topic := self.availability_topic }
  qos := self.qos
  retain := self.retain_discovery

/-- `publish_discovery()`: the messages in order. -/
def publish_discovery : List Announcement :=
  AGGREGATE_SENSORS.map (fun sensor =>
    self.publish_discovery_one sensor sensor.key (capitalize (spaced sensor.key))) ++
  ENERGY_SENSORS.map (fun sensor =>
    self.publish_discovery_one sensor sensor.key (capitalize (spaced sensor.key))) ++
  (List.range self.n_inverters).flatMap (fun i => PER_INVERTER_SENSORS.map fun sensor =>
    self.publish_discovery_one sensor (Text.numbered "inverter" (i + 1) sensor.key)
      s!"Inverter {i + 1} - {capitalize (spaced sensor.key)}") ++
  META_SENSORS.map (fun sensor =>
    let short := (Text.after "_meta/" sensor.key).getD sensor.key
    self.publish_discovery_one sensor sensor.key s!"Meta {spaced short}") ++
  [self.publish_binary_sensor_discovery]

end MqttPublisher

end inverter_bridge.mqtt_publisher
