import InverterBridge.Aggregator.Phantom
import InverterBridge.Daemon.Effects
import InverterBridge.MqttPublisher.Topics

open Python
open inverter_bridge.config inverter_bridge.aggregator inverter_bridge.energy_integrator
open inverter_bridge.daemon

namespace inverter_bridge.mqtt_publisher

/-! ## What is announced -/

/-- The sensors announced for `n_inverters`, in order. -/
def announced (n_inverters : Nat) : List SensorKey :=
  (AGGREGATE_SENSORS ++ ENERGY_SENSORS).map (fun sensor => .site sensor.key) ++
  (List.range n_inverters).flatMap (fun i => PER_INVERTER_SENSORS.map fun sensor =>
    .inverter (i + 1) sensor.key) ++
  META_SENSORS.map fun sensor => .daemon ((Text.after "_meta/" sensor.key).getD sensor.key)

theorem site_mem_announced (n_inverters : Nat) {key : String}
    (hkey : key ∈ (AGGREGATE_SENSORS ++ ENERGY_SENSORS).map Sensor.key) :
    .site key ∈ announced n_inverters := by
  obtain ⟨sensor, hsensor, rfl⟩ := List.mem_map.mp hkey
  exact List.mem_append_left _ (List.mem_append_left _ (List.mem_map.mpr ⟨sensor, hsensor, rfl⟩))

theorem inverter_mem_announced {n_inverters i : Nat} (hi : i < n_inverters) {key : String}
    (hkey : key ∈ PER_INVERTER_SENSORS.map Sensor.key) :
    .inverter (i + 1) key ∈ announced n_inverters := by
  obtain ⟨sensor, hsensor, rfl⟩ := List.mem_map.mp hkey
  apply List.mem_append_left
  apply List.mem_append_right
  rw [List.mem_flatMap]
  exact ⟨i, List.mem_range.mpr hi, List.mem_map.mpr ⟨sensor, hsensor, rfl⟩⟩

theorem daemon_mem_announced (n_inverters : Nat) {sensor : Sensor} (hsensor : sensor ∈ META_SENSORS) :
    .daemon ((Text.after "_meta/" sensor.key).getD sensor.key) ∈ announced n_inverters :=
  List.mem_append_right _ (List.mem_map.mpr ⟨sensor, hsensor, rfl⟩)

theorem announced_proper {n_inverters : Nat} {k : SensorKey} (hk : k ∈ announced n_inverters) :
    k.Proper := by
  simp only [announced, List.mem_append, List.mem_map, List.mem_flatMap] at hk
  obtain (⟨sensor, hsensor, rfl⟩ | ⟨i, -, sensor, -, rfl⟩) | ⟨sensor, -, rfl⟩ := hk
  · rw [← List.mem_append] at hsensor
    revert sensor
    decide +kernel
  · trivial
  · trivial

/-- No sensor is announced twice. -/
theorem announced_nodup (n_inverters : Nat) : (announced n_inverters).Nodup := by
  have hsite : ((AGGREGATE_SENSORS ++ ENERGY_SENSORS).map Sensor.key).Nodup := by decide +kernel
  have hinverter : (PER_INVERTER_SENSORS.map Sensor.key).Nodup := by decide +kernel
  have hmeta : (META_SENSORS.map fun sensor =>
      (Text.after "_meta/" sensor.key).getD sensor.key).Nodup := by decide +kernel
  rw [announced, List.nodup_append', List.nodup_append', List.nodup_flatMap]
  refine ⟨⟨?_, ⟨fun i _ => ?_, ?_⟩, ?_⟩, ?_, ?_⟩
  · simpa only [List.map_map, Function.comp_def] using hsite.map fun _ _ => SensorKey.site.inj
  · simpa only [List.map_map, Function.comp_def] using
      hinverter.map fun _ _ heq => (SensorKey.inverter.inj heq).2
  · refine List.nodup_range.imp fun {i j} hne k hi hj => hne ?_
    obtain ⟨_, -, rfl⟩ := List.mem_map.mp hi
    obtain ⟨_, -, heq⟩ := List.mem_map.mp hj
    exact (Nat.succ_inj.mp (SensorKey.inverter.inj heq).1).symm
  · intro k hleft hright
    obtain ⟨_, -, rfl⟩ := List.mem_map.mp hleft
    simp at hright
  · simpa only [List.map_map, Function.comp_def] using hmeta.map fun _ _ => SensorKey.daemon.inj
  · intro k hleft hright
    obtain ⟨_, -, rfl⟩ := List.mem_map.mp hright
    simp at hleft

theorem meta_key_eq : ∀ sensor ∈ META_SENSORS, sensor.key =
    "_meta/" ++ (Text.after "_meta/" sensor.key).getD sensor.key := by
  decide +kernel

variable (self : MqttPublisher)

/-- What the payloads say that depends on the sensor's key only. -/
theorem map_publish_discovery {α : Type} (read : Payload → α) (of_key : String → α)
    (hread : ∀ sensor key display_name,
      read (self.publish_discovery_one sensor key display_name).payload = of_key key) :
    (self.publish_discovery.map fun message => read message.payload) =
      ((announced self.n_inverters).map fun k => of_key k.text) ++
        [read self.publish_binary_sensor_discovery.payload] := by
  have hmeta : META_SENSORS.map (fun sensor => of_key sensor.key) = META_SENSORS.map fun sensor =>
      of_key ("_meta/" ++ (Text.after "_meta/" sensor.key).getD sensor.key) := by
    apply List.map_congr_left
    exact fun sensor hsensor => congrArg of_key (meta_key_eq sensor hsensor)
  simp only [MqttPublisher.publish_discovery, announced, List.map_append, List.map_map,
    List.map_flatMap, Function.comp_def, hread, hmeta, SensorKey.text]
  rfl

theorem state_topics_eq :
    (self.publish_discovery.map fun message => message.payload.state_topic) =
      ((announced self.n_inverters).map fun k => self.state_topic k.text) ++
        [self.availability_topic] :=
  map_publish_discovery self Payload.state_topic self.state_topic fun _ _ _ => rfl

theorem unique_ids_eq :
    (self.publish_discovery.map fun message => message.payload.unique_id) =
      ((announced self.n_inverters).map fun k => k.unique_id) ++ ["inverter_bridge_online"] := by
  have hids : ((announced self.n_inverters).map fun k => key_to_unique_id k.text) =
      (announced self.n_inverters).map fun k => k.unique_id := by
    apply List.map_congr_left
    exact fun k hk => SensorKey.key_to_unique_id_text (announced_proper hk)
  rw [map_publish_discovery self Payload.unique_id key_to_unique_id fun _ _ _ => rfl, hids]
  rfl

/-- Two sensors with one state topic are the same. -/
theorem state_topic_inj {k k' : SensorKey} (hk : k.Proper) (hk' : k'.Proper)
    (heq : self.state_topic k.text = self.state_topic k'.text) : k = k' := by
  rw [MqttPublisher.state_topic, MqttPublisher.state_topic, SensorKey.key_to_topic_path_text hk,
    SensorKey.key_to_topic_path_text hk'] at heq
  apply SensorKey.path_inj
  have hlist := congrArg String.toList heq
  apply String.toList_inj.mp
  simpa [toString] using hlist

/-- The availability topic has one level less than a state topic. -/
theorem state_topic_ne_availability_topic (key : String) :
    self.state_topic key ≠ self.availability_topic := by
  intro heq
  have hlist := congrArg String.toList heq
  simp only [MqttPublisher.state_topic, MqttPublisher.availability_topic, toString,
    String.toList_append, List.append_assoc, List.append_cancel_left_eq] at hlist
  have hslashes := congrArg (List.count '/') hlist
  simp at hslashes

/-- A sensor's unique id is not that of the online sensor. -/
theorem unique_id_ne_online (k : SensorKey) : k.unique_id ≠ "inverter_bridge_online" := by
  intro heq
  have hlist := congrArg String.toList heq
  cases k with
  | site name => simp [SensorKey.unique_id, toString] at hlist
  | inverter i name =>
    rw [SensorKey.unique_id, Text.toList_numbered] at hlist
    have hnumber : Nat.toDigits 10 i ++ '_' :: name.toList =
        "bridge".toList ++ '_' :: "online".toList := by
      simpa using hlist
    have hb : 'b' ∈ Nat.toDigits 10 i := by
      rw [(Text.append_cons_inj Nat.underscore_not_in_toDigits (by decide) hnumber).1]
      decide
    cases Nat.isDigit_of_mem_toDigits (by omega) (by omega) hb
  | daemon name => simp [SensorKey.unique_id] at hlist

theorem state_topics_nodup :
    (self.publish_discovery.map fun message => message.payload.state_topic).Nodup := by
  rw [state_topics_eq, List.nodup_append']
  refine ⟨(announced_nodup _).map_on fun k hk k' hk' => ?_, List.nodup_singleton _, ?_⟩
  · exact state_topic_inj self (announced_proper hk) (announced_proper hk')
  · intro topic hleft hright
    obtain ⟨k, -, rfl⟩ := List.mem_map.mp hleft
    exact state_topic_ne_availability_topic self k.text (List.mem_singleton.mp hright)

theorem unique_ids_nodup :
    (self.publish_discovery.map fun message => message.payload.unique_id).Nodup := by
  rw [unique_ids_eq, List.nodup_append']
  refine ⟨(announced_nodup _).map fun _ _ => SensorKey.unique_id_inj, List.nodup_singleton _, ?_⟩
  intro unique hleft hright
  obtain ⟨k, -, rfl⟩ := List.mem_map.mp hleft
  exact unique_id_ne_online k (List.mem_singleton.mp hright)

/-! ## What is published -/

theorem present_readings_subset (keys : List String) (block : Option parsers.ParsedBlock) :
    (present_readings keys block).map Prod.fst ⊆ keys :=
  fun _ hkey => (mem_present_readings hkey).1

/-- Every key emitted for an inverter is in the table of its sensors. -/
theorem emitted_keys_subset (inv : Blocks) :
    emitted_keys inv ⊆ PER_INVERTER_SENSORS.map Sensor.key := by
  have hcold : daily_keys ⊆ PER_INVERTER_SENSORS.map Sensor.key ∧
      history_keys ⊆ PER_INVERTER_SENSORS.map Sensor.key ∧
      diag_keys ⊆ PER_INVERTER_SENSORS.map Sensor.key := by decide +kernel
  simp only [emitted_keys, cold_keys, List.map_append, List.append_subset]
  refine ⟨⟨⟨?_, ?_⟩, ?_⟩, ⟨⟨?_, ?_⟩, ?_⟩, ?_⟩
  · unfold battery_keys
    split_ifs
    · decide +kernel
    · decide +kernel
  · unfold state_keys
    split_ifs
    all_goals decide +kernel
  · decide +kernel
  · exact List.Subset.trans (present_readings_subset _ _) hcold.1
  · exact List.Subset.trans (present_readings_subset _ _) hcold.2.1
  · exact List.Subset.trans (present_readings_subset _ _) hcold.2.2
  · split_ifs
    · decide +kernel
    · decide +kernel

/-- Every key emitted for the site is in the table of the aggregate sensors. -/
theorem site_keys_subset {per_inverter : List Blocks} {out : Out}
    (stages : Stages per_inverter out) :
    stages.site_keys ⊆ AGGREGATE_SENSORS.map Sensor.key := by
  simp only [Stages.site_keys, List.map_append, List.append_subset]
  have hbattery : ["battery_state_of_charge", "battery_voltage", "battery_power"] ⊆
      AGGREGATE_SENSORS.map Sensor.key := by decide +kernel
  have hload : ["load_power", "mode"] ⊆ AGGREGATE_SENSORS.map Sensor.key := by decide +kernel
  have hgrid : ["grid_voltage", "grid_frequency", "grid_power", "bus_voltage"] ⊆
      AGGREGATE_SENSORS.map Sensor.key := by decide +kernel
  have hpv : "pv_power" ∈ AGGREGATE_SENSORS.map Sensor.key := by decide +kernel
  have hdaily : daily_keys ⊆ AGGREGATE_SENSORS.map Sensor.key := by decide +kernel
  refine ⟨⟨⟨⟨?_, ?_⟩, ?_⟩, ?_⟩, ?_⟩
  · exact fun key hkey => hbattery (keys_battery_totals hkey).2
  · exact fun key hkey => hload (keys_load_totals hkey).2
  · exact fun key hkey => hgrid (keys_grid_totals stages.grid_eq hkey).2
  · exact fun key hkey => (keys_pv_totals hkey).2 ▸ hpv
  · exact fun key hkey => hdaily (stages.exists_daily_stats (keys_daily_totals.mp hkey)).1

/-- Every key the daemon publishes is that of an announced sensor. -/
theorem exists_announced {N : Nat} {w : World N} {key : String} (hkey : Publishes w key) :
    ∃ k ∈ announced N, k.text = key := by
  cases hkey with
  | @status _ _ _ i hpoll hi =>
    exact ⟨.inverter (i + 1) "status", inverter_mem_announced hi (by decide +kernel), rfl⟩
  | @value _ _ result _ _ hpoll hout hmem =>
    obtain ⟨stages⟩ := Stages.of_ok hout
    rw [stages.mem_iff] at hmem
    obtain ⟨j, inv, hinv, key, hkey, rfl⟩ | hsitekey := hmem
    · have hj : j < N := by
        rw [← result.length_per_inverter]
        exact (List.getElem?_eq_some_iff.mp hinv).1
      exact ⟨.inverter (j + 1) key, inverter_mem_announced hj (emitted_keys_subset inv hkey),
        by rw [Nat.add_comm 1 j]; rfl⟩
    · refine ⟨.site key, site_mem_announced N ?_, rfl⟩
      rw [List.map_append]
      exact List.mem_append_left _ (site_keys_subset stages hsitekey)
  | energy wh_key =>
    refine ⟨.site (WH_TO_KWH_KEY wh_key), site_mem_announced N ?_, rfl⟩
    cases wh_key <;> decide +kernel
  | diagnostic hmem =>
    have hsensors : ∀ key ∈ ["_meta/poll_duration_ms", "_meta/poll_duration_per_inverter_ms",
        "_meta/crc_fails_total", "_meta/uptime_s"], key ∈ META_SENSORS.map Sensor.key := by
      decide +kernel
    obtain ⟨sensor, hsensor, rfl⟩ := List.mem_map.mp (hsensors key hmem)
    exact ⟨_, daemon_mem_announced N hsensor, (meta_key_eq sensor hsensor).symm⟩

/-- Every topic the daemon publishes to was announced, once: in any run with `N` inverters,
whatever their polls return. All announced unique ids are distinct, and only one key is
published to a topic. -/
theorem published_topics_announced_once {N : Nat} (env : Environment) (cfg : MqttCfg)
    (loop : MainLoop) (w : World N) (integrator : EnergyIntegrator) (n : Nat) :
    let publisher := MqttPublisher.of_config env cfg N
    let trace := (loop.after w integrator n).trace
    (∀ key value, .published key value ∈ trace →
        (publisher.publish_discovery.map fun message => message.payload.state_topic).count
          (publisher.state_topic key) = 1) ∧
      (publisher.publish_discovery.map fun message => message.payload.unique_id).Nodup ∧
      ∀ key value key' value', .published key value ∈ trace → .published key' value' ∈ trace →
        publisher.state_topic key = publisher.state_topic key' → key = key' := by
  intro publisher trace
  have hannounced : ∀ key value, .published key value ∈ trace →
      ∃ k ∈ announced N, k.text = key :=
    fun key value hmem => exists_announced (loop.explained_of_mem_trace hmem)
  refine ⟨fun key value hmem => ?_, unique_ids_nodup publisher, ?_⟩
  · obtain ⟨k, hk, rfl⟩ := hannounced key value hmem
    apply List.count_eq_one_of_mem (state_topics_nodup publisher)
    rw [state_topics_eq]
    exact List.mem_append_left _ (List.mem_map.mpr ⟨k, hk, rfl⟩)
  · intro key value key' value' hmem hmem' heq
    obtain ⟨k, hk, rfl⟩ := hannounced key value hmem
    obtain ⟨k', hk', rfl⟩ := hannounced key' value' hmem'
    rw [state_topic_inj publisher (announced_proper hk) (announced_proper hk') heq]

end inverter_bridge.mqtt_publisher
