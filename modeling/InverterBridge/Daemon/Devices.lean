import InverterBridge.Daemon.Invariant

open Python TransitionSystem
open inverter_bridge.config inverter_bridge.srne_map inverter_bridge.aggregator

namespace inverter_bridge.daemon

variable {κ δ : Type} [DecidableEq κ] {d : Daemon κ δ} {s s' : State κ}

/-- The device of the port a task polls through, `self.ports[inv.name]`. -/
def Daemon.device_of (d : Daemon κ δ) (task : Task) : Option δ :=
  d.inverters[task.pos]?.bind fun inv => d.ports.lookup inv.name

/-- At no time are two polls in progress on one device, and every poll goes through
the device configured for its inverter. -/
def OneDeviceEach (d : Daemon κ δ) : Prop :=
  ∀ s : State κ, Reachable (step d) init s →
    (∀ (t u : Nat) (task other : Task), s.tasks[t]? = some task → s.tasks[u]? = some other →
      task.phase.busy = true → other.phase.busy = true →
      d.device_of task = d.device_of other → t = u) ∧
    ∀ task ∈ s.tasks, task.phase.busy = true →
      ∃ inv, d.inverters[task.pos]? = some inv ∧ d.device_of task = some inv.port

/-- Inverters share a name exactly when they share a port. -/
def NamesMatchPorts (d : Daemon κ δ) : Prop :=
  ∀ a ∈ d.inverters, ∀ b ∈ d.inverters, a.name = b.name ↔ a.port = b.port

/-- The port of an inverter's name is that of some inverter of this name. -/
theorem exists_port {inv : InverterCfg κ δ} (hinv : inv ∈ d.inverters) :
    ∃ other ∈ d.inverters, other.name = inv.name ∧ d.ports.lookup inv.name = some other.port := by
  have hmem : inv.name ∈ (d.inverters.map fun inv => (inv.name, inv.port)).map Prod.fst := by
    rw [List.map_map]
    exact List.mem_map.mpr ⟨inv, hinv, rfl⟩
  obtain ⟨port, hport, hlookup⟩ := Dict.exists_lookup_assign (d := ∅) hmem
  obtain ⟨other, hother, heq⟩ := List.mem_map.mp hport
  rw [Prod.mk.injEq] at heq
  exact ⟨other, hother, heq.1, by rw [heq.2]; exact hlookup⟩

theorem device_of_eq {task : Task} {inv : InverterCfg κ δ}
    (hinv : d.inverters[task.pos]? = some inv) : d.device_of task = d.ports.lookup inv.name := by
  rw [Daemon.device_of, hinv, Option.bind_some]

theorem lookup_port (hmatch : NamesMatchPorts d) {inv : InverterCfg κ δ}
    (hinv : inv ∈ d.inverters) : d.ports.lookup inv.name = some inv.port := by
  obtain ⟨other, hother, hname, hlookup⟩ := exists_port hinv
  rw [hlookup, (hmatch other hother inv hinv).mp hname]

theorem not_finished_of_busy {phase : Phase} (hbusy : phase.busy = true) :
    phase.finished = false := by
  cases phase with
  | queued | done | crashed => cases hbusy
  | running | settled => rfl

/-- When names and ports match, the one poll of a name is the one poll of a device. -/
theorem oneDeviceEach_of_namesMatchPorts (hmatch : NamesMatchPorts d) : OneDeviceEach d := by
  intro s hreach
  have hflight := singleFlight_of_reachable hreach
  constructor
  · intro t u task other htask hother hbusy hbusy' hdevice
    obtain ⟨inv, hinv, hlatest⟩ := hflight.latest t task htask (not_finished_of_busy hbusy)
    obtain ⟨inv', hinv', hlatest'⟩ := hflight.latest u other hother (not_finished_of_busy hbusy')
    have hmem := List.mem_of_getElem? hinv
    have hmem' := List.mem_of_getElem? hinv'
    rw [device_of_eq hinv, device_of_eq hinv', lookup_port hmatch hmem, lookup_port hmatch hmem',
      Option.some.injEq] at hdevice
    have hname : inv.name = inv'.name := (hmatch inv hmem inv' hmem').mpr hdevice
    rw [hname, hlatest', Option.some.injEq] at hlatest
    exact hlatest.symm
  · intro task htask hbusy
    obtain ⟨t, ht⟩ := List.mem_iff_getElem?.mp htask
    obtain ⟨inv, hinv, -⟩ := hflight.latest t task ht (not_finished_of_busy hbusy)
    exact ⟨inv, hinv, by rw [device_of_eq hinv, lookup_port hmatch (List.mem_of_getElem? hinv)]⟩

/-! ## First cycles that start every poll -/

/-- A first hot cycle that has asked `k` inverters, with at most that many polls and
none of them waiting for a worker. -/
structure FirstCycle (k : Nat) (s : State κ) : Prop where
  pc : ∃ futures, s.pc = .submitting .HOT k futures
  length_le : s.tasks.length ≤ k
  started : ∀ task ∈ s.tasks, task.phase.is_queued = false

theorem exists_firstCycle (d : Daemon κ δ) :
    ∃ s, Reachable (step d) init s ∧ FirstCycle 0 s ∧ s.tasks = [] :=
  ⟨_, Reachable.refl.tail (step_eq_some_iff.mpr (.begin rfl)),
    ⟨⟨_, rfl⟩, Nat.le_refl _, nofun⟩, rfl⟩

/-- The next inverter's poll is submitted, and a worker starts it at once. -/
theorem FirstCycle.submit_start {k : Nat} (h : FirstCycle k s) {inv : InverterCfg κ δ}
    (hinv : d.inverters[k]? = some inv)
    (hrunning : s.still_running (s.inflight inv.name) = false) :
    ∃ s' task, Reachable (step d) s s' ∧ FirstCycle (k + 1) s' ∧ s'.tasks = s.tasks ++ [task] ∧
      task.pos = k ∧ task.phase = .running ∧
      s'.inflight = Function.update s.inflight inv.name (some s.tasks.length) := by
  obtain ⟨futures, hpc⟩ := h.pc
  have hlt : k < d.inverters.length := (List.getElem?_eq_some_iff.mp hinv).1
  let queued : Task := ⟨k, .HOT, s.log.length, .queued⟩
  let submitted : State κ := { s with
    tasks := s.tasks ++ [queued]
    inflight := Function.update s.inflight inv.name (some s.tasks.length)
    pc := .submitting .HOT (k + 1) (futures ++ [(k, s.tasks.length)]) }
  have hsubmit : Transition d s .submit submitted := .submit hpc hinv hrunning
  have hworker : submitted.tasks.countP (fun task => task.phase.busy) < d.max_workers := by
    have hle : s.tasks.countP (fun task => task.phase.busy) ≤ s.tasks.length :=
      List.countP_le_length
    have hlength := h.length_le
    have hzero : [queued].countP (fun task => task.phase.busy) = 0 := rfl
    rw [List.countP_append, hzero, Daemon.max_workers]
    omega
  have hfirst : submitted.tasks.findIdx? (fun task => task.phase.is_queued)
      = some s.tasks.length := by
    have hnone : s.tasks.findIdx? (fun task => task.phase.is_queued) = none :=
      List.findIdx?_eq_none_iff.mpr h.started
    rw [List.findIdx?_append, hnone]
    simp [queued, Phase.is_queued]
  have hstart := Transition.start hworker hfirst List.getElem?_concat_length
  refine ⟨submitted.set_phase s.tasks.length queued .running, { queued with phase := .running },
    (Reachable.refl.tail (step_eq_some_iff.mpr hsubmit)).tail (step_eq_some_iff.mpr hstart),
    ⟨⟨_, rfl⟩, ?_, ?_⟩, ?_, rfl, rfl, rfl⟩
  all_goals
    have htasks : (submitted.set_phase s.tasks.length queued .running).tasks
        = s.tasks ++ [{ queued with phase := .running }] := by
      simp [State.set_phase, submitted]
  · have hlength := h.length_le
    rw [htasks, List.length_append, List.length_singleton]
    omega
  · rw [htasks]
    intro task htask
    cases List.mem_append.mp htask with
    | inl hold => exact h.started task hold
    | inr hnew => rw [List.mem_singleton.mp hnew]; rfl
  · exact htasks

/-- An inverter whose last poll still runs is passed over. -/
theorem FirstCycle.pass {k : Nat} (h : FirstCycle k s) {inv : InverterCfg κ δ}
    (hinv : d.inverters[k]? = some inv)
    (hrunning : s.still_running (s.inflight inv.name) = true) :
    ∃ s', Reachable (step d) s s' ∧ FirstCycle (k + 1) s' ∧ s'.tasks = s.tasks ∧
      s'.inflight = s.inflight := by
  obtain ⟨futures, hpc⟩ := h.pc
  have hskip := Transition.skip hpc hinv hrunning
  have hcount := Transition.count_skip (s := { s with pc := .skipping .HOT k futures }) rfl hinv
  exact ⟨_, (Reachable.refl.tail (step_eq_some_iff.mpr hskip)).tail (step_eq_some_iff.mpr hcount),
    ⟨⟨_, rfl⟩, Nat.le_succ_of_le h.length_le, h.started⟩, rfl, rfl⟩

/-- A running poll hears no answer and ends. -/
theorem exists_done {t : Nat} {task : Task} {inv : InverterCfg κ δ}
    (htask : s.tasks[t]? = some task) (hphase : task.phase = .running)
    (hinv : d.inverters[task.pos]? = some inv) :
    ∃ s' out, Reachable (step d) s s' ∧ s'.pc = s.pc ∧ s'.inflight = s.inflight ∧
      s'.tasks = s.tasks.set t { task with phase := .done out } := by
  have hlt : t < s.tasks.length := (List.getElem?_eq_some_iff.mp htask).1
  let sessions : Block → Nat → Session := fun _ _ => .raised true
  let run := poll_inverter inv.slave d.retry_attempts task.tier sessions
  let settled : State κ := { s.set_phase t task (.settled run.out) with
    fail_count := Function.update s.fail_count inv.name
      (if run.any_success then 0 else s.fail_count inv.name + 1) }
  have hsettle : Transition d s (.settle t sessions) settled := .settle htask hphase hinv
  have hsettled : settled.tasks[t]? = some { task with phase := .settled run.out } := by
    simp [settled, State.set_phase, hlt]
  have hfinish := Transition.finish (d := d) hsettled rfl
  refine ⟨_, run.out, (Reachable.refl.tail (step_eq_some_iff.mpr hsettle)).tail
    (step_eq_some_iff.mpr hfinish), rfl, rfl, ?_⟩
  simp [settled, State.set_phase]

/-- The inverters before position `k` are polled one after the other, and no poll is
left in progress. -/
theorem exists_firstCycle_finished (d : Daemon κ δ) {k : Nat} (hk : k ≤ d.inverters.length) :
    ∃ s, Reachable (step d) init s ∧ FirstCycle k s ∧
      ∀ task ∈ s.tasks, task.phase.finished = true := by
  induction k with
  | zero =>
    obtain ⟨s, hreach, h, hnil⟩ := exists_firstCycle d
    exact ⟨s, hreach, h, by rw [hnil]; nofun⟩
  | succ k ih =>
    obtain ⟨s, hreach, h, hfinished⟩ := ih (Nat.le_of_succ_le hk)
    have hinv := List.getElem?_eq_getElem (Nat.lt_of_succ_le hk)
    obtain ⟨started, task, hstarted, hcycle, htasks, hpos, hphase, -⟩ :=
      h.submit_start hinv (not_still_running_of_finished hfinished _)
    obtain ⟨s', out, hs', hpc, -, htasks'⟩ := exists_done (d := d) (t := s.tasks.length)
      (by rw [htasks, List.getElem?_concat_length]) hphase (by rw [hpos, hinv])
    have hlist : s'.tasks = s.tasks ++ [{ task with phase := .done out }] := by
      rw [htasks', htasks]
      simp
    have hall : ∀ other ∈ s'.tasks, other.phase.finished = true := by
      rw [hlist]
      intro other hother
      cases List.mem_append.mp hother with
      | inl hold => exact hfinished other hold
      | inr hnew => rw [List.mem_singleton.mp hnew]; rfl
    refine ⟨s', (hreach.trans hstarted).trans hs', ⟨?_, ?_, fun other hother => ?_⟩, hall⟩
    · rw [hpc]
      exact hcycle.pc
    · rw [htasks', List.length_set]
      exact hcycle.length_le
    · have hdone := hall other hother
      cases hphase : other.phase with
      | queued => rw [hphase] at hdone; cases hdone
      | _ => rfl

/-- All polls of a first cycle are in progress at once, one for each name asked. -/
theorem exists_firstCycle_running (d : Daemon κ δ) {k : Nat} (hk : k ≤ d.inverters.length) :
    ∃ s, Reachable (step d) init s ∧ FirstCycle k s ∧
      (∀ task ∈ s.tasks, task.phase = .running) ∧
      ∀ i < k, ∀ inv, d.inverters[i]? = some inv → ∃ t, s.inflight inv.name = some t := by
  induction k with
  | zero =>
    obtain ⟨s, hreach, h, hnil⟩ := exists_firstCycle d
    exact ⟨s, hreach, h, by rw [hnil]; nofun, nofun⟩
  | succ k ih =>
    obtain ⟨s, hreach, h, hall, hasked⟩ := ih (Nat.le_of_succ_le hk)
    have hinv := List.getElem?_eq_getElem (Nat.lt_of_succ_le hk)
    cases hrunning : s.still_running (s.inflight (d.inverters[k]).name) with
    | true =>
      obtain ⟨s', hs', hcycle, htasks, hinflight⟩ := h.pass hinv hrunning
      refine ⟨s', hreach.trans hs', hcycle, by rwa [htasks], fun i hi inv hget => ?_⟩
      rw [hinflight]
      cases Nat.lt_succ_iff_lt_or_eq.mp hi with
      | inl hlt => exact hasked i hlt inv hget
      | inr heq =>
        rw [heq, hinv, Option.some.injEq] at hget
        cases hprev : s.inflight inv.name with
        | none =>
          rw [hget, hprev] at hrunning
          cases hrunning
        | some t => exact ⟨t, rfl⟩
    | false =>
      obtain ⟨s', task, hs', hcycle, htasks, -, hphase, hinflight⟩ := h.submit_start hinv hrunning
      refine ⟨s', hreach.trans hs', hcycle, ?_, fun i hi inv hget => ?_⟩
      · rw [htasks]
        intro other hother
        cases List.mem_append.mp hother with
        | inl hold => exact hall other hold
        | inr hnew => rw [List.mem_singleton.mp hnew, hphase]
      · rw [hinflight]
        by_cases hname : inv.name = (d.inverters[k]).name
        · exact ⟨s.tasks.length, by rw [hname, Function.update_self]⟩
        · rw [Function.update_of_ne hname]
          cases Nat.lt_succ_iff_lt_or_eq.mp hi with
          | inl hlt => exact hasked i hlt inv hget
          | inr heq =>
            rw [heq, hinv, Option.some.injEq] at hget
            exact absurd (hget ▸ rfl) hname

/-! ## When every inverter has its device -/

/-- The port kept for a name is the port of each of its inverters. -/
theorem OneDeviceEach.lookup_port (h : OneDeviceEach d) {inv : InverterCfg κ δ}
    (hinv : inv ∈ d.inverters) : d.ports.lookup inv.name = some inv.port := by
  obtain ⟨p, hp⟩ := List.mem_iff_getElem?.mp hinv
  have hlt : p < d.inverters.length := (List.getElem?_eq_some_iff.mp hp).1
  obtain ⟨s, hreach, hcycle, hfinished⟩ := exists_firstCycle_finished d (Nat.le_of_lt hlt)
  obtain ⟨s', task, hs', -, htasks, hpos, hphase, -⟩ :=
    hcycle.submit_start hp (not_still_running_of_finished hfinished _)
  obtain ⟨inv', hinv', hdevice⟩ := (h s' (hreach.trans hs')).2 task (by simp [htasks])
    (by rw [hphase]; rfl)
  rw [hpos, hp, Option.some.injEq] at hinv'
  rw [← device_of_eq (hpos ▸ hp), hdevice, hinv']

/-- The daemon keeps every inverter on its own device exactly when names and ports
identify the same inverters. -/
theorem oneDeviceEach_iff : OneDeviceEach d ↔ NamesMatchPorts d := by
  refine ⟨fun h a ha b hb => ⟨fun hname => ?_, fun hport => ?_⟩, oneDeviceEach_of_namesMatchPorts⟩
  · have hlookup := h.lookup_port ha
    rw [hname, h.lookup_port hb, Option.some.injEq] at hlookup
    exact hlookup.symm
  · obtain ⟨s, hreach, -, hrunning, hasked⟩ := exists_firstCycle_running d (Nat.le_refl _)
    have hflight := singleFlight_of_reachable hreach
    have hpoll : ∀ inv ∈ d.inverters, ∃ t task, s.inflight inv.name = some t ∧
        s.tasks[t]? = some task ∧ task.phase.busy = true ∧ d.device_of task = some inv.port := by
      intro inv hinv
      obtain ⟨i, hi⟩ := List.mem_iff_getElem?.mp hinv
      obtain ⟨t, ht⟩ := hasked i (List.getElem?_eq_some_iff.mp hi).1 inv hi
      obtain ⟨task, other, htask, hother, hname⟩ := hflight.inflight inv.name t ht
      refine ⟨t, task, ht, htask, by rw [hrunning task (List.mem_of_getElem? htask)]; rfl, ?_⟩
      rw [device_of_eq hother, hname, h.lookup_port hinv]
    obtain ⟨t, task, ht, htask, hbusy, hdevice⟩ := hpoll a ha
    obtain ⟨u, other, hu, hother, hbusy', hdevice'⟩ := hpoll b hb
    have htu : t = u := (h s hreach).1 t u task other htask hother hbusy hbusy'
      (by rw [hdevice, hdevice', hport])
    obtain ⟨task₁, inv₁, htask₁, hinv₁, hname₁⟩ := hflight.inflight a.name t ht
    obtain ⟨task₂, inv₂, htask₂, hinv₂, hname₂⟩ := hflight.inflight b.name u hu
    rw [← htu, htask₁, Option.some.injEq] at htask₂
    rw [← htask₂, hinv₁, Option.some.injEq] at hinv₂
    rw [← hname₁, ← hname₂, hinv₂]

/-! ## Daemons of loaded configurations -/

/-- The daemon has the inverters of its configuration, under the keys of their names. -/
theorem Daemon.of_config_ok {cfg : BridgeConfig} {d : Daemon Scalar PyValue}
    (hdaemon : Daemon.of_config cfg = .ok d) :
    cfg.inverters.map (fun inv => (inv.name.hash_key, inv.port)) =
      d.inverters.map fun inv => (.ok inv.name, inv.port) := by
  obtain ⟨inverters, hinverters, hd⟩ := bind_eq_ok_iff.mp hdaemon
  cases hd
  rw [← List.forall₂_eq_eq_eq, List.forall₂_map_left_iff, List.forall₂_map_right_iff]
  refine (forall₂_of_mapM_ok hinverters).imp fun inv inv' hinv => ?_
  obtain ⟨name, hname, heq⟩ := bind_eq_ok_iff.mp hinv
  cases heq
  exact Prod.ext hname rfl

/-- The condition on the names and ports of the document. -/
theorem namesMatchPorts_iff {cfg : BridgeConfig} {d : Daemon Scalar PyValue}
    (hdaemon : Daemon.of_config cfg = .ok d) :
    NamesMatchPorts d ↔ ∀ a ∈ cfg.inverters, ∀ b ∈ cfg.inverters,
      a.name.hash_key = b.name.hash_key ↔ a.port = b.port := by
  have hkeys := Daemon.of_config_ok hdaemon
  have hcfg : (∀ a ∈ cfg.inverters, ∀ b ∈ cfg.inverters,
      a.name.hash_key = b.name.hash_key ↔ a.port = b.port) ↔
      ∀ p ∈ cfg.inverters.map (fun inv => (inv.name.hash_key, inv.port)),
        ∀ q ∈ cfg.inverters.map (fun inv => (inv.name.hash_key, inv.port)),
          p.1 = q.1 ↔ p.2 = q.2 := by
    simp only [List.forall_mem_map]
  rw [hcfg, hkeys]
  simp only [List.forall_mem_map, Except.ok.injEq]
  rfl

/-- Of a configuration that the loader accepts, the daemon keeps every inverter on its
own device exactly when any two inverters have different names and different ports, or
share both. The loader tells inverters apart by their slave addresses only. -/
theorem one_device_each_iff {env : Environment} {data : PyValue} {cfg : BridgeConfig}
    {d : Daemon Scalar PyValue} (hload : load_config env data = .ok cfg)
    (hdaemon : Daemon.of_config cfg = .ok d) :
    OneDeviceEach d ↔ ∀ a ∈ cfg.inverters, ∀ b ∈ cfg.inverters, a.slave ≠ b.slave →
      (a.name.hash_key = b.name.hash_key ↔ a.port = b.port) := by
  rw [oneDeviceEach_iff, namesMatchPorts_iff hdaemon]
  refine ⟨fun h a ha b hb _ => h a ha b hb, fun h a ha b hb => ?_⟩
  by_cases hslave : a.slave = b.slave
  · rw [List.inj_on_of_nodup_map (load_config_nodup hload) ha hb hslave]
    exact ⟨fun _ => rfl, fun _ => rfl⟩
  · exact h a ha b hb hslave

/-- The port the example names twice. -/
def example_port : String :=
  "/dev/serial/by-path/platform-<example-usb-id>-usb-0:1:1.0-port0"

/-- The document of `config.example.yaml`, with the port of its second inverter. -/
def config_example (port2 : String) : PyValue :=
  let inverter (name port : String) (slave : Int) : PyValue :=
    .dict [(.str "name", text_value name), (.str "port", text_value port),
      (.str "slave", int_value slave)]
  .dict [
    (.str "inverters", .list [inverter "inv1" example_port 1, inverter "inv2" port2 2]),
    (.str "polling", .dict [
      (.str "hot_interval_s", float_value 3), (.str "cold_interval_s", float_value 60),
      (.str "serial_timeout_s", float_value (3 / 2)),
      (.str "inter_query_delay_s", float_value (1 / 20)),
      (.str "retry_attempts", int_value 3), (.str "retry_backoff_s", float_value (1 / 10))]),
    (.str "mqtt", .dict [
      (.str "host", text_value "192.0.2.10"), (.str "port", int_value 1883),
      (.str "username", text_value "inverter_bridge"),
      (.str "password_file", text_value "/etc/inverter-bridge.secrets"),
      (.str "client_id", text_value "inverter_bridge"),
      (.str "topic_prefix", text_value "gadi_inverters"),
      (.str "discovery_prefix", text_value "homeassistant"),
      (.str "retain_discovery", .scalar (.bool true)), (.str "qos", int_value 0)]),
    (.str "logging", .dict [
      (.str "level", text_value "INFO"), (.str "format", text_value "text")])]

/-- A host that has the password file. -/
def host_with_password : Environment where
  path_text path := path
  file_exists _ := true
  read_text _ := .ok "pwd"
  repr _ := ""
  text _ := ""
  decimal_digit _ := none

def inverters_example (port2 : String) : List (InverterCfg PyValue PyValue) :=
  [⟨text_value "inv1", text_value example_port, ⟨1, modbus.slave_1_admitted⟩⟩,
    ⟨text_value "inv2", text_value port2, ⟨2, modbus.slave_2_admitted⟩⟩]

/-- The daemon of the example. -/
def daemon_example (port2 : String) : Daemon Scalar PyValue where
  inverters := [⟨.str "inv1", text_value example_port, ⟨1, modbus.slave_1_admitted⟩⟩,
    ⟨.str "inv2", text_value port2, ⟨2, modbus.slave_2_admitted⟩⟩]
  retry_attempts := 3

theorem load_config_example (port2 : String) :
    ∃ cfg, load_config host_with_password (config_example port2) = .ok cfg ∧
      Daemon.of_config cfg = .ok (daemon_example port2) ∧
      cfg.inverters = inverters_example port2 :=
  ⟨_, rfl, rfl, rfl⟩

/-- With the second inverter on a port of its own, the two are polled apart. -/
theorem one_device_each_two_ports : OneDeviceEach (daemon_example "/dev/ttyUSB1") := by
  obtain ⟨cfg, hload, hdaemon, hinverters⟩ := load_config_example "/dev/ttyUSB1"
  refine (one_device_each_iff hload hdaemon).mpr ?_
  rw [hinverters]
  have hname : (text_value "inv1").hash_key ≠ (text_value "inv2").hash_key := by
    simp [text_value, PyValue.hash_key, Scalar.key]
  have hport : text_value example_port ≠ text_value "/dev/ttyUSB1" := by
    simp [text_value, example_port]
  simp [inverters_example, hname, hname.symm, hport, hport.symm]

/-- The shipped example has one port twice: the two inverters' polls share it. -/
theorem config_example_one_port :
    ¬ ∀ (env : Environment) (data : PyValue) (cfg : BridgeConfig) (d : Daemon Scalar PyValue),
      load_config env data = .ok cfg → Daemon.of_config cfg = .ok d → OneDeviceEach d := by
  intro hall
  obtain ⟨cfg, hload, hdaemon, -⟩ := load_config_example example_port
  have h := oneDeviceEach_iff.mp (hall _ _ _ _ hload hdaemon)
  have hname := (h _ (.head _) _ (.tail _ (.head _))).mpr rfl
  exact absurd (Scalar.str.inj hname) (by decide)

end inverter_bridge.daemon
