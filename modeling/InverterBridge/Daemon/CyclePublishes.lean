import InverterBridge.Daemon.Effects

/-! What a cycle of the main loop aggregates gets published, when nothing raises. -/

open Python Std.Do
open inverter_bridge.srne_map inverter_bridge.aggregator inverter_bridge.energy_integrator

namespace inverter_bridge.daemon

section

variable {N : Nat} {w : World N} {key : String} {value : Scalar}

theorem mem_entries_of_lookup {values : Dict String Scalar} (h : values.lookup key = some value) :
    (key, value) ∈ values.entries.map fun entry => (entry.1, entry.2) :=
  List.mem_map.mpr ⟨_, AList.mem_lookup_iff.mp h, rfl⟩

/-- The value is published, or still due. -/
def DueOrPublished (key : String) (value : Scalar) (due : Prop) (s : LoopState) : Prop :=
  due ∨ .published key value ∈ s.trace

theorem published_of_not_due {s : LoopState} (h : DueOrPublished key value False s) :
    .published key value ∈ s.trace := h.resolve_left id

variable (key value)

theorem client_publish_due (due : Prop) :
    ⦃fun s => ⌜DueOrPublished key value due s⌝⦄ client_publish w
    ⦃post⟨fun _ s => ⌜DueOrPublished key value due s⌝, fun _ _ => ⌜True⌝⟩⦄ := by
  mvcgen [client_publish]

theorem monotonic_due (due : Prop) :
    ⦃fun s => ⌜DueOrPublished key value due s⌝⦄ monotonic w
    ⦃post⟨fun _ s => ⌜DueOrPublished key value due s⌝, fun _ _ => ⌜True⌝⟩⦄ := by
  mvcgen [monotonic]

theorem publish_value_due (due : Prop) (k : String) (v : Scalar) :
    ⦃fun s => ⌜DueOrPublished key value ((k, v) = (key, value) ∨ due) s⌝⦄ publish_value w k v
    ⦃post⟨fun _ s => ⌜DueOrPublished key value due s⌝, fun _ _ => ⌜True⌝⟩⦄ := by
  have hclient := @client_publish_due N w key value due
  mvcgen [publish_value, hclient]
  case vc1 h _ =>
    obtain (heq | hdue) | hmem := h
    · cases heq
      exact .inr (List.mem_append_right _ List.mem_cons_self)
    · exact .inl hdue
    · exact .inr (List.mem_append_left _ hmem)

theorem publish_values_nil : publish_values w [] = pure () := rfl

theorem publish_values_cons (entry : String × Scalar) (kv : List (String × Scalar)) :
    publish_values w (entry :: kv) =
      publish_value w entry.1 entry.2 >>= fun _ => publish_values w kv := by
  simp [publish_values]

theorem publish_values_due (due : Prop) (kv : List (String × Scalar)) :
    ⦃fun s => ⌜DueOrPublished key value ((key, value) ∈ kv ∨ due) s⌝⦄ publish_values w kv
    ⦃post⟨fun _ s => ⌜DueOrPublished key value due s⌝, fun _ _ => ⌜True⌝⟩⦄ := by
  induction kv with
  | nil =>
    rw [publish_values_nil]
    mvcgen
    case vc1 h => simpa [DueOrPublished] using h
  | cons entry kv ih =>
    have hvalue := @publish_value_due N w key value ((key, value) ∈ kv ∨ due) entry.1 entry.2
    rw [publish_values_cons]
    mvcgen [hvalue, ih]
    case pre h => simpa [DueOrPublished, or_assoc, eq_comm] using h

theorem publish_meta_due (due : Prop) (self : MainLoop) (cycle_start : ℚ)
    (durations_json : String) :
    ⦃fun s => ⌜DueOrPublished key value due s⌝⦄ self.publish_meta w cycle_start durations_json
    ⦃post⟨fun _ s => ⌜DueOrPublished key value due s⌝, fun _ _ => ⌜True⌝⟩⦄ := by
  have hclock := @monotonic_due N w key value due
  have hvalue := @publish_value_due N w key value due
  mvcgen [MainLoop.publish_meta, hclock, hvalue]
  all_goals exact Or.imp_left Or.inr ‹_›

/-- What is aggregated comes through the integration, where it is no energy. -/
theorem integrate_lookup {out : Out} (hkey : key ∉ WH_KEYS.map WH_TO_KWH_KEY)
    (hlookup : (readings out).lookup key = some value) :
    ⦃fun _ => ⌜True⌝⦄ integrate w (readings out)
    ⦃post⟨fun aggregated _ => ⌜aggregated.lookup key = some value⌝, fun _ _ => ⌜True⌝⟩⦄ := by
  mvcgen [integrate, monotonic, integrator_update, builtin]
  case vc1 hupdate _ =>
    cases (EnergyIntegrator.update_eq _ (listed_readings out _)).symm.trans hupdate
    rw [← hlookup]
    exact Dict.lookup_assign_of_not_mem hkey

/-- The poll is the next one. -/
theorem poll_all_parallel_next (tier : BlockTier) (p : Nat) :
    ⦃fun s => ⌜s.polls = p⌝⦄ poll_all_parallel w tier
    ⦃post⟨fun result _ => ⌜w.poll p tier = .ok result⌝, fun _ _ => ⌜True⌝⟩⦄ := by
  have hvalue (k : String) (v : Scalar) : ⦃fun _ => ⌜True⌝⦄ publish_value w k v
      ⦃post⟨fun _ _ => ⌜True⌝, fun _ _ => ⌜True⌝⟩⦄ := by
    mvcgen [publish_value, client_publish]
  mvcgen [poll_all_parallel, hvalue] invariants
  · post⟨fun _ _ => ⌜True⌝, fun _ _ => ⌜True⌝⟩
  case success h _ hpoll _ _ _ => exact h ▸ hpoll

variable {key value}

/-- A hot cycle that raises nothing publishes what it aggregates of its poll. -/
theorem run_one_hot_cycle_publishes (self : MainLoop) {p : Nat} {result : PollResult N} {out : Out}
    (hpoll : w.poll p .HOT = .ok result) (hout : aggregate_inverters result.per_inverter = .ok out)
    (hkey : key ∉ WH_KEYS.map WH_TO_KWH_KEY) (hlookup : (readings out).lookup key = some value) :
    ⦃fun s => ⌜s.polls = p⌝⦄ self.run_one_hot_cycle w
    ⦃post⟨fun _ s => ⌜.published key value ∈ s.trace⌝, fun _ _ => ⌜True⌝⟩⦄ := by
  have hclock : ⦃fun s => ⌜s.polls = p⌝⦄ monotonic w
      ⦃post⟨fun _ s => ⌜s.polls = p⌝, fun _ _ => ⌜True⌝⟩⦄ := by
    mvcgen [monotonic]
  have hnext := @poll_all_parallel_next N w .HOT p
  have hintegrate := @integrate_lookup N w key value
  have hvalues := @publish_values_due N w key value False
  have hclient := @client_publish_due N w key value False
  have hmeta := @publish_meta_due N w key value False
  mvcgen [MainLoop.run_one_hot_cycle, hclock, hnext, hintegrate, hvalues, hclient, hmeta, builtin]
  case hlookup hnew _ hresult =>
    cases hpoll.symm.trans hnew
    cases hout.symm.trans hresult
    exact hlookup
  case h_1.success.pre haggregated => exact .inl (.inl (mem_entries_of_lookup haggregated))
  all_goals exact published_of_not_due

/-- A cold cycle that raises nothing publishes what it aggregates of its poll. -/
theorem run_one_cold_cycle_publishes {p : Nat} {result : PollResult N} {out : Out}
    (hpoll : w.poll p .COLD = .ok result) (hout : aggregate_inverters result.per_inverter = .ok out)
    (hlookup : (readings out).lookup key = some value) :
    ⦃fun s => ⌜s.polls = p⌝⦄ run_one_cold_cycle w
    ⦃post⟨fun _ s => ⌜.published key value ∈ s.trace⌝, fun _ _ => ⌜True⌝⟩⦄ := by
  have hnext := @poll_all_parallel_next N w .COLD p
  have hvalues := @publish_values_due N w key value False
  mvcgen [run_one_cold_cycle, hnext, hvalues, save_energy_state, builtin]
  case isTrue.pre hnew _ hresult _ _ _ =>
    cases hpoll.symm.trans hnew
    cases hout.symm.trans hresult
    exact .inl (.inl (mem_entries_of_lookup hlookup))
  case isTrue.post.success h _ => exact List.mem_append_left _ (published_of_not_due h)
  case isFalse hnew _ hresult _ _ hempty _ =>
    cases hpoll.symm.trans hnew
    cases hout.symm.trans hresult
    have hnone : (readings out).entries = [] := by simpa using hempty
    have hmem := AList.mem_lookup_iff.mp hlookup
    rw [hnone] at hmem
    cases hmem

/-- The cycle the main loop runs for a tier. -/
def MainLoop.cycle_of (self : MainLoop) (w : World N) : BlockTier → Program Unit
  | .HOT => self.run_one_hot_cycle w
  | .COLD => run_one_cold_cycle w

theorem MainLoop.published_of_cycle (self : MainLoop) {tier : BlockTier} {s s' : LoopState}
    {result : PollResult N} {out : Out} (hpoll : w.poll s.polls tier = .ok result)
    (hout : aggregate_inverters result.per_inverter = .ok out)
    (hkey : key ∉ WH_KEYS.map WH_TO_KWH_KEY) (hlookup : (readings out).lookup key = some value)
    (hcycle : (self.cycle_of w tier).run.run s = (.ok (), s')) :
    .published key value ∈ s'.trace := by
  cases tier with
  | HOT =>
    have houtcome := outcome_of_spec
      (run_one_hot_cycle_publishes self hpoll hout hkey hlookup) (s := s) rfl
    change (self.run_one_hot_cycle w).run.run s = (.ok (), s') at hcycle
    rwa [hcycle] at houtcome
  | COLD =>
    have houtcome := outcome_of_spec
      (run_one_cold_cycle_publishes hpoll hout hlookup) (s := s) rfl
    change (run_one_cold_cycle w).run.run s = (.ok (), s') at hcycle
    rwa [hcycle] at houtcome

/-- Where nothing raises, a cycle comes to its end. -/
theorem MainLoop.cycle_of_ok (self : MainLoop) (hquiet : ∀ e, ¬ w.Raises e) (tier : BlockTier)
    (s : LoopState) : ∃ s', (self.cycle_of w tier).run.run s = (.ok (), s') := by
  have hspec : ⦃fun s' => ⌜Ran w s s'⌝⦄ self.cycle_of w tier
      ⦃post⟨fun _ s' => ⌜Ran w s s'⌝, fun e s' => ⌜Ran w s s' ∧ w.Raises e⌝⟩⦄ := by
    cases tier with
    | HOT => exact run_one_hot_cycle_spec s self
    | COLD => exact run_one_cold_cycle_spec s
  have houtcome := outcome_of_spec hspec Relation.ReflTransGen.refl
  cases hresult : (self.cycle_of w tier).run.run s with
  | mk r s' =>
    rw [hresult] at houtcome
    cases r with
    | ok _ => exact ⟨s', rfl⟩
    | error e => exact absurd houtcome.2 (hquiet e)

end

end inverter_bridge.daemon
