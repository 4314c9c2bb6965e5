import InverterBridge.Tools.PurgeHaZombies
import InverterBridge.Tools.WsClient

open Python RequestReply TransitionSystem tools.ws_client

/-! A session of `purge_ha_zombies.py` with the server, as it goes when answers are late or do not
come. -/

namespace tools.purge_ha_zombies

/-- The arguments, with the states that were fetched before and the canonical unique ids. -/
structure Args where
  states : List StateRecord
  domain : List String
  unavailable_min_age_s : PyFloat
  include_stale_values : Bool
  canonical_uids : Option (List Scalar)
  now : ℚ
  /-- `args.action == "apply"`. -/
  apply : Bool
  yes : Bool
  /-- What `_prompt_confirm` returns, if it is asked. -/
  confirmed : Bool

section

variable (args : Args)

def candidates_of (registry : List RegistryEntry) : List RegistryEntry :=
  select_candidates registry args.states args.domain args.unavailable_min_age_s
    args.include_stale_values args.canonical_uids args.now

/-- The candidates that `_run_async` removes, or the exit code it ends with before. -/
def candidates_to_remove (registry : List RegistryEntry) : Except Int (List RegistryEntry) :=
  let candidates := candidates_of args registry
  if ¬ args.apply ∨ candidates = [] then .error 0
  else if args.yes ∨ args.confirmed then .ok candidates
  else .error 0

/-- An entry that the tool reads off the list. -/
def entry (e : String × String) : RegistryEntry := { entity_id := e.1, unique_id := e.2 }

def tool : Tool RegistryEntry where
  items registry := candidates_to_remove args (registry.map entry)
  command c := .remove c.entity_id

/-- An item of `failures`. -/
def failure (c : RegistryEntry) (err : String) : String × String := (c.entity_id, err)

end

/-- Two sensors that have no state, and one that has. -/
def two_zombies : Args where
  states := [⟨"sensor.x_c", "5", some 0⟩]
  domain := ["sensor.x_"]
  unavailable_min_age_s := .finite 3600
  include_stale_values := false
  canonical_uids := none
  now := 7200
  apply := true
  yes := true
  confirmed := false

def three_sensors : List (String × String) :=
  [("sensor.x_a", "a"), ("sensor.x_b", "b"), ("sensor.x_c", "c")]

/-- The tool with a server that holds the three sensors. -/
def two_zombies_run (acts : List (Act (List (String × String)) String Bool)) :
    Option (State (List (String × String)) Command Reply String Bool) :=
  run ((tool two_zombies).parties (fun _ => "") serve_registry).step (.init three_sensors) acts

/-- What the removals of a run came to. -/
def two_zombies_applying (s : State (List (String × String)) Command Reply String Bool) :
    Option (List (String × String) × List RegistryEntry × List (Command × Except String Reply)) :=
  (tool two_zombies).applying (fun _ => "") s.told

section

variable {args : Args} {text : PyValue → String} {σ κ : Type}
  {serve : κ → σ → Command → σ × Reply} {init : σ} {s : State σ Command Reply String κ}
  {acts : List (Act σ String κ)} {listed : List (String × String)} {candidates : List RegistryEntry}
  {rest : List (Command × Except String Reply)} {registry : σ → List (String × String)}

theorem candidates_eq (happlying : (tool args).applying text s.told = some (listed, candidates, rest)) :
    candidates = candidates_of args (listed.map entry) := by
  have hitems : candidates_to_remove args (listed.map entry) = .ok candidates :=
    (Tool.applying_eq_some_iff.mp happlying).2
  simp only [candidates_to_remove] at hitems
  split_ifs at hitems
  exact (Except.ok.inj hitems).symm

/-- What is not selected by itself is not selected in any registry. -/
theorem mem_candidates_of_iff {registry : List RegistryEntry} {e : RegistryEntry} :
    e ∈ candidates_of args registry ↔ e ∈ registry ∧ e ∈ candidates_of args [e] := by
  simp only [candidates_of, select_candidates, List.mem_filter, List.mem_singleton, true_and]

/-- An entity that is registered once is one entry less when it is removed. -/
theorem length_remove {r : List (String × String)} {entity_id : String} (hdistinct : (ids r).Nodup)
    (hmem : entity_id ∈ ids r) :
    (Command.change r (.remove entity_id)).length + 1 = r.length := by
  have hone : r.countP (fun e => ¬ decide (e.1 ≠ entity_id)) = 1 := by
    rw [← List.count_eq_one_of_mem hdistinct hmem, ids, List.count, List.countP_map]
    refine List.countP_congr fun e _ => ?_
    simp
  calc (Command.change r (.remove entity_id)).length + 1
    _ = r.countP (fun e => decide (e.1 ≠ entity_id)) +
        r.countP (fun e => ¬ decide (e.1 ≠ entity_id)) := by
      rw [hone, Command.change, List.countP_eq_length_filter]
    _ = r.length := (List.length_eq_countP_add_countP _).symm

/-- The candidates are entries of the registry, so with distinct ids only they have theirs. -/
theorem ne_of_not_candidate {r : List (String × String)} {e : String × String} {c : RegistryEntry}
    (hdistinct : (ids r).Nodup) (he : e ∈ r) (hc : c ∈ candidates_of args (r.map entry))
    (hother : entry e ∉ candidates_of args (r.map entry)) : e.1 ≠ c.entity_id := by
  intro heq
  obtain ⟨e', he', rfl⟩ := List.mem_map.mp (List.mem_filter.mp hc).1
  obtain rfl := List.inj_on_of_nodup_map hdistinct he he' heq
  exact hother hc

/-- However the session goes, when nobody else changes the registry: the candidates are selected
from what is in it, and every entry that is not one of them stays; and when all of them have been
asked for, as many are removed as are counted, and at most as many more as timed out. -/
theorem purge_session_spares (hserver : HomeAssistant text registry serve)
    (hrun : run ((tool args).parties text serve).step (.init init) acts = some s)
    (halone : alone s.log = true)
    (happlying : (tool args).applying text s.told = some (listed, candidates, rest))
    (hdistinct : (ids (registry init)).Nodup) :
    let n_ok := (Tool.apply text failure candidates rest).1
    listed = registry init ∧ (registry s.server).Sublist (registry init) ∧
      (∀ e ∈ registry init, entry e ∉ candidates → e ∈ registry s.server) ∧
      (rest.length = candidates.length →
        (registry s.server).length + n_ok ≤ (registry init).length ∧
        (registry init).length ≤
          (registry s.server).length + n_ok + rest.countP Parties.timed_out) := by
  intro n_ok
  obtain rfl := Tool.listed_eq hserver hrun halone happlying
  have hcandidates := candidates_eq happlying
  obtain ⟨hsub, hkept, hlength⟩ := Tool.session_preserves
    (I := fun n r => r.Sublist (registry init) ∧
      (∀ e ∈ registry init, entry e ∉ candidates → e ∈ r) ∧ r.length + n = (registry init).length)
    hserver hrun halone happlying ⟨.refl _, fun e he _ => he, rfl⟩ (by
      rintro c hc n r ⟨hsub, hkept, hlength⟩ hallowed
      have hnodup : (ids r).Nodup := hdistinct.sublist (hsub.map Prod.fst)
      refine ⟨List.filter_sublist.trans hsub, fun e he hother => ?_, ?_⟩
      · refine List.mem_filter.mpr ⟨hkept e he hother, ?_⟩
        rw [hcandidates] at hc hother
        exact decide_eq_true (ne_of_not_candidate hdistinct he hc hother)
      · rw [← hlength, ← length_remove hnodup hallowed]
        exact Nat.add_right_comm _ n 1)
  refine ⟨rfl, hsub, hkept, fun hdone => ?_⟩
  obtain ⟨hle, hge⟩ := Tool.accounts failure (Parties.run_correlated hrun) happlying
    (fun _ => nofun) hdone
  exact ⟨by omega, by omega⟩

theorem purge_session_spares_late_answer :
    ∃ s rest, two_zombies_run late_answer = some s ∧
      two_zombies_applying s = some (three_sensors, candidates_of two_zombies (three_sensors.map entry),
        rest) ∧
      s.server.Sublist three_sensors ∧
      (∀ e ∈ three_sensors, entry e ∉ candidates_of two_zombies (three_sensors.map entry) →
        e ∈ s.server) ∧
      let n_ok := (Tool.apply (fun _ => "") failure
        (candidates_of two_zombies (three_sensors.map entry)) rest).1
      s.server.length + n_ok ≤ 3 ∧ 3 ≤ s.server.length + n_ok + rest.countP Parties.timed_out := by
  have hsession : (two_zombies_run late_answer).any (fun s => alone s.log &&
      (two_zombies_applying s).any fun a => a.2.2.length = a.2.1.length) = true := by
    decide +kernel
  obtain ⟨s, hrun, hs⟩ := (Option.any_eq_true _ _).mp hsession
  obtain ⟨halone, hs⟩ := Bool.and_eq_true_iff.mp hs
  obtain ⟨⟨listed, candidates, rest⟩, happlying, hdone⟩ := (Option.any_eq_true _ _).mp hs
  obtain ⟨rfl, hsub, hkept, hcounts⟩ := purge_session_spares
    (homeAssistant_serve_registry fun _ => "") hrun halone happlying (by decide)
  obtain rfl := candidates_eq happlying
  exact ⟨s, rest, hrun, happlying, hsub, hkept, hcounts (of_decide_eq_true hdone)⟩

theorem foldl_remove (cs : List RegistryEntry) (r : List (String × String)) :
    (cs.map (tool args).command).foldl Command.change r =
      r.filter fun e => e.1 ∉ cs.map RegistryEntry.entity_id := by
  induction cs generalizing r with
  | nil => exact (List.filter_eq_self.mpr fun e _ => by simp).symm
  | cons c cs ih =>
    rw [List.map_cons, List.foldl_cons, ih, tool, Command.change, List.filter_filter]
    refine List.filter_congr fun e _ => ?_
    rw [Bool.eq_iff_iff, List.map_cons]
    simp [and_comm]

/-- Exit code 0 is the purge made in one go: when nobody else changes the registry, the candidates
are gone and nothing else is, and from what is left the tool selects nothing. -/
theorem purge_session_exit_zero (hserver : HomeAssistant text registry serve)
    (hrun : run ((tool args).parties text serve).step (.init init) acts = some s)
    (halone : alone s.log = true)
    (happlying : (tool args).applying text s.told = some (listed, candidates, rest))
    (hdistinct : (ids (registry init)).Nodup)
    (hexit : (tool args).run_async text s.told = some 0) :
    registry s.server = (registry init).filter (fun e => entry e ∉ candidates) ∧
      candidates_of args ((registry s.server).map entry) = [] := by
  obtain rfl := Tool.listed_eq hserver hrun halone happlying
  obtain ⟨hregistry, -⟩ :=
    Tool.registry_of_exit_zero hserver hrun halone happlying hexit fun _ => nofun
  have hcandidates := candidates_eq happlying
  have hleft : registry s.server = (registry init).filter fun e => entry e ∉ candidates := by
    rw [hregistry, foldl_remove]
    refine List.filter_congr fun e he => decide_eq_decide.mpr (not_congr ⟨fun hmem => ?_, fun hmem => ?_⟩)
    · obtain ⟨c, hc, hid⟩ := List.mem_map.mp hmem
      rw [hcandidates] at hc ⊢
      by_contra hother
      exact ne_of_not_candidate hdistinct he hc hother hid.symm
    · exact List.mem_map.mpr ⟨entry e, hmem, rfl⟩
  refine ⟨hleft, List.eq_nil_iff_forall_not_mem.mpr fun c hc => ?_⟩
  -- what is selected among the rest was selected before
  obtain ⟨hmem, hselected⟩ := mem_candidates_of_iff.mp hc
  rw [hleft] at hmem
  obtain ⟨e, he, rfl⟩ := List.mem_map.mp hmem
  obtain ⟨hinit, hother⟩ := List.mem_filter.mp he
  refine of_decide_eq_true hother (hcandidates ▸ mem_candidates_of_iff.mpr ⟨?_, hselected⟩)
  exact List.mem_map_of_mem hinit

theorem purge_session_exit_zero_prompt :
    ∃ s, two_zombies_run prompt_answers = some s ∧
      candidates_of two_zombies (s.server.map entry) = [] := by
  have hsession : (two_zombies_run prompt_answers).any (fun s =>
      (alone s.log && (tool two_zombies).run_async (fun _ => "") s.told = some 0) &&
        (two_zombies_applying s).isSome) = true := by
    decide +kernel
  obtain ⟨s, hrun, hs⟩ := (Option.any_eq_true _ _).mp hsession
  obtain ⟨hexit, hsome⟩ := Bool.and_eq_true_iff.mp hs
  obtain ⟨halone, hexit⟩ := Bool.and_eq_true_iff.mp hexit
  obtain ⟨⟨listed, candidates, rest⟩, happlying⟩ := Option.isSome_iff_exists.mp hsome
  have hzero := purge_session_exit_zero (homeAssistant_serve_registry fun _ => "") hrun halone
    happlying (by decide) (of_decide_eq_true hexit)
  exact ⟨s, hrun, hzero.2⟩

end

end tools.purge_ha_zombies
