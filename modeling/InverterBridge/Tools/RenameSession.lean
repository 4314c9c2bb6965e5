import InverterBridge.Tools.AuditF7
import InverterBridge.Tools.WsClient

open Python RequestReply TransitionSystem tools.ws_client

/-! A session of `rename_ha_entities.py` with the server, as it goes when answers are late or do
not come. -/

namespace tools.rename_ha_entities

/-- `parse_pairs(pairs)`. -/
def parse_pairs (repr : String → String) (pairs : List String) : Except PyError (List Rename) :=
  pairs.mapM fun raw =>
    match Text.split_once '=' raw with
    | none => .error (.ValueError s!"--pairs entry has no '=': {repr raw}")
    | some (old, new) =>
      let old := strip old
      let new := strip new
      if old = "" ∨ new = "" then
        .error (.ValueError s!"--pairs entry has empty side: {repr raw}")
      else .ok { old, new }

/-- The items of a dict: each key where it was first met, with the last value. -/
def dict_items (entries : List (Scalar × PyValue)) : List (Scalar × PyValue) :=
  (entries.map Prod.fst).eraseDups.filterMap fun key =>
    (entries.reverse.find? fun entry => entry.1 = key)

/-- `load_mapping_file(path)`, from what `json.load` returns. -/
def load_mapping_file (repr : String → String) (path : String) :
    PyValue → Except PyError (List Rename)
  | .dict entries =>
    (dict_items entries).mapM fun entry =>
      match entry with
      | (.str old, .scalar (.str new)) =>
        if old = "" ∨ new = "" then
          .error (.ValueError s!"mapping file {repr path}: empty entity_id encountered")
        else .ok { old, new }
      | _ => .error (.ValueError s!"mapping file {repr path}: keys and values must be strings")
  | data =>
    .error (.ValueError
      s!"mapping file {repr path} must contain a JSON object, got {data.type_name}")

/-- Where the renames come from. -/
inductive Source where
  | nothing
  | audit_f7
  /-- A file, with what is loaded of it; there is none where it cannot be opened or read. -/
  | mapping (path : String) (data : Option PyValue)
  | pairs (pairs : List String)

structure Args where
  source : Source
  /-- `args.action == "apply"`. -/
  apply : Bool
  yes : Bool
  /-- What `_prompt_confirm` returns, if it is asked. -/
  confirmed : Bool
  fail_on_blocked : Bool

section

variable (repr : String → String) (args : Args)

/-- `_build_renames_from_args(args, registry)`. -/
def build_renames_from_args (registry : List RegistryEntry) : Except PyError (List Rename) :=
  match args.source with
  | .audit_f7 => .ok (build_audit_f7_renames registry AUDIT_F7_PREFIXES)
  | .mapping path (some data) => load_mapping_file repr path data
  | .mapping path none => .error (.OSError path)
  | .pairs pairs => parse_pairs repr pairs
  | .nothing => .ok []

/-- The items that `_run_async` applies, or the exit code it ends with before. -/
def plan_to_apply (registry : List RegistryEntry) : Except Int (List PlanItem) :=
  match build_renames_from_args repr args registry with
  | .error _ => .error 1
  | .ok [] => .error 0
  | .ok renames =>
    let plan := validate_renames repr renames registry
    let plan_ok := plan.filter PlanItem.ok
    let blocked : Int := if plan_ok.length < plan.length ∧ args.fail_on_blocked then 5 else 0
    if ¬ args.apply ∨ plan_ok = [] then .error blocked
    else if args.yes ∨ args.confirmed then .ok plan_ok
    else .error 0

/-- The entries that the tool reads off the list. -/
def entries (registry : List (String × String)) : List RegistryEntry :=
  registry.map fun e => { entity_id := e.1, unique_id := e.2 }

def tool : Tool PlanItem where
  items registry := plan_to_apply repr args (entries registry)
  command p := .update p.old p.new

end

/-- An item of `failures`. -/
def failure (p : PlanItem) (err : String) : String × String × String := (p.old, p.new, err)

/-- Two renames, made without asking. -/
def two_pairs : Args where
  source := .pairs ["sensor.a_3=sensor.a", "sensor.b_3=sensor.b"]
  apply := true
  yes := true
  confirmed := false
  fail_on_blocked := false

def suffixed_pair : List (String × String) := [("sensor.a_3", "u3"), ("sensor.b_3", "u4")]

/-- The tool with a server that holds the two entities. -/
def two_pairs_run (acts : List (Act (List (String × String)) String Bool)) :
    Option (State (List (String × String)) Command Reply String Bool) :=
  run ((tool id two_pairs).parties (fun _ => "") serve_registry).step (.init suffixed_pair) acts

/-- What the renames of a run came to. -/
def two_pairs_applying (s : State (List (String × String)) Command Reply String Bool) :
    Option (List (String × String) × List PlanItem × List (Command × Except String Reply)) :=
  (tool id two_pairs).applying (fun _ => "") s.told

section

variable {repr : String → String} {args : Args} {text : PyValue → String} {σ κ : Type}
  {serve : κ → σ → Command → σ × Reply} {init : σ} {s : State σ Command Reply String κ}
  {acts : List (Act σ String κ)} {listed : List (String × String)} {plan_ok : List PlanItem}
  {rest : List (Command × Except String Reply)} {registry : σ → List (String × String)}

/-- However the session goes, none is made that was not approved; and when all the approved ones have
been asked for, each is counted or listed as a failure, no more are counted than were made, and no
more are made than were counted or timed out. -/
theorem rename_session_accounts
    (hrun : run ((tool repr args).parties text serve).step (.init init) acts = some s)
    (happlying : (tool repr args).applying text s.told = some (listed, plan_ok, rest)) :
    let applied := Tool.apply text failure plan_ok rest
    let made := (answers s.log).filter fun a => carried_out a.1 a.2
    (rest.length = plan_ok.length →
      applied.1 + applied.2.length = plan_ok.length ∧ applied.1 ≤ made.length ∧
        made.length ≤ applied.1 + rest.countP Parties.timed_out) ∧
      ∀ a ∈ made, ∃ p ∈ plan_ok, a.1 = .update p.old p.new := by
  have h := Parties.run_correlated hrun
  constructor
  · intro hdone
    obtain ⟨hle, hge⟩ := Tool.accounts failure h happlying (fun _ => nofun) hdone
    rw [List.countP_eq_length_filter] at hle hge
    exact ⟨Tool.apply_total failure hdone, hle, hge⟩
  · intro a ha
    obtain ⟨hanswer, hcarried⟩ := List.mem_filter.mp ha
    exact Tool.served_item h happlying hanswer hcarried

theorem rename_session_accounts_late_answer :
    ∃ s listed plan_ok rest, two_pairs_run late_answer = some s ∧
      two_pairs_applying s = some (listed, plan_ok, rest) ∧
      let applied := Tool.apply (fun _ => "") failure plan_ok rest
      let made := (answers s.log).filter fun a => carried_out a.1 a.2
      applied.1 + applied.2.length = plan_ok.length ∧ applied.1 ≤ made.length ∧
        made.length ≤ applied.1 + rest.countP Parties.timed_out ∧
        ∀ a ∈ made, ∃ p ∈ plan_ok, a.1 = .update p.old p.new := by
  have hsession : (two_pairs_run late_answer).any (fun s =>
      (two_pairs_applying s).any fun a => a.2.2.length = a.2.1.length) = true := by
    decide +kernel
  obtain ⟨s, hrun, hs⟩ := (Option.any_eq_true _ _).mp hsession
  obtain ⟨⟨listed, plan_ok, rest⟩, happlying, hdone⟩ := (Option.any_eq_true _ _).mp hs
  obtain ⟨hcounts, happroved⟩ := rename_session_accounts hrun happlying
  obtain ⟨htotal, hle, hge⟩ := hcounts (of_decide_eq_true hdone)
  exact ⟨s, listed, plan_ok, rest, hrun, happlying, htotal, hle, hge, happroved⟩

/-! ## The registry after a session -/

theorem ids_entries (r : List (String × String)) : ids (entries r) = ws_client.ids r :=
  List.map_map

theorem entries_change_update (r : List (String × String)) (old new : String) :
    entries (Command.change r (.update old new)) = renamed (entries r) old new := by
  simp only [entries, Command.change, renamed, List.map_map]
  refine List.map_congr_left fun e _ => ?_
  simp only [Function.comp_apply]
  split <;> rfl

/-- The tool's update is the server's, where the command is allowed. -/
theorem update_entries_eq_some_iff {r : List (String × String)} {old new : String}
    {registry' : List RegistryEntry} :
    update (entries r) old new = some registry' ↔ (Command.update old new).Allowed r ∧
      entries (Command.change r (.update old new)) = registry' := by
  rw [update_eq_some_iff, ids_entries, entries_change_update]
  rfl

/-- What is allowed in its turn, the loop of `_apply` does. -/
theorem foldl_apply_item_of_allowed (refusal : String) {plan : List PlanItem}
    {r : List (String × String)} {n : Nat}
    (hallowed : Trace.EachAt (fun before (p : PlanItem) => (Command.update p.old p.new).Allowed
      (before.foldl (fun r p => Command.change r (.update p.old p.new)) r)) plan) :
    plan.foldl (apply_item refusal) { registry := entries r, n_ok := n, failures := [] } =
      { registry := entries (plan.foldl (fun r p => Command.change r (.update p.old p.new)) r)
        n_ok := n + plan.length, failures := [] } := by
  induction plan generalizing r n with
  | nil => rfl
  | cons p plan ih =>
    have hupdate : update (entries r) p.old p.new =
        some (entries (Command.change r (.update p.old p.new))) :=
      update_entries_eq_some_iff.mpr ⟨hallowed [] p plan rfl, rfl⟩
    have hitem : apply_item refusal { registry := entries r, n_ok := n, failures := [] } p =
        { registry := entries (Command.change r (.update p.old p.new))
          n_ok := n + 1, failures := [] } := by
      rw [apply_item, hupdate]
    rw [List.foldl_cons, hitem, List.foldl_cons, List.length_cons, Nat.add_comm plan.length,
      ← Nat.add_assoc]
    refine ih fun before q later hplan => ?_
    rw [hplan] at hallowed
    exact hallowed (p :: before) q later rfl

/-- However the session goes, when nobody else changes the registry: the plan is made for what is
in it, no entry is lost and none added, the ids stay distinct, and an entity that no approved rename
is about keeps its id. -/
theorem rename_session_frame (hserver : HomeAssistant text registry serve)
    (hrun : run ((tool repr args).parties text serve).step (.init init) acts = some s)
    (halone : alone s.log = true)
    (happlying : (tool repr args).applying text s.told = some (listed, plan_ok, rest))
    (hdistinct : (ws_client.ids (registry init)).Nodup) :
    listed = registry init ∧ (registry s.server).map Prod.snd = (registry init).map Prod.snd ∧
      (ws_client.ids (registry s.server)).Nodup ∧
      ∀ e ∈ registry init, (∀ p ∈ plan_ok, e.1 ≠ p.old) → e ∈ registry s.server := by
  refine ⟨Tool.listed_eq hserver hrun halone happlying, ?_⟩
  refine Tool.session_preserves (I := fun _ r => r.map Prod.snd = (registry init).map Prod.snd ∧
    (ws_client.ids r).Nodup ∧ ∀ e ∈ registry init, (∀ p ∈ plan_ok, e.1 ≠ p.old) → e ∈ r)
    hserver hrun halone happlying ⟨rfl, hdistinct, fun e he _ => he⟩ ?_
  rintro p hp - r ⟨hunique, hnodup, hkept⟩ ⟨-, hfree⟩
  refine ⟨?_, ?_, fun e he hother => ?_⟩
  · rw [← hunique, tool, Command.change, List.map_map]
    refine List.map_congr_left fun e _ => ?_
    simp only [Function.comp_apply]
    split <;> rfl
  · rw [← ids_entries, tool, entries_change_update]
    rw [← ids_entries] at hnodup hfree
    exact nodup_ids_renamed hnodup hfree
  · refine List.mem_map.mpr ⟨e, hkept e he hother, if_neg (hother p hp)⟩

theorem rename_session_frame_late_answer :
    ∃ s, two_pairs_run late_answer = some s ∧ s.server.map Prod.snd = ["u3", "u4"] ∧
      (ws_client.ids s.server).Nodup := by
  have hsession : (two_pairs_run late_answer).any (fun s =>
      alone s.log && (two_pairs_applying s).isSome) = true := by
    decide +kernel
  obtain ⟨s, hrun, hs⟩ := (Option.any_eq_true _ _).mp hsession
  obtain ⟨halone, hsome⟩ := Bool.and_eq_true_iff.mp hs
  obtain ⟨⟨listed, plan_ok, rest⟩, happlying⟩ := Option.isSome_iff_exists.mp hsome
  have hframe := rename_session_frame (homeAssistant_serve_registry fun _ => "") hrun halone
    happlying (by decide)
  exact ⟨s, hrun, hframe.2.1, hframe.2.2.1⟩

/-- Exit code 0 is the plan made in one go: when nobody else changes the registry, it was as
listed, every approved rename could be made in its turn, and the registry is what they leave. -/
theorem rename_session_exit_zero (hserver : HomeAssistant text registry serve) (refusal : String)
    (hrun : run ((tool repr args).parties text serve).step (.init init) acts = some s)
    (halone : alone s.log = true)
    (happlying : (tool repr args).applying text s.told = some (listed, plan_ok, rest))
    (hexit : (tool repr args).run_async text s.told = some 0) :
    listed = registry init ∧ apply refusal (entries listed) plan_ok =
      { registry := entries (registry s.server), n_ok := plan_ok.length, failures := [] } := by
  obtain rfl := Tool.listed_eq hserver hrun halone happlying
  obtain ⟨hregistry, hallowed⟩ :=
    Tool.registry_of_exit_zero hserver hrun halone happlying hexit fun _ => nofun
  refine ⟨rfl, ?_⟩
  rw [hregistry, List.foldl_map, apply, foldl_apply_item_of_allowed, Nat.zero_add]
  · rfl
  · intro before p later hplan
    have hp := hallowed (before.map (tool repr args).command) _ _ (by rw [hplan, List.map_append]; rfl)
    simp only [List.foldl_map] at hp
    exact hp

theorem rename_session_exit_zero_prompt :
    ∃ s listed plan_ok rest, two_pairs_run prompt_answers = some s ∧
      two_pairs_applying s = some (listed, plan_ok, rest) ∧
      apply "" (entries listed) plan_ok =
        { registry := entries s.server, n_ok := plan_ok.length, failures := [] } := by
  have hsession : (two_pairs_run prompt_answers).any (fun s =>
      (alone s.log && (tool id two_pairs).run_async (fun _ => "") s.told = some 0) &&
        (two_pairs_applying s).isSome) = true := by
    decide +kernel
  obtain ⟨s, hrun, hs⟩ := (Option.any_eq_true _ _).mp hsession
  obtain ⟨hexit, hsome⟩ := Bool.and_eq_true_iff.mp hs
  obtain ⟨halone, hexit⟩ := Bool.and_eq_true_iff.mp hexit
  obtain ⟨⟨listed, plan_ok, rest⟩, happlying⟩ := Option.isSome_iff_exists.mp hsome
  have hzero := rename_session_exit_zero (homeAssistant_serve_registry fun _ => "") "" hrun halone
    happlying (of_decide_eq_true hexit)
  exact ⟨s, listed, plan_ok, rest, hrun, happlying, hzero.2⟩

end

end tools.rename_ha_entities
