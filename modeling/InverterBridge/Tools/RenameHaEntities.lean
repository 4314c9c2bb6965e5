import InverterBridge.Lib.Dict

namespace tools.rename_ha_entities

/-- What is read of an entry of the entity registry. -/
structure RegistryEntry where
  entity_id : String
  unique_id : String

structure Rename where
  old : String
  new : String

inductive Status where
  | ok
  | not_found
  | would_collide
  | domain_mismatch
  | noop
deriving DecidableEq

structure PlanItem where
  old : String
  new : String
  status : Status
  detail : String := ""

def PlanItem.ok (item : PlanItem) : Bool := item.status = .ok

/-- `_domain_of(entity_id)`. -/
def domain_of (entity_id : String) : String :=
  String.ofList (entity_id.toList.takeWhile (· ≠ '.'))

/-- `{e.entity_id: e for e in registry}`. -/
def by_id (registry : List RegistryEntry) : Dict String RegistryEntry :=
  Dict.assign ∅ (registry.map fun e => (e.entity_id, e))

section

-- The text `!r` gives of a string.
variable (repr : String → String)

/-- A turn of the loop of `validate_renames`. -/
def validate_rename (registry : List RegistryEntry) (rn : Rename) : PlanItem :=
  if rn.old = rn.new then
    { old := rn.old, new := rn.new, status := .noop, detail := "old == new" }
  else
    let dom_old := domain_of rn.old
    let dom_new := domain_of rn.new
    if dom_old = "" ∨ dom_new = "" ∨ dom_old ≠ dom_new then
      { old := rn.old, new := rn.new, status := .domain_mismatch,
        detail := s!"{repr dom_old} != {repr dom_new}" }
    else
      match (by_id registry).lookup rn.old, (by_id registry).lookup rn.new with
      | none, _ =>
        { old := rn.old, new := rn.new, status := .not_found,
          detail := "old entity_id not in registry" }
      | some _, some other =>
        if other.entity_id ≠ rn.old then
          { old := rn.old, new := rn.new, status := .would_collide,
            detail := s!"target owned by another entity (unique_id={repr other.unique_id})" }
        else { old := rn.old, new := rn.new, status := .ok }
      | some _, none => { old := rn.old, new := rn.new, status := .ok }

def validate_renames (renames : List Rename) (registry : List RegistryEntry) : List PlanItem :=
  renames.map (validate_rename repr registry)

end

/-- The update of an entity id, as the tool asks the server for it: a registered entity gets an id
that is free, and anything else is refused. A server that holds an entity registry makes the change
`Command.change`, which is the same where the command is allowed (`update_entries_eq_some_iff`). -/
def update (registry : List RegistryEntry) (old new : String) : Option (List RegistryEntry) :=
  if (registry.any fun e => e.entity_id = old) ∧ ¬ registry.any fun e => e.entity_id = new then
    some (registry.map fun e => if e.entity_id = old then { e with entity_id := new } else e)
  else none

/-- The registry, and what `_apply` returns. -/
structure Applied where
  registry : List RegistryEntry
  n_ok : Nat
  failures : List (String × String × String)

section

-- The message of the server's refusal.
variable (refusal : String)

/-- A turn of the loop of `_apply`. -/
def apply_item (applied : Applied) (p : PlanItem) : Applied :=
  match update applied.registry p.old p.new with
  | some registry => { applied with registry, n_ok := applied.n_ok + 1 }
  | none =>
    let error := if refusal = "" then "unknown error" else refusal
    { applied with failures := applied.failures ++ [(p.old, p.new, error)] }

/-- `_apply(client, plan_ok)`, with the registry the server has. -/
def apply (registry : List RegistryEntry) (plan_ok : List PlanItem) : Applied :=
  plan_ok.foldl (apply_item refusal) { registry, n_ok := 0, failures := [] }

end

/-! ## What a plan does -/

def ids (registry : List RegistryEntry) : List String := registry.map RegistryEntry.entity_id

/-- A rename of a registered entity, within its domain, to an id that is not registered. -/
def Renameable (registry : List RegistryEntry) (rn : Rename) : Prop :=
  domain_of rn.old ≠ "" ∧ domain_of rn.old = domain_of rn.new ∧ rn.old ∈ ids registry ∧
    rn.new ∉ ids registry

instance (registry : List RegistryEntry) (rn : Rename) : Decidable (Renameable registry rn) :=
  inferInstanceAs (Decidable (_ ∧ _))

/-- Each item finds its old id registered and its new one free, at its turn. -/
def CarriedOut : List RegistryEntry → List PlanItem → Prop
  | _, [] => True
  | registry, item :: items =>
    ∃ registry', update registry item.old item.new = some registry' ∧ CarriedOut registry' items

section

variable {registry registry' : List RegistryEntry} {old new entity_id : String}

theorem mem_by_id : entity_id ∈ by_id registry ↔ entity_id ∈ ids registry := by
  rw [by_id, Dict.mem_assign, List.map_map]
  exact or_iff_right (AList.notMem_empty _)

theorem entity_id_of_lookup {e : RegistryEntry}
    (h : (by_id registry).lookup entity_id = some e) : e.entity_id = entity_id := by
  obtain hempty | hmem := Dict.lookup_or_mem_of_lookup_assign h
  · cases hempty
  · obtain ⟨_, -, heq⟩ := List.mem_map.mp hmem
    cases heq
    rfl

theorem lookup_by_id_eq_none : (by_id registry).lookup entity_id = none ↔ entity_id ∉ ids registry := by
  rw [AList.lookup_eq_none, mem_by_id]

/-- The status 'ok' is that of the renames that can be made one by one. -/
theorem validate_rename_ok_iff (repr : String → String) (rn : Rename) :
    (validate_rename repr registry rn).ok = true ↔ Renameable registry rn := by
  by_cases hnoop : rn.old = rn.new
  · refine iff_of_false ?_ fun h => h.2.2.2 (hnoop ▸ h.2.2.1)
    rw [validate_rename, if_pos hnoop]
    exact Bool.false_ne_true
  by_cases hdomain : domain_of rn.old = "" ∨ domain_of rn.new = "" ∨ domain_of rn.old ≠ domain_of rn.new
  · refine iff_of_false ?_ fun h => ?_
    · rw [validate_rename, if_neg hnoop, if_pos hdomain]
      exact Bool.false_ne_true
    · rw [← h.2.1] at hdomain
      simp [h.1] at hdomain
  rw [validate_rename, if_neg hnoop, if_neg hdomain]
  simp only [not_or, not_not] at hdomain
  cases hold : (by_id registry).lookup rn.old with
  | none =>
    refine iff_of_false Bool.false_ne_true fun h => ?_
    exact lookup_by_id_eq_none.mp hold h.2.2.1
  | some old_entry =>
    have hregistered : rn.old ∈ ids registry := by
      rw [← mem_by_id, Dict.mem_iff_lookup]
      exact ⟨old_entry, hold⟩
    cases hnew : (by_id registry).lookup rn.new with
    | none =>
      refine iff_of_true rfl ⟨hdomain.1, hdomain.2.2, hregistered, ?_⟩
      exact lookup_by_id_eq_none.mp hnew
    | some other =>
      have hother : other.entity_id ≠ rn.old := by
        rw [entity_id_of_lookup hnew]
        exact Ne.symm hnoop
      refine iff_of_false ?_ fun h => ?_
      · simp only [if_pos hother]
        exact Bool.false_ne_true
      · rw [lookup_by_id_eq_none.mpr h.2.2.2] at hnew
        cases hnew

/-- Every item is about its rename. -/
theorem validate_rename_ids (repr : String → String) (rn : Rename) :
    (validate_rename repr registry rn).old = rn.old ∧
      (validate_rename repr registry rn).new = rn.new := by
  unfold validate_rename
  split
  · exact ⟨rfl, rfl⟩
  · dsimp only
    split
    · exact ⟨rfl, rfl⟩
    · split
      · exact ⟨rfl, rfl⟩
      · split <;> exact ⟨rfl, rfl⟩
      · exact ⟨rfl, rfl⟩

theorem any_entity_id : (registry.any fun e => e.entity_id = entity_id) = true ↔
    entity_id ∈ ids registry := by
  simp [ids]

/-- The registry after an update. -/
def renamed (registry : List RegistryEntry) (old new : String) : List RegistryEntry :=
  registry.map fun e => if e.entity_id = old then { e with entity_id := new } else e

theorem update_eq_some_iff : update registry old new = some registry' ↔
    (old ∈ ids registry ∧ new ∉ ids registry) ∧ renamed registry old new = registry' := by
  rw [update, Option.ite_none_right_eq_some, any_entity_id, any_entity_id, Option.some.injEq]
  rfl

theorem ids_renamed : ids (renamed registry old new) =
    (ids registry).map fun id => if id = old then new else id := by
  rw [ids, renamed, List.map_map, ids, List.map_map]
  refine List.map_congr_left fun e _ => ?_
  by_cases heq : e.entity_id = old
  · simp [heq]
  · simp [heq]

theorem mem_ids_renamed (hold : old ∈ ids registry) : entity_id ∈ ids (renamed registry old new) ↔
    (entity_id ∈ ids registry ∧ entity_id ≠ old) ∨ entity_id = new := by
  rw [ids_renamed, List.mem_map]
  constructor
  · rintro ⟨id, hid, rfl⟩
    by_cases heq : id = old
    · exact .inr (if_pos heq)
    · rw [if_neg heq]
      exact .inl ⟨hid, heq⟩
  · rintro (⟨hmem, hne⟩ | rfl)
    · exact ⟨entity_id, hmem, if_neg hne⟩
    · exact ⟨old, hold, if_pos rfl⟩

/-- An update keeps the ids distinct. -/
theorem nodup_ids_renamed (hnodup : (ids registry).Nodup) (hnew : new ∉ ids registry) :
    (ids (renamed registry old new)).Nodup := by
  rw [ids_renamed]
  refine hnodup.map_on fun a ha b hb heq => ?_
  by_cases haold : a = old <;> by_cases hbold : b = old
  · exact haold.trans hbold.symm
  · rw [if_pos haold, if_neg hbold] at heq
    exact absurd (heq ▸ hb) hnew
  · rw [if_neg haold, if_pos hbold] at heq
    exact absurd (heq ▸ ha) hnew
  · rwa [if_neg haold, if_neg hbold] at heq

/-! ## When a plan can be carried out -/

variable {items : List PlanItem}

theorem carriedOut_cons {item : PlanItem} : CarriedOut registry (item :: items) ↔
    (item.old ∈ ids registry ∧ item.new ∉ ids registry) ∧
      CarriedOut (renamed registry item.old item.new) items := by
  constructor
  · rintro ⟨registry', hupdate, hrest⟩
    obtain ⟨hfree, rfl⟩ := update_eq_some_iff.mp hupdate
    exact ⟨hfree, hrest⟩
  · rintro ⟨hfree, hrest⟩
    exact ⟨_, update_eq_some_iff.mpr ⟨hfree, rfl⟩, hrest⟩

/-- An id that is gone, and comes back with no item, cannot be renamed any more. -/
theorem CarriedOut.old_ne (h : CarriedOut registry items) (hgone : entity_id ∉ ids registry)
    (hnew : ∀ item ∈ items, item.new ≠ entity_id) : ∀ item ∈ items, item.old ≠ entity_id := by
  induction items generalizing registry with
  | nil => exact nofun
  | cons item items ih =>
    rw [carriedOut_cons] at h
    rw [List.forall_mem_cons] at hnew ⊢
    refine ⟨fun heq => hgone (heq ▸ h.1.1), ih h.2 ?_ hnew.2⟩
    rw [mem_ids_renamed h.1.1]
    rintro (⟨hmem, -⟩ | heq)
    · exact hgone hmem
    · exact hnew.1 heq.symm

/-- An id that is taken, and given up with no item, cannot be taken again. -/
theorem CarriedOut.new_ne (h : CarriedOut registry items) (htaken : entity_id ∈ ids registry)
    (hold : ∀ item ∈ items, item.old ≠ entity_id) : ∀ item ∈ items, item.new ≠ entity_id := by
  induction items generalizing registry with
  | nil => exact nofun
  | cons item items ih =>
    rw [carriedOut_cons] at h
    rw [List.forall_mem_cons] at hold ⊢
    refine ⟨fun heq => h.1.2 (heq ▸ htaken), ih h.2 ?_ hold.2⟩
    rw [mem_ids_renamed h.1.1]
    exact .inl ⟨htaken, hold.1.symm⟩

/-- Items that can be made one by one can be made in order exactly if no two of them share
their old id, and no two their new one. -/
theorem carriedOut_iff (hitems : ∀ item ∈ items, item.old ∈ ids registry ∧ item.new ∉ ids registry) :
    CarriedOut registry items ↔
      (items.map PlanItem.old).Nodup ∧ (items.map PlanItem.new).Nodup := by
  induction items generalizing registry with
  | nil => exact iff_of_true trivial ⟨List.nodup_nil, List.nodup_nil⟩
  | cons item items ih =>
    rw [List.forall_mem_cons] at hitems
    obtain ⟨⟨hold, hnew⟩, hitems⟩ := hitems
    have hne : item.new ≠ item.old := ne_of_mem_of_not_mem hold hnew |>.symm
    have hrest (holds : ∀ i ∈ items, i.old ≠ item.old) (hnews : ∀ i ∈ items, i.new ≠ item.new) :
        CarriedOut (renamed registry item.old item.new) items ↔
          (items.map PlanItem.old).Nodup ∧ (items.map PlanItem.new).Nodup := by
      refine ih fun i hi => ?_
      rw [mem_ids_renamed hold, mem_ids_renamed hold]
      refine ⟨.inl ⟨(hitems i hi).1, holds i hi⟩, ?_⟩
      rintro (⟨hmem, -⟩ | heq)
      · exact (hitems i hi).2 hmem
      · exact hnews i hi heq
    simp only [List.map_cons, List.nodup_cons, List.mem_map, not_exists, not_and]
    constructor
    · intro h
      have htail := (carriedOut_cons.mp h).2
      have holds : ∀ i ∈ items, i.old ≠ item.old := by
        refine htail.old_ne ?_ fun i hi => ne_of_mem_of_not_mem hold (hitems i hi).2 |>.symm
        rw [mem_ids_renamed hold]
        rintro (⟨-, hself⟩ | heq)
        · exact hself rfl
        · exact hne heq.symm
      have hnews : ∀ i ∈ items, i.new ≠ item.new := by
        refine htail.new_ne ?_ fun i hi => ne_of_mem_of_not_mem (hitems i hi).1 hnew
        rw [mem_ids_renamed hold]
        exact .inr rfl
      obtain ⟨hnodup_old, hnodup_new⟩ := (hrest holds hnews).mp htail
      exact ⟨⟨holds, hnodup_old⟩, hnews, hnodup_new⟩
    · rintro ⟨⟨holds, hnodup_old⟩, hnews, hnodup_new⟩
      exact carriedOut_cons.mpr ⟨⟨hold, hnew⟩, (hrest holds hnews).mpr ⟨hnodup_old, hnodup_new⟩⟩

/-! ## The loop that applies a plan -/

variable {refusal : String} {applied : Applied}

/-- Whatever is refused, the ids stay distinct and no entry is lost. -/
theorem apply_item_keeps (item : PlanItem) (hnodup : (ids applied.registry).Nodup) :
    (ids (apply_item refusal applied item).registry).Nodup ∧
      (apply_item refusal applied item).registry.length = applied.registry.length := by
  unfold apply_item
  cases hupdate : update applied.registry item.old item.new with
  | none => exact ⟨hnodup, rfl⟩
  | some registry =>
    obtain ⟨hfree, rfl⟩ := update_eq_some_iff.mp hupdate
    exact ⟨nodup_ids_renamed hnodup hfree.2, List.length_map _⟩

theorem foldl_apply_item_keeps (hnodup : (ids applied.registry).Nodup) :
    (ids (items.foldl (apply_item refusal) applied).registry).Nodup ∧
      (items.foldl (apply_item refusal) applied).registry.length = applied.registry.length := by
  induction items generalizing applied with
  | nil => exact ⟨hnodup, rfl⟩
  | cons item items ih =>
    obtain ⟨hnodup', hlength⟩ := @apply_item_keeps refusal applied item hnodup
    rw [← hlength]
    exact ih hnodup'

/-- A failure is never forgotten. -/
theorem failures_ne_nil (h : applied.failures ≠ []) :
    (items.foldl (apply_item refusal) applied).failures ≠ [] := by
  induction items generalizing applied with
  | nil => exact h
  | cons item items ih =>
    refine ih ?_
    unfold apply_item
    cases update applied.registry item.old item.new with
    | none => exact List.append_ne_nil_of_left_ne_nil h _
    | some registry => exact h

/-- Nothing fails exactly if every item finds its ids, and then all are counted. -/
theorem foldl_apply_item_iff (h : applied.failures = []) :
    ((items.foldl (apply_item refusal) applied).failures = [] ∧
        (items.foldl (apply_item refusal) applied).n_ok = applied.n_ok + items.length) ↔
      CarriedOut applied.registry items := by
  induction items generalizing applied with
  | nil => exact iff_of_true ⟨h, rfl⟩ trivial
  | cons item items ih =>
    rw [List.foldl_cons]
    cases hupdate : update applied.registry item.old item.new with
    | none =>
      have hfailed : (apply_item refusal applied item).failures ≠ [] := by
        rw [apply_item, hupdate]
        exact List.append_ne_nil_of_right_ne_nil _ (List.cons_ne_nil _ _)
      refine iff_of_false (fun hall => failures_ne_nil hfailed hall.1) ?_
      rintro ⟨registry', hsome, -⟩
      rw [hupdate] at hsome
      cases hsome
    | some registry' =>
      have hitem : apply_item refusal applied item =
          { applied with registry := registry', n_ok := applied.n_ok + 1 } := by
        rw [apply_item, hupdate]
      rw [hitem, List.length_cons, Nat.add_comm items.length, ← Nat.add_assoc]
      refine Iff.trans (@ih { applied with registry := registry', n_ok := applied.n_ok + 1 } h) ?_
      constructor
      · exact fun hrest => ⟨registry', hupdate, hrest⟩
      · rintro ⟨registry'', hsome, hrest⟩
        rw [hupdate] at hsome
        cases hsome
        exact hrest

end

/-- For every registry with distinct ids and every list of renames: the items marked 'ok' can
all be applied in order, exactly if no two of the renames that could be made alone share
their old id, and no two their new one. -/
theorem approved_plan_carried_out_iff (repr : String → String) (refusal : String)
    (registry : List RegistryEntry) (renames : List Rename) (hdistinct : (ids registry).Nodup) :
    let plan_ok := (validate_renames repr renames registry).filter PlanItem.ok
    let applied := apply refusal registry plan_ok
    let alone := renames.filter fun rn => Renameable registry rn
    ((applied.failures = [] ∧ applied.n_ok = plan_ok.length) ∧ (ids applied.registry).Nodup ∧
        applied.registry.length = registry.length) ↔
      (alone.map Rename.old).Nodup ∧ (alone.map Rename.new).Nodup := by
  intro plan_ok applied alone
  have hplan : plan_ok = alone.map (validate_rename repr registry) := by
    rw [show plan_ok = (renames.map (validate_rename repr registry)).filter PlanItem.ok from rfl,
      List.filter_map]
    refine congrArg _ (List.filter_congr fun rn _ => ?_)
    rw [Bool.eq_iff_iff, decide_eq_true_iff]
    exact validate_rename_ok_iff repr rn
  have hold : plan_ok.map PlanItem.old = alone.map Rename.old := by
    rw [hplan, List.map_map]
    exact List.map_congr_left fun rn _ => (validate_rename_ids repr rn).1
  have hnew : plan_ok.map PlanItem.new = alone.map Rename.new := by
    rw [hplan, List.map_map]
    exact List.map_congr_left fun rn _ => (validate_rename_ids repr rn).2
  have hitems : ∀ item ∈ plan_ok, item.old ∈ ids registry ∧ item.new ∉ ids registry := by
    rw [hplan, List.forall_mem_map]
    intro rn hrn
    have halone : Renameable registry rn := of_decide_eq_true (List.mem_filter.mp hrn).2
    rw [(validate_rename_ids repr rn).1, (validate_rename_ids repr rn).2]
    exact halone.2.2
  have hkeeps : (ids applied.registry).Nodup ∧ applied.registry.length = registry.length :=
    foldl_apply_item_keeps hdistinct
  have happlied := @foldl_apply_item_iff plan_ok refusal { registry, n_ok := 0, failures := [] } rfl
  rw [Nat.zero_add] at happlied
  rw [and_iff_left hkeeps, ← hold, ← hnew]
  exact happlied.trans (carriedOut_iff hitems)

/-- Two approved renames with one target. -/
def shared_target : List Rename :=
  [⟨"sensor.a_3", "sensor.a"⟩, ⟨"sensor.a_4", "sensor.a"⟩]

def suffixed_registry : List RegistryEntry := [⟨"sensor.a_3", "u3"⟩, ⟨"sensor.a_4", "u4"⟩]

theorem shared_target_fails :
    let plan_ok := (validate_renames id shared_target suffixed_registry).filter PlanItem.ok
    (ids suffixed_registry).Nodup ∧ plan_ok.length = 2 ∧
      (apply "" suffixed_registry plan_ok).failures =
        [("sensor.a_4", "sensor.a", "unknown error")] := by
  decide +kernel

/-- Two renames that leave each other alone, and one that is not approved. -/
def two_targets : List Rename :=
  [⟨"sensor.a_3", "sensor.a"⟩, ⟨"sensor.a_4", "switch.a"⟩, ⟨"sensor.a_4", "sensor.b"⟩]

theorem approved_plan_carried_out_iff_suffix :
    let plan_ok := (validate_renames id two_targets suffixed_registry).filter PlanItem.ok
    let applied := apply "" suffixed_registry plan_ok
    plan_ok.length = 2 ∧ applied.failures = [] ∧ applied.n_ok = 2 ∧
      ids applied.registry = ["sensor.a", "sensor.b"] := by
  intro plan_ok applied
  have htwo : plan_ok.length = 2 := by decide +kernel
  obtain ⟨⟨hnone, hcount⟩, -⟩ := (approved_plan_carried_out_iff id "" suffixed_registry two_targets
    (by decide)).mpr (by decide +kernel)
  exact ⟨htwo, hnone, hcount.trans htwo, by decide +kernel⟩

end tools.rename_ha_entities
