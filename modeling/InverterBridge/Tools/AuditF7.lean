import InverterBridge.Lib.Text
import InverterBridge.Tools.RenameHaEntities

namespace tools.rename_ha_entities

def AUDIT_F7_PREFIXES : List String :=
  ["sensor.gadi_inverters_inverter_1_", "sensor.gadi_inverters_inverter_2_"]

/-- `(?P<base>.+)_3$` of `_AUDIT_F7_ENTITY_RE`: the group `base`. -/
def audit_f7_base (tail : List Char) : Option (List Char) :=
  -- `$` also matches before a last line break
  let line := if tail.getLast? = some '\n' then tail.dropLast else tail
  let base := line.take (line.length - 2)
  if line.drop (line.length - 2) = ['_', '3'] ∧ base ≠ [] ∧ '\n' ∉ base then some base else none

/-- `_AUDIT_F7_ENTITY_RE.match(entity_id)`: the groups `inv` and `base`. -/
def audit_f7_match (entity_id : String) : Option (String × String) := do
  let rest ← Text.after "sensor.gadi_inverters_inverter_" entity_id
  match rest.toList with
  | inv :: '_' :: tail =>
    if inv = '1' ∨ inv = '2' then
      let base ← audit_f7_base tail
      return (String.singleton inv, String.ofList base)
    else none
  | _ => none

/-- A turn of the loop of `build_audit_f7_renames`. -/
def audit_f7_rename (registry : List RegistryEntry) (prefixes : List String)
    (entry : RegistryEntry) : Option Rename :=
  if ¬ prefixes.any fun head => (Text.after head entry.entity_id).isSome then none
  else
    match audit_f7_match entry.entity_id with
    | none => none
    | some (inv, base) =>
      let expected_uid := s!"inverter_{inv}_{base}"
      if entry.unique_id ≠ expected_uid then none
      else
        let new_eid := s!"sensor.gadi_inverters_inverter_{inv}_{base}"
        match (by_id registry).lookup new_eid with
        | some other =>
          if other.entity_id ≠ entry.entity_id then none
          else some { old := entry.entity_id, new := new_eid }
        | none => some { old := entry.entity_id, new := new_eid }

/-- `build_audit_f7_renames(registry, prefixes=prefixes)`. -/
def build_audit_f7_renames (registry : List RegistryEntry) (prefixes : List String) : List Rename :=
  (registry.filterMap (audit_f7_rename registry prefixes)).mergeSort fun r r' => r.old ≤ r'.old

/-! ## What is proposed -/

/-- The id that the entry of an inverter should have. -/
def canonical_entity_id (e : RegistryEntry) : String := "sensor.gadi_inverters_" ++ e.unique_id

/-- A proposal for an entry of the registry: a stray `_3` is taken off, which leaves its
canonical id, and that is free. -/
structure Proposed (registry : List RegistryEntry) (rn : Rename) (entry : RegistryEntry) : Prop where
  old : rn.old = entry.entity_id
  suffix : rn.old = rn.new ++ "_3"
  new : rn.new = canonical_entity_id entry
  free : rn.new ∉ ids registry

section

variable {registry : List RegistryEntry} {prefixes : List String} {entry : RegistryEntry}
  {rn : Rename} {entity_id inv base : String}

/-- In a line, the group ends where `_3` starts. -/
theorem audit_f7_base_eq_some {tail group : List Char} (h : audit_f7_base tail = some group)
    (hline : '\n' ∉ tail) : tail = group ++ ['_', '3'] := by
  have hlast : tail.getLast? ≠ some '\n' := fun hend => hline (List.mem_of_getLast? hend)
  unfold audit_f7_base at h
  dsimp only at h
  rw [if_neg hlast] at h
  split_ifs at h with hmatch
  rw [← Option.some.inj h, ← hmatch.1, List.take_append_drop]

theorem audit_f7_match_eq_some (h : audit_f7_match entity_id = some (inv, base))
    (hline : '\n' ∉ entity_id.toList) :
    entity_id = "sensor.gadi_inverters_inverter_" ++ inv ++ "_" ++ base ++ "_3" := by
  obtain ⟨rest, hrest, h⟩ := Option.bind_eq_some_iff.mp h
  have heid := Text.eq_append_of_after hrest
  split at h
  case h_2 => cases h
  case h_1 c tail htail =>
    split_ifs at h
    obtain ⟨group, hgroup, h⟩ := Option.bind_eq_some_iff.mp h
    cases h
    have hshort : '\n' ∉ tail := by
      intro hmem
      apply hline
      rw [heid, String.toList_append, htail]
      simp [hmem]
    rw [heid, ← String.toList_inj]
    simp [htail, audit_f7_base_eq_some hgroup hshort]

/-- The proposed id is the device and the canonical unique id. -/
theorem canonical_of_inverter (inv base : String) :
    "sensor.gadi_inverters_inverter_" ++ inv ++ "_" ++ base =
      "sensor.gadi_inverters_" ++ ("inverter_" ++ inv ++ "_" ++ base) := by
  have hassoc : ∀ a b x y z : String, a ++ b ++ x ++ y ++ z = a ++ (b ++ x ++ y ++ z) := by
    simp only [String.append_assoc, implies_true]
  have hhead : "sensor.gadi_inverters_inverter_" = "sensor.gadi_inverters_" ++ "inverter_" := by simp
  calc "sensor.gadi_inverters_inverter_" ++ inv ++ "_" ++ base =
        "sensor.gadi_inverters_" ++ "inverter_" ++ inv ++ "_" ++ base :=
        congrArg (· ++ inv ++ "_" ++ base) hhead
    _ = "sensor.gadi_inverters_" ++ ("inverter_" ++ inv ++ "_" ++ base) := hassoc _ _ _ _ _

theorem proposed_of_audit_f7_rename (h : audit_f7_rename registry prefixes entry = some rn)
    (hline : '\n' ∉ entry.entity_id.toList) : Proposed registry rn entry := by
  unfold audit_f7_rename at h
  split_ifs at h
  cases hmatch : audit_f7_match entry.entity_id with
  | none =>
    rw [hmatch] at h
    cases h
  | some groups =>
    obtain ⟨inv, base⟩ := groups
    rw [hmatch] at h
    dsimp only at h
    split_ifs at h with huid
    have heid := audit_f7_match_eq_some hmatch hline
    have hsuffix : entry.entity_id = s!"sensor.gadi_inverters_inverter_{inv}_{base}" ++ "_3" := heid
    have hnew : s!"sensor.gadi_inverters_inverter_{inv}_{base}" = canonical_entity_id entry :=
      (canonical_of_inverter inv base).trans
        (congrArg ("sensor.gadi_inverters_" ++ ·) (not_not.mp huid).symm)
    generalize s!"sensor.gadi_inverters_inverter_{inv}_{base}" = new_eid at h hsuffix hnew
    cases hother : (by_id registry).lookup new_eid with
    | none =>
      rw [hother] at h
      cases h
      exact ⟨rfl, hsuffix, hnew, lookup_by_id_eq_none.mp hother⟩
    | some other =>
      have hne : other.entity_id ≠ entry.entity_id := by
        rw [entity_id_of_lookup hother, hsuffix]
        intro heq
        have hlength := congrArg String.length heq
        rw [String.length_append] at hlength
        exact absurd hlength (by simp)
      rw [hother] at h
      dsimp only at h
      rw [if_pos hne] at h
      cases h

/-- Every rename that is proposed is one for an entry of the registry. -/
theorem exists_proposed (hlines : ∀ id ∈ ids registry, '\n' ∉ id.toList)
    (hrn : rn ∈ build_audit_f7_renames registry prefixes) :
    ∃ entry ∈ registry, Proposed registry rn entry := by
  rw [build_audit_f7_renames, (List.mergeSort_perm _ _).mem_iff, List.mem_filterMap] at hrn
  obtain ⟨entry, hentry, hrename⟩ := hrn
  have hline := hlines entry.entity_id (List.mem_map_of_mem hentry)
  exact ⟨entry, hentry, proposed_of_audit_f7_rename hrename hline⟩

/-- No entry is proposed for twice. -/
theorem nodup_map_old (hdistinct : (ids registry).Nodup)
    (hlines : ∀ id ∈ ids registry, '\n' ∉ id.toList) :
    ((build_audit_f7_renames registry prefixes).map Rename.old).Nodup := by
  have hperm := (List.mergeSort_perm (registry.filterMap (audit_f7_rename registry prefixes))
    fun r r' => r.old ≤ r'.old).map Rename.old
  refine hperm.nodup_iff.mpr ?_
  have hpairs : registry.Pairwise fun e e' => e.entity_id ≠ e'.entity_id :=
    List.pairwise_map.mp hdistinct
  rw [List.Nodup, List.pairwise_map, List.pairwise_filterMap]
  refine hpairs.imp_of_mem ?_
  intro e e' he he' hne rn hrn rn' hrn'
  rw [(proposed_of_audit_f7_rename hrn (hlines _ (List.mem_map_of_mem he))).old,
    (proposed_of_audit_f7_rename hrn' (hlines _ (List.mem_map_of_mem he'))).old]
  exact hne

/-- No two of the proposed ids are alike. -/
theorem nodup_map_new (hdistinct : (ids registry).Nodup)
    (hlines : ∀ id ∈ ids registry, '\n' ∉ id.toList) :
    ((build_audit_f7_renames registry prefixes).map Rename.new).Nodup := by
  have hold := @nodup_map_old registry prefixes hdistinct hlines
  have hsuffix : (build_audit_f7_renames registry prefixes).map Rename.old =
      ((build_audit_f7_renames registry prefixes).map Rename.new).map (· ++ "_3") := by
    rw [List.map_map]
    refine List.map_congr_left fun rn hrn => ?_
    obtain ⟨entry, -, hproposed⟩ := exists_proposed hlines hrn
    exact hproposed.suffix
  rw [hsuffix] at hold
  exact hold.of_map _

theorem domain_of_append (tail : String) : domain_of ("sensor.gadi_inverters_" ++ tail) = "sensor" := by
  simp [domain_of]

/-- Each proposal passes the check on its own. -/
theorem Proposed.renameable (h : Proposed registry rn entry) (hentry : entry ∈ registry) :
    Renameable registry rn := by
  have hnew : domain_of rn.new = "sensor" :=
    (congrArg domain_of h.new).trans (domain_of_append entry.unique_id)
  have hlonger : rn.old = "sensor.gadi_inverters_" ++ (entry.unique_id ++ "_3") :=
    calc rn.old = rn.new ++ "_3" := h.suffix
      _ = canonical_entity_id entry ++ "_3" := congrArg (· ++ "_3") h.new
      _ = "sensor.gadi_inverters_" ++ (entry.unique_id ++ "_3") := String.append_assoc
  have hold : domain_of rn.old = "sensor" :=
    (congrArg domain_of hlonger).trans (domain_of_append (entry.unique_id ++ "_3"))
  have hmem : rn.old ∈ ids registry := by
    rw [h.old]
    exact List.mem_map_of_mem hentry
  exact ⟨by rw [hold]; decide, hold.trans hnew.symm, hmem, h.free⟩

/-! ## Any order of the proposals -/

/-- The registry with the canonical id for the entries whose ids are among `olds`. -/
def with_canonical_ids (olds : List String) (registry : List RegistryEntry) : List RegistryEntry :=
  registry.map fun e =>
    if e.entity_id ∈ olds then { e with entity_id := canonical_entity_id e } else e

variable {items : List PlanItem}

/-- An item that is made first is one entry more with its canonical id. -/
theorem with_canonical_ids_renamed {item : PlanItem} {olds : List String}
    (hnew : item.new ∉ olds)
    (hcanonical : ∀ e ∈ registry, e.entity_id = item.old → item.new = canonical_entity_id e) :
    with_canonical_ids olds (renamed registry item.old item.new) =
      with_canonical_ids (item.old :: olds) registry := by
  rw [with_canonical_ids, renamed, List.map_map, with_canonical_ids]
  refine List.map_congr_left fun e he => ?_
  rw [Function.comp_apply]
  by_cases heq : e.entity_id = item.old
  · rw [if_pos heq, if_neg hnew, if_pos (heq ▸ List.mem_cons_self), ← hcanonical e he heq]
  · rw [if_neg heq]
    simp only [List.mem_cons, heq, false_or]

/-- What is applied in full leaves the canonical ids, whatever the order of the items. -/
theorem registry_of_carriedOut {refusal : String} {applied : Applied}
    (h : CarriedOut applied.registry items)
    (hnews : ∀ item ∈ items, ∀ item' ∈ items, item.new ≠ item'.old)
    (hcanonical : ∀ item ∈ items, ∀ e ∈ applied.registry, e.entity_id = item.old →
      item.new = canonical_entity_id e) :
    (items.foldl (apply_item refusal) applied).registry =
      with_canonical_ids (items.map PlanItem.old) applied.registry := by
  induction items generalizing applied with
  | nil => simp [with_canonical_ids]
  | cons item items ih =>
    obtain ⟨registry', hupdate, hrest⟩ := h
    obtain ⟨-, rfl⟩ := update_eq_some_iff.mp hupdate
    have hitem : apply_item refusal applied item =
        { applied with registry := renamed applied.registry item.old item.new,
                       n_ok := applied.n_ok + 1 } := by
      rw [apply_item, hupdate]
    have hother : ∀ item' ∈ items, item.new ≠ item'.old := fun item' hitem' =>
      hnews item List.mem_cons_self item' (List.mem_cons_of_mem _ hitem')
    rw [List.foldl_cons, hitem, List.map_cons]
    rw [ih hrest (fun i hi i' hi' => hnews i (List.mem_cons_of_mem _ hi) i' (List.mem_cons_of_mem _ hi'))]
    · apply with_canonical_ids_renamed
      · intro hmem
        obtain ⟨item', hitem', heq⟩ := List.mem_map.mp hmem
        exact hother item' hitem' heq.symm
      · exact hcanonical item List.mem_cons_self
    · intro item' hitem' e he heq
      obtain ⟨e₀, he₀, rfl⟩ := List.mem_map.mp he
      by_cases hold : e₀.entity_id = item.old
      · rw [if_pos hold] at heq
        exact absurd heq (hother item' hitem')
      · rw [if_neg hold] at heq ⊢
        exact hcanonical item' (List.mem_cons_of_mem _ hitem') e₀ he₀ heq

/-- The items of a plan are about its renames. -/
theorem map_validate_renames (repr : String → String) (renames : List Rename) :
    (validate_renames repr renames registry).map PlanItem.old = renames.map Rename.old ∧
      (validate_renames repr renames registry).map PlanItem.new = renames.map Rename.new := by
  rw [validate_renames, List.map_map, List.map_map]
  exact ⟨List.map_congr_left fun rn _ => (validate_rename_ids repr rn).1,
    List.map_congr_left fun rn _ => (validate_rename_ids repr rn).2⟩

/-- What is proposed is free, and what is free is not a source. -/
theorem new_ne_old {rn' : Rename} (hlines : ∀ id ∈ ids registry, '\n' ∉ id.toList)
    (hrn : rn ∈ build_audit_f7_renames registry prefixes)
    (hrn' : rn' ∈ build_audit_f7_renames registry prefixes) : rn.new ≠ rn'.old := by
  obtain ⟨entry, -, hproposed⟩ := exists_proposed hlines hrn
  obtain ⟨entry', hentry', hproposed'⟩ := exists_proposed hlines hrn'
  exact (ne_of_mem_of_not_mem (hproposed'.renameable hentry').2.2.1 hproposed.free).symm

/-- The items of the plan can be applied in any order, which leaves the same registry. -/
theorem applied_in_any_order (repr : String → String) (refusal : String)
    (hdistinct : (ids registry).Nodup) (hlines : ∀ id ∈ ids registry, '\n' ∉ id.toList)
    (hperm : items.Perm
      (validate_renames repr (build_audit_f7_renames registry prefixes) registry)) :
    (apply refusal registry items).failures = [] ∧
      (apply refusal registry items).registry =
        with_canonical_ids ((build_audit_f7_renames registry prefixes).map Rename.old) registry := by
  obtain ⟨holds, hnews⟩ :=
    @map_validate_renames registry repr (build_audit_f7_renames registry prefixes)
  have hitem : ∀ item ∈ items, ∃ rn ∈ build_audit_f7_renames registry prefixes,
      item.old = rn.old ∧ item.new = rn.new := by
    intro item hmem
    obtain ⟨rn, hrn, rfl⟩ := List.mem_map.mp (hperm.mem_iff.mp hmem)
    exact ⟨rn, hrn, validate_rename_ids repr rn⟩
  have hcarried : CarriedOut registry items := by
    refine (carriedOut_iff ?_).mpr ⟨?_, ?_⟩
    · intro item hmem
      obtain ⟨rn, hrn, hitem_old, hitem_new⟩ := hitem item hmem
      obtain ⟨entry, hentry, hproposed⟩ := exists_proposed hlines hrn
      rw [hitem_old, hitem_new]
      exact (hproposed.renameable hentry).2.2
    · rw [(hperm.map _).nodup_iff, holds]
      exact nodup_map_old hdistinct hlines
    · rw [(hperm.map _).nodup_iff, hnews]
      exact nodup_map_new hdistinct hlines
  refine ⟨((foldl_apply_item_iff rfl).mpr hcarried).1, ?_⟩
  refine (registry_of_carriedOut hcarried ?_ ?_).trans ?_
  · intro item hmem item' hmem'
    obtain ⟨rn, hrn, -, hitem_new⟩ := hitem item hmem
    obtain ⟨rn', hrn', hitem_old, -⟩ := hitem item' hmem'
    rw [hitem_new, hitem_old]
    exact new_ne_old hlines hrn hrn'
  · intro item hmem e he heq
    obtain ⟨rn, hrn, hitem_old, hitem_new⟩ := hitem item hmem
    obtain ⟨entry, hentry, hproposed⟩ := exists_proposed hlines hrn
    have hsame : e = entry := by
      refine List.inj_on_of_nodup_map hdistinct he hentry ?_
      rw [heq, hitem_old, hproposed.old]
    rw [hitem_new, hsame]
    exact hproposed.new
  · have hmem : ∀ id, id ∈ items.map PlanItem.old ↔
        id ∈ (build_audit_f7_renames registry prefixes).map Rename.old := by
      intro id
      rw [← holds]
      exact (hperm.map PlanItem.old).mem_iff
    simp only [with_canonical_ids, hmem]

end

/-- The proposals all pass, get in each other's way nowhere, and applied in any order leave
the same registry, with distinct ids and a canonical one for each entry that was renamed. -/
theorem audit_f7_plan_conflict_free (repr : String → String) (refusal : String)
    (registry : List RegistryEntry) (prefixes : List String) (hdistinct : (ids registry).Nodup)
    (hlines : ∀ id ∈ ids registry, '\n' ∉ id.toList) :
    let plan := build_audit_f7_renames registry prefixes
    (∀ item ∈ validate_renames repr plan registry, item.status = .ok) ∧
      (plan.map Rename.new).Nodup ∧ (∀ rn ∈ plan, rn.new ∉ ids registry) ∧
      (∀ rn ∈ plan, ∀ rn' ∈ plan, rn.new ≠ rn'.old) ∧
      ∀ items, items.Perm (validate_renames repr plan registry) →
        (apply refusal registry items).failures = [] ∧
          (apply refusal registry items).registry =
            with_canonical_ids (plan.map Rename.old) registry ∧
          (ids (apply refusal registry items).registry).Nodup := by
  intro plan
  refine ⟨?_, nodup_map_new hdistinct hlines, ?_, ?_, ?_⟩
  · rw [validate_renames, List.forall_mem_map]
    intro rn hrn
    obtain ⟨entry, hentry, hproposed⟩ := exists_proposed hlines hrn
    exact of_decide_eq_true ((validate_rename_ok_iff repr rn).mpr (hproposed.renameable hentry))
  · intro rn hrn
    obtain ⟨entry, -, hproposed⟩ := exists_proposed hlines hrn
    exact hproposed.free
  · exact fun rn hrn rn' hrn' => new_ne_old hlines hrn hrn'
  · intro items hperm
    obtain ⟨hfailures, hregistry⟩ := applied_in_any_order repr refusal hdistinct hlines hperm
    exact ⟨hfailures, hregistry, (foldl_apply_item_keeps hdistinct).1⟩

/-- A registry in which `power_3` and `power_3_3` are both there. -/
def chained_registry : List RegistryEntry :=
  [⟨"sensor.gadi_inverters_inverter_1_power_3", "inverter_1_power"⟩,
    ⟨"sensor.gadi_inverters_inverter_1_power_3_3", "inverter_1_power_3"⟩,
    ⟨"sensor.gadi_inverters_inverter_2_power_3", "inverter_2_power"⟩]

theorem audit_f7_plan_conflict_free_chained :
    (build_audit_f7_renames chained_registry AUDIT_F7_PREFIXES).length = 2 ∧
      ∀ item ∈ validate_renames id (build_audit_f7_renames chained_registry AUDIT_F7_PREFIXES)
        chained_registry, item.status = .ok := by
  refine ⟨?_, (audit_f7_plan_conflict_free id "" chained_registry AUDIT_F7_PREFIXES (by decide)
    (by decide +kernel)).1⟩
  rw [build_audit_f7_renames, List.length_mergeSort]
  decide +kernel

end tools.rename_ha_entities
