import InverterBridge.Tools.CleanupOrphanDiscoveries

open Python

namespace tools.cleanup_orphan_discoveries

/-! ## Chains of digit groups -/

section chains

variable (is_digit : Char → Bool)

/-- What `\d` matches is neither an underscore nor a line break nor a letter of ASCII. -/
structure Digits : Prop where
  underscore : is_digit '_' = false
  line_break : is_digit '\n' = false
  letter : ∀ c : Char, c.isAlpha = true → is_digit c = false

/-- One or more digits. -/
def Number (digits : List Char) : Prop := digits ≠ [] ∧ ∀ c ∈ digits, is_digit c = true

/-- Groups of an underscore and one or more digits. -/
def Groups (s : List Char) : Prop :=
  ∃ numbers : List (List Char), (∀ number ∈ numbers, Number is_digit number) ∧
    s = numbers.flatMap fun number => '_' :: number

/-- A chain of such groups, at least one. -/
def Chain (s : List Char) : Prop := s ≠ [] ∧ Groups is_digit s

/-- `s` ends in a chain. -/
def HasTail (s : List Char) : Prop := ∃ base tail, s = base ++ tail ∧ Chain is_digit tail

end chains

section

variable {is_digit : Char → Bool} {s t base tail : List Char}

theorem Groups.append (hs : Groups is_digit s) (ht : Groups is_digit t) :
    Groups is_digit (s ++ t) := by
  obtain ⟨numbers, hnumbers, rfl⟩ := hs
  obtain ⟨numbers', hnumbers', rfl⟩ := ht
  refine ⟨numbers ++ numbers', ?_, List.flatMap_append.symm⟩
  intro number hnumber
  obtain h | h := List.mem_append.mp hnumber
  · exact hnumbers number h
  · exact hnumbers' number h

theorem Groups.nil : Groups is_digit [] := ⟨[], nofun, rfl⟩

/-- A chain starts with an underscore and a digit. -/
theorem Chain.exists_head (h : Chain is_digit s) :
    ∃ c cs, s = '_' :: c :: cs ∧ is_digit c = true := by
  obtain ⟨hne, numbers, hnumbers, rfl⟩ := h
  cases numbers with
  | nil => exact absurd rfl hne
  | cons number numbers =>
    obtain ⟨hnumber, hdigits⟩ := hnumbers number List.mem_cons_self
    cases number with
    | nil => exact absurd rfl hnumber
    | cons c cs => exact ⟨c, _, rfl, hdigits c List.mem_cons_self⟩

/-- Digits of a number under way, then groups. -/
def Rest (is_digit : Char → Bool) (s : List Char) : Prop :=
  ∃ digits groups, (∀ c ∈ digits, is_digit c = true) ∧ Groups is_digit groups ∧ s = digits ++ groups

theorem Rest.cons {c : Char} (hc : is_digit c = true) (h : Rest is_digit s) :
    Rest is_digit (c :: s) := by
  obtain ⟨digits, groups, hdigits, hgroups, rfl⟩ := h
  exact ⟨c :: digits, groups, List.forall_mem_cons.mpr ⟨hc, hdigits⟩, hgroups, rfl⟩

/-- An underscore and a digit, then the rest of the number and groups, are groups. -/
theorem Rest.group {c : Char} (hc : is_digit c = true) (h : Rest is_digit s) :
    Groups is_digit ('_' :: c :: s) := by
  obtain ⟨digits, groups, hdigits, hgroups, rfl⟩ := h
  have hnumber : Groups is_digit ('_' :: c :: digits) := by
    refine ⟨[c :: digits], ?_, (List.flatMap_singleton _ _).symm⟩
    intro number hmem
    rw [List.mem_singleton.mp hmem]
    exact ⟨nofun, List.forall_mem_cons.mpr ⟨hc, hdigits⟩⟩
  exact hnumber.append hgroups

/-! ## What the regular expression matches -/

theorem suffix_end_cons {c : Char} (hunderscore : c ≠ '_') (hend : c ≠ '\n' ∨ s ≠ []) :
    suffix_end is_digit (c :: s) = (is_digit c && suffix_end is_digit s) := by
  cases s with
  | nil =>
    have hbreak : c ≠ '\n' := hend.resolve_right (not_not.mpr rfl)
    simp [suffix_end, hbreak]
  | cons d ds => simp [suffix_end, hunderscore]

theorem Digits.ne_underscore (hdigits : Digits is_digit) {c : Char} (hc : is_digit c = true) :
    c ≠ '_' := by
  rintro rfl
  exact Bool.noConfusion (hc.symm.trans hdigits.underscore)

theorem Digits.ne_line_break (hdigits : Digits is_digit) {c : Char} (hc : is_digit c = true) :
    c ≠ '\n' := by
  rintro rfl
  exact Bool.noConfusion (hc.symm.trans hdigits.line_break)

/-- The digits of a number are passed over. -/
theorem suffix_end_append (hdigits : Digits is_digit) {digits : List Char}
    (h : ∀ c ∈ digits, is_digit c = true) :
    suffix_end is_digit (digits ++ s) = suffix_end is_digit s := by
  induction digits with
  | nil => rfl
  | cons c digits ih =>
    obtain ⟨hc, hrest⟩ := List.forall_mem_cons.mp h
    rw [List.cons_append,
      suffix_end_cons (hdigits.ne_underscore hc) (.inl (hdigits.ne_line_break hc)), hc, ih hrest,
      Bool.true_and]

theorem suffix_end_of_groups (hdigits : Digits is_digit) (h : Groups is_digit s) :
    suffix_end is_digit s = true := by
  obtain ⟨numbers, hnumbers, rfl⟩ := h
  induction numbers with
  | nil => rfl
  | cons number numbers ih =>
    obtain ⟨⟨hne, hnumber⟩, hrest⟩ := List.forall_mem_cons.mp hnumbers
    cases number with
    | nil => exact absurd rfl hne
    | cons c digits =>
      obtain ⟨hc, htail⟩ := List.forall_mem_cons.mp hnumber
      rw [List.flatMap_cons, List.cons_append, List.cons_append, suffix_end, hc, Bool.true_and,
        suffix_end_append hdigits htail]
      exact ih hrest

/-- What the expression matches up to an underscore is the rest of a number, then groups. -/
theorem rest_of_suffix_end (hdigits : Digits is_digit) {s t : List Char}
    (h : suffix_end is_digit (s ++ '_' :: t) = true) : Rest is_digit s := by
  match s with
  | [] => exact ⟨[], [], nofun, .nil, rfl⟩
  | c :: cs =>
    by_cases hunderscore : c = '_'
    · subst hunderscore
      cases cs with
      | nil =>
        rw [List.singleton_append, suffix_end, hdigits.underscore] at h
        cases h
      | cons c cs =>
        rw [List.cons_append, List.cons_append, suffix_end, Bool.and_eq_true] at h
        exact ⟨[], _, nofun, (rest_of_suffix_end hdigits h.2).group h.1, rfl⟩
    · have hne : cs ++ '_' :: t ≠ [] := List.append_ne_nil_of_right_ne_nil cs (List.cons_ne_nil _ _)
      rw [List.cons_append, suffix_end_cons hunderscore (.inr hne), Bool.and_eq_true] at h
      exact (rest_of_suffix_end hdigits h.2).cons h.1
termination_by s.length

theorem Chain.collision_suffix (hdigits : Digits is_digit) (h : Chain is_digit s) :
    collision_suffix is_digit s = true := by
  obtain ⟨c, cs, rfl, hc⟩ := h.exists_head
  have hend := suffix_end_of_groups hdigits h.2
  rw [suffix_end] at hend
  exact hend

/-- Where the expression matches in front of a chain, there is a chain. -/
theorem chain_of_collision_suffix (hdigits : Digits is_digit) (htail : Chain is_digit tail)
    (hne : base ≠ []) (h : collision_suffix is_digit (base ++ tail) = true) :
    Chain is_digit base := by
  obtain ⟨d, ds, rfl, hd⟩ := htail.exists_head
  refine ⟨hne, ?_⟩
  match base with
  | [] => exact absurd rfl hne
  | [c] =>
    by_cases hunderscore : c = '_'
    · rw [hunderscore, List.singleton_append, collision_suffix, hdigits.underscore] at h
      cases h
    · rw [List.singleton_append, collision_suffix] at h
      · cases h
      · exact fun _ _ heq => hunderscore (List.cons.inj heq).1
  | c :: c' :: cs =>
    by_cases hunderscore : c = '_'
    · rw [hunderscore, List.cons_append, List.cons_append, collision_suffix, Bool.and_eq_true] at h
      rw [hunderscore]
      exact (rest_of_suffix_end hdigits h.2).group h.1
    · rw [List.cons_append, collision_suffix] at h
      · cases h
      · exact fun _ _ heq => hunderscore (List.cons.inj heq).1

/-- The chain behind a base without one is what is stripped. -/
theorem before_suffix_append (hdigits : Digits is_digit) (htail : Chain is_digit tail)
    (hbase : ¬ HasTail is_digit base) :
    before_suffix is_digit (base ++ tail) = some base := by
  induction base with
  | nil =>
    obtain ⟨c, cs, rfl, -⟩ := htail.exists_head
    rw [List.nil_append, before_suffix, if_pos (htail.collision_suffix hdigits)]
  | cons c cs ih =>
    have hnot : ¬ collision_suffix is_digit (c :: cs ++ tail) = true := by
      intro h
      exact hbase ⟨[], _, rfl, chain_of_collision_suffix hdigits htail nofun h⟩
    have hrest : ¬ HasTail is_digit cs := by
      rintro ⟨base, tail, rfl, hchain⟩
      exact hbase ⟨c :: base, tail, rfl, hchain⟩
    rw [List.cons_append, before_suffix, ← List.cons_append, if_neg hnot, ih hrest]
    rfl

/-- Every text is a base that has no chain behind it, and groups. -/
theorem exists_base (is_digit : Char → Bool) (s : List Char) :
    ∃ base tail, s = base ++ tail ∧ ¬ HasTail is_digit base ∧ Groups is_digit tail := by
  by_cases h : HasTail is_digit s
  · obtain ⟨front, chain, hs, hchain⟩ := h
    have hshorter : front.length < s.length := by
      rw [hs, List.length_append]
      have := List.length_pos_iff.mpr hchain.1
      omega
    obtain ⟨base, tail, rfl, hbase, htail⟩ := exists_base is_digit front
    exact ⟨base, tail ++ chain, by rw [hs, List.append_assoc], hbase, htail.append hchain.2⟩
  · exact ⟨s, [], s.append_nil.symm, h, .nil⟩
termination_by s.length

/-- Without a match there is no chain at the end. -/
theorem not_hasTail_of_before_suffix (hdigits : Digits is_digit)
    (h : before_suffix is_digit s = none) : ¬ HasTail is_digit s := by
  obtain ⟨base, tail, rfl, hbase, htail⟩ := exists_base is_digit s
  by_cases hnone : tail = []
  · rw [hnone, List.append_nil]
    exact hbase
  · cases (before_suffix_append hdigits ⟨hnone, htail⟩ hbase).symm.trans h

/-! ## Copies of canonical entities -/

/-- A chain completes the v1 prefix behind one text only. -/
theorem v1_prefix_append_iff (hdigits : Digits is_digit) (htail : Chain is_digit tail)
    (hbase : ¬ ORPHAN_V1_PREFIX.toList <+: base) :
    ORPHAN_V1_PREFIX.toList <+: base ++ tail ↔ base = "gadi_inverters".toList := by
  obtain ⟨d, ds, rfl, hd⟩ := htail.exists_head
  constructor
  · rintro ⟨rest, hrest⟩
    obtain ⟨more, rfl, -⟩ | ⟨more, hsplit, hmore⟩ := List.append_eq_append_iff.mp hrest
    · exact absurd (List.prefix_append _ _) hbase
    cases more with
    | nil => exact absurd ⟨[], by rw [hsplit, List.append_nil, List.append_nil]⟩ hbase
    | cons c cs =>
      obtain ⟨rfl, hcs⟩ := List.cons.inj hmore
      cases cs with
      | nil =>
        have hlast : "gadi_inverters".toList ++ ['_'] = base ++ ['_'] := hsplit
        exact (List.append_cancel_right hlast).symm
      | cons c cs =>
        obtain ⟨rfl, -⟩ := List.cons.inj hcs
        have hmem : d ∈ ORPHAN_V1_PREFIX.toList := by
          rw [hsplit]
          simp
        have hletters : ∀ c ∈ ORPHAN_V1_PREFIX.toList, c = '_' ∨ c.isAlpha = true := by
          simp [ORPHAN_V1_PREFIX]
        obtain h | h := hletters d hmem
        · exact absurd h (hdigits.ne_underscore hd)
        · exact absurd hd (Bool.eq_false_iff.mp (hdigits.letter d h))
  · rintro rfl
    exact ⟨d :: ds, rfl⟩

theorem categorize_eq_canonical_iff {d : Discovery} {spec : CanonicalSpec} :
    categorize is_digit d spec = .CANONICAL ↔ .str d.unique_id ∈ spec.of_component d.component := by
  unfold categorize
  dsimp only
  split_ifs with h <;> simp [h]

/-- How a discovery is categorised whose unique id is a base without a chain, and a chain. -/
theorem categorize_of_chain (hdigits : Digits is_digit) {d : Discovery} (spec : CanonicalSpec)
    {base tail : String} (huid : d.unique_id = base ++ tail) (htail : Chain is_digit tail.toList)
    (hbase : ¬ HasTail is_digit base.toList)
    (hcanonical : .str d.unique_id ∉ spec.of_component d.component)
    (hv1 : ¬ ORPHAN_V1_PREFIX.toList <+: d.unique_id.toList) :
    categorize is_digit d spec = .ORPHAN_COLLISION ↔ .str base ∈ spec.of_component d.component := by
  have hstrip : strip_collision_suffix is_digit d.unique_id = (base, true) := by
    rw [strip_collision_suffix, huid, String.toList_append,
      before_suffix_append hdigits htail hbase]
    dsimp only
    rw [String.ofList_toList]
  have hne : base ≠ d.unique_id := by
    intro heq
    have hlist := congrArg String.toList (heq.trans huid)
    rw [String.toList_append] at hlist
    exact htail.1 (List.append_right_eq_self.mp hlist.symm)
  unfold categorize
  dsimp only
  rw [if_neg hcanonical, if_neg (mt Text.isSome_after.mp hv1), hstrip]
  dsimp only
  split_ifs with h hstatic
  · exact iff_of_true rfl h.2.2
  · exact iff_of_false nofun fun hmem => h ⟨rfl, hne, hmem⟩
  · exact iff_of_false nofun fun hmem => h ⟨rfl, hne, hmem⟩

/-- Whether a text is a copy that is seen through: it has no chain of its own, or one behind a
base that is canonical as well. -/
def Transparent (is_digit : Char → Bool) (canonical : List Scalar) (c : String) : Prop :=
  ¬ HasTail is_digit c.toList ∨ ∃ base tail : String, c = base ++ tail ∧
    ¬ HasTail is_digit base.toList ∧ Chain is_digit tail.toList ∧ .str base ∈ canonical

/-- The base of a canonical text is canonical when the text is transparent, and only then. -/
theorem transparent_iff {canonical : List Scalar} {c : String} (hc : .str c ∈ canonical)
    {base tail : String} (hsplit : c = base ++ tail) (hbase : ¬ HasTail is_digit base.toList)
    (htail : Groups is_digit tail.toList) (hdigits : Digits is_digit) :
    Transparent is_digit canonical c ↔ .str base ∈ canonical := by
  by_cases hnone : tail.toList = []
  · have heq : c = base := by rw [hsplit, String.toList_eq_nil_iff.mp hnone, String.append_empty]
    exact iff_of_true (.inl (heq ▸ hbase)) (heq ▸ hc)
  constructor
  · rintro (hown | ⟨base', tail', hsplit', hbase', htail', hcanonical⟩)
    · exact absurd ⟨_, _, by rw [hsplit, String.toList_append], hnone, htail⟩ hown
    · have h := before_suffix_append hdigits htail' hbase'
      rw [← String.toList_append, ← hsplit', hsplit, String.toList_append,
        before_suffix_append hdigits ⟨hnone, htail⟩ hbase] at h
      rw [String.toList_inj.mp (Option.some.inj h)]
      exact hcanonical
  · intro hcanonical
    exact .inr ⟨base, tail, hsplit, hbase, ⟨hnone, htail⟩, hcanonical⟩

/-- A copy of a canonical entity is recognised when it is canonical itself, or when it does not
fall under the v1 prefix and the entity it copies is seen through. -/
theorem collision_copy_recognised_iff (hdigits : Digits is_digit) (d : Discovery)
    (spec : CanonicalSpec) {c s : String} (hc : .str c ∈ spec.of_component d.component)
    (hv1 : ¬ ORPHAN_V1_PREFIX.toList <+: c.toList) (hs : Chain is_digit s.toList)
    (huid : d.unique_id = c ++ s) :
    categorize is_digit d spec = .CANONICAL ∨ categorize is_digit d spec = .ORPHAN_COLLISION ↔
      .str (c ++ s) ∈ spec.of_component d.component ∨
        c ≠ "gadi_inverters" ∧ Transparent is_digit (spec.of_component d.component) c := by
  rw [categorize_eq_canonical_iff, ← huid]
  by_cases hcanonical : .str d.unique_id ∈ spec.of_component d.component
  · exact iff_of_true (.inl hcanonical) (.inl hcanonical)
  rw [or_iff_right hcanonical, or_iff_right hcanonical]
  have hbegins : ORPHAN_V1_PREFIX.toList <+: d.unique_id.toList ↔ c = "gadi_inverters" := by
    rw [huid, String.toList_append, v1_prefix_append_iff hdigits hs hv1, String.toList_inj]
  by_cases hgadi : c = "gadi_inverters"
  · have hcategory : categorize is_digit d spec = .ORPHAN_V1 := by
      rw [categorize, if_neg hcanonical, if_pos (Text.isSome_after.mpr (hbegins.mpr hgadi))]
    rw [hcategory]
    exact iff_of_false nofun fun h => h.1 hgadi
  rw [and_iff_right hgadi]
  obtain ⟨base, tail, hsplit, hbase, htail⟩ := exists_base is_digit c.toList
  have hc' : c = String.ofList base ++ String.ofList tail := by
    rw [← String.toList_inj, String.toList_append, String.toList_ofList, String.toList_ofList, hsplit]
  have huid' : d.unique_id = String.ofList base ++ (String.ofList tail ++ s) := by
    rw [huid, hc', String.append_assoc]
  rw [← String.toList_ofList (l := base)] at hbase
  rw [← String.toList_ofList (l := tail)] at htail
  have hchain : Chain is_digit (String.ofList tail ++ s).toList := by
    rw [String.toList_append]
    exact ⟨List.append_ne_nil_of_right_ne_nil _ hs.1, htail.append hs.2⟩
  rw [transparent_iff hc hc' hbase htail hdigits]
  exact categorize_of_chain hdigits spec huid' hchain hbase hcanonical (mt hbegins.mp hgadi)

end

/-- The digits of ASCII are digits. -/
theorem digits_isDigit : Digits Char.isDigit where
  underscore := rfl
  line_break := rfl
  letter c hletter := by
    delta Char.isAlpha Char.isUpper Char.isLower at hletter
    simp only [Bool.or_eq_true, Bool.and_eq_true, decide_eq_true_eq] at hletter
    rw [Char.isDigit, Bool.and_eq_false_iff, decide_eq_false_iff_not, decide_eq_false_iff_not]
    simp only [ge_iff_le, UInt32.le_iff_toNat_le, Char.reduceVal, UInt32.reduceToNat] at hletter ⊢
    omega

/-- One group is a chain. -/
theorem chain_singleton {is_digit : Char → Bool} {number : List Char}
    (h : Number is_digit number) : Chain is_digit ('_' :: number) := by
  refine ⟨List.cons_ne_nil _ _, [number], ?_, (List.flatMap_singleton _ _).symm⟩
  intro other hother
  rw [List.mem_singleton.mp hother]
  exact h

/-- A spec with a numbered entity, and one without a number. -/
def numbered_spec : CanonicalSpec := ⟨[.str "phase_1", .str "total_pv_power"], [], [], []⟩

/-- A sensor that no state topic or device tells more about. -/
def sensor (unique_id : String) : Discovery :=
  ⟨"sensor", "homeassistant/sensor/" ++ unique_id ++ "/config", unique_id, unique_id, "", []⟩

theorem collision_copy_recognised_pv_power :
    categorize Char.isDigit (sensor "total_pv_power_3") numbered_spec = .CANONICAL ∨
      categorize Char.isDigit (sensor "total_pv_power_3") numbered_spec = .ORPHAN_COLLISION := by
  have hcanonical : Scalar.str "total_pv_power" ∈
      numbered_spec.of_component (sensor "total_pv_power_3").component := by decide
  have hv1 : ¬ ORPHAN_V1_PREFIX.toList <+: "total_pv_power".toList := by decide
  have hchain : Chain Char.isDigit "_3".toList :=
    @chain_singleton Char.isDigit ['3'] ⟨by decide, by simp⟩
  have hown : ¬ HasTail Char.isDigit "total_pv_power".toList :=
    not_hasTail_of_before_suffix digits_isDigit (by decide)
  exact (collision_copy_recognised_iff digits_isDigit (sensor "total_pv_power_3") numbered_spec
    hcanonical hv1 hchain rfl).mpr (.inr ⟨by decide, .inl hown⟩)

/-- The copy of a numbered entity is stripped of both numbers and not recognised. -/
theorem numbered_copy_unrelated :
    Scalar.str "phase_1" ∈ numbered_spec.all_sensor_unique_ids ∧
      ¬ ORPHAN_V1_PREFIX.toList <+: "phase_1".toList ∧ Chain Char.isDigit "_2".toList ∧
      (sensor "phase_1_2").unique_id = "phase_1" ++ "_2" ∧
      categorize Char.isDigit (sensor "phase_1_2") numbered_spec = .UNRELATED :=
  ⟨by decide, by decide, @chain_singleton Char.isDigit ['2'] ⟨by decide, by simp⟩, rfl,
    by decide⟩

end tools.cleanup_orphan_discoveries
