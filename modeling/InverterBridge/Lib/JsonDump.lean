import InverterBridge.Lib.Json

/-! JSON dicts as `json.dump` writes them, and that `json.loads` reads them back. -/

namespace Python.Json

/-- A member of a dict, given the text of its value. -/
def dump_member (key : String) (value : List Char) : List Char :=
  '"' :: (key.toList ++ '"' :: ':' :: ' ' :: value)

/-- `json.dumps(d)` of a dict, given the texts of its values. -/
def dump_dict (members : List (String × List Char)) : List Char :=
  '{' :: ([',', ' '].intercalate (members.map fun m => dump_member m.1 m.2) ++ ['}'])

/-- A dict's text has the characters of its keys and values, and its own. -/
theorem not_mem_dump_dict {members : List (String × List Char)} {c : Char}
    (hc : c ∉ ['{', '}', '"', ':', ',', ' '])
    (hmembers : ∀ m ∈ members, c ∉ m.1.toList ∧ c ∉ m.2) : c ∉ dump_dict members := by
  simp only [List.mem_cons, List.not_mem_nil, not_or, or_false] at hc
  obtain ⟨hopen, hclose, hquote, hcolon, hcomma, hspace⟩ := hc
  have hitems : ∀ members : List (String × List Char),
      (∀ m ∈ members, c ∉ m.1.toList ∧ c ∉ m.2) →
      c ∉ [',', ' '].intercalate (members.map fun m => dump_member m.1 m.2) := by
    intro members hmembers
    induction members with
    | nil => exact List.not_mem_nil
    | cons m members ih =>
      rw [List.forall_mem_cons] at hmembers
      have hm : c ∉ dump_member m.1 m.2 := by
        simp [dump_member, hquote, hcolon, hspace, hmembers.1]
      cases members with
      | nil => rwa [List.map_singleton, List.intercalate_singleton]
      | cons next members =>
        rw [List.map_cons, List.map_cons, List.intercalate_cons_cons]
        simp only [List.mem_append, not_or]
        exact ⟨⟨hm, by simp [hcomma, hspace]⟩, ih hmembers.2⟩
  simp only [dump_dict, List.mem_cons, List.mem_append, List.not_mem_nil, not_or, or_false]
  exact ⟨hopen, hitems members hmembers, hclose⟩

/-- A scanner reads `a` off the front of `cs` and leaves `rest`. -/
def Scans {α : Type} (scan : Scanner α) (cs : List Char) (a : α) (rest : List Char) : Prop :=
  (scan cs).map (fun r => (r.1, r.2.1)) = .ok (a, rest)

theorem Scans.exists_eq {α : Type} {scan : Scanner α} {cs rest : List Char} {a : α}
    (h : Scans scan cs a rest) : ∃ hlt, scan cs = .ok (a, ⟨rest, hlt⟩) := by
  unfold Scans at h
  cases hscan : scan cs with
  | error e =>
    rw [hscan] at h
    cases h
  | ok r =>
    obtain ⟨a', rest', hlt⟩ := r
    rw [hscan] at h
    cases h
    exact ⟨hlt, rfl⟩

/-- The text of a number: wherever a dict goes on behind it, it is read as `value`. -/
def NumberText (text : List Char) (value : Value) : Prop :=
  ∀ c rest, c = ',' ∨ c = '}' → read_number (text ++ c :: rest) = .ok (value, c :: rest)

/-- A key that is written as it is. -/
def PlainKey (key : String) : Prop :=
  ∀ c ∈ key.toList, 0x20 ≤ c.toNat ∧ c.toNat < 0xD800 ∧ c ≠ '"' ∧ c ≠ '\\'

-- by the characters of the key: Char has a decision over all of them, too
instance (key : String) : Decidable (PlainKey key) := List.decidableBAll _ _

/-! ## Keys -/

theorem scan_units_plain {cs rest : List Char}
    (hplain : ∀ c ∈ cs, 0x20 ≤ c.toNat ∧ c.toNat < 0xD800 ∧ c ≠ '"' ∧ c ≠ '\\') :
    Scans scan_units (cs ++ '"' :: rest) (cs.map Char.toNat) rest := by
  induction cs with
  | nil => rfl
  | cons c cs ih =>
    rw [List.forall_mem_cons] at hplain
    obtain ⟨⟨hprintable, -, hquote, hbackslash⟩, hrest⟩ := hplain
    obtain ⟨hlt, hscan⟩ := (ih hrest).exists_eq
    rw [Scans, List.cons_append, scan_units]
    · rw [if_neg (Nat.not_lt.mpr hprintable), hscan]
      rfl
    · exact hquote
    · intro a b d e tail hc
      exact absurd hc hbackslash
    · intro d tail hc
      exact absurd hc hbackslash

theorem join_surrogates_plain {units : List Nat} (hplain : ∀ u ∈ units, u < 0xD800) :
    join_surrogates units = units := by
  induction units with
  | nil => rfl
  | cons u units ih =>
    rw [List.forall_mem_cons] at hplain
    cases units with
    | nil => rfl
    | cons v units =>
      rw [join_surrogates, if_neg (by omega), ih hplain.2]

theorem scan_string_plain {key : String} (hkey : PlainKey key) (rest : List Char) :
    Scans scan_string (key.toList ++ '"' :: rest) (key.toList.map Char.toNat) rest := by
  obtain ⟨hlt, hscan⟩ := (@scan_units_plain _ rest hkey).exists_eq
  have hjoin : join_surrogates (key.toList.map Char.toNat) = key.toList.map Char.toNat := by
    apply join_surrogates_plain
    intro u hu
    obtain ⟨c, hc, rfl⟩ := List.mem_map.mp hu
    exact (hkey c hc).2.1
  rw [Scans, scan_string, hscan]
  change Except.ok (join_surrogates _, _) = _
  rw [hjoin]

/-! ## Numbers -/

/-- A number begins with a digit or a minus sign and a digit. -/
theorem digit_of_read_number {cs rest : List Char} {value : Value}
    (h : read_number cs = .ok (value, rest)) :
    ∃ c tail, cs = c :: tail ∧ (c.isDigit ∨ c = '-' ∧ ∃ d tail', tail = d :: tail' ∧ d.isDigit) := by
  have hinteger {cs : List Char} {p : List Char × List Char} (h : integer_part cs = .ok p) :
      ∃ d tail, cs = d :: tail ∧ d.isDigit := by
    unfold integer_part at h
    split at h
    case h_1 tail => exact ⟨'0', tail, rfl, rfl⟩
    case h_2 c tail _ =>
      split_ifs at h with hdigit
      exact ⟨c, tail, rfl, hdigit⟩
    case h_3 => cases h
  unfold read_number at h
  dsimp only at h
  split at h
  case h_1 => cases h
  case h_2 whole rest' hwhole =>
    split at hwhole
    case h_1 cs =>
      obtain ⟨d, tail, rfl, hdigit⟩ := hinteger hwhole
      exact ⟨'-', d :: tail, rfl, .inr ⟨rfl, d, tail, rfl, hdigit⟩⟩
    case h_2 =>
      obtain ⟨d, tail, rfl, hdigit⟩ := hinteger hwhole
      exact ⟨d, tail, rfl, .inl hdigit⟩

theorem not_space_of_isDigit {c : Char} (h : c.isDigit) : is_space c = false := by
  unfold is_space
  simp only [Bool.or_eq_false_iff, decide_eq_false_iff_not]
  refine ⟨⟨⟨?_, ?_⟩, ?_⟩, ?_⟩
  all_goals
    rintro rfl
    cases h

/-- What is read as a number is scanned as one. -/
theorem scans_number {scan_list scan_dict : Scanner Value} {cs rest : List Char} {value : Value}
    (h : read_number cs = .ok (value, rest)) :
    Scans (scan_term scan_list scan_dict) cs value rest ∧ skip_space cs = cs := by
  obtain ⟨c, tail, rfl, hhead⟩ := digit_of_read_number h
  have hnumber : Scans scan_number (c :: tail) value rest := by
    unfold Scans scan_number
    split
    case h_1 e he =>
      rw [h] at he
      cases he
    case h_2 value' rest' hread =>
      rw [h] at hread
      cases hread
      rfl
  have hspace : is_space c = false := by
    obtain hdigit | ⟨rfl, -⟩ := hhead
    · exact not_space_of_isDigit hdigit
    · rfl
  refine ⟨?_, by rw [skip_space, List.dropWhile_cons_of_neg (by simpa using hspace)]⟩
  -- no other term begins with a digit, or with a minus sign and a digit
  have hother {c' : Char} {tail' : List Char} (heq : c :: tail = c' :: tail')
      (hdigit : c'.isDigit = false) (hminus : c' = '-' → ∀ d ds, tail' = d :: ds →
        d.isDigit = false) : False := by
    cases heq
    obtain hc | ⟨rfl, d, ds, rfl, hd⟩ := hhead
    · rw [hdigit] at hc
      cases hc
    · rw [hminus rfl d ds rfl] at hd
      cases hd
  rw [Scans, scan_term]
  · exact hnumber
  all_goals
    intro cs heq
    refine hother heq rfl fun hminus d ds hds => ?_
  case x_9 =>
    cases hds
    rfl
  all_goals exact absurd hminus (by decide)

/-- The digits of an integer: none follows a leading zero. -/
def WholeDigits (whole : List Char) : Prop :=
  whole = ['0'] ∨ ∃ d ds, whole = d :: ds ∧ d ≠ '0' ∧ ∀ c ∈ d :: ds, c.isDigit

theorem takeWhile_append_cons {p : Char → Bool} {ds : List Char} {c : Char} (rest : List Char)
    (hds : ∀ d ∈ ds, p d) (hc : p c = false) :
    (ds ++ c :: rest).takeWhile p = ds ∧ (ds ++ c :: rest).dropWhile p = c :: rest := by
  rw [List.takeWhile_append_of_pos hds, List.dropWhile_append_of_pos hds,
    List.takeWhile_cons_of_neg (by simp [hc]), List.dropWhile_cons_of_neg (by simp [hc]),
    List.append_nil]
  exact ⟨rfl, rfl⟩

theorem integer_part_whole {whole rest : List Char} {c : Char} (hwhole : WholeDigits whole)
    (hc : c.isDigit = false) : integer_part (whole ++ c :: rest) = .ok (whole, c :: rest) := by
  obtain rfl | ⟨d, ds, rfl, hzero, hdigits⟩ := hwhole
  · rfl
  · rw [List.forall_mem_cons] at hdigits
    obtain ⟨htake, hdrop⟩ := takeWhile_append_cons rest hdigits.2 hc
    rw [List.cons_append, integer_part, if_pos hdigits.1, htake, hdrop]
    exact hzero

theorem exponent_of_ne {c : Char} (hc : c ≠ 'e' ∧ c ≠ 'E') (rest : List Char) :
    exponent (c :: rest) = none := by
  have hno : ¬ (c = 'e' ∨ c = 'E') := not_or.mpr hc
  unfold exponent
  split
  case h_4 => rfl
  all_goals
    rename_i heq
    rw [List.cons.injEq] at heq
    rw [← heq.1, if_neg hno]

/-- A minus sign is taken off a number that begins with one. -/
theorem read_number_of_ne {cs : List Char} (hcs : ∀ rest, cs ≠ '-' :: rest) :
    read_number cs =
      match integer_part cs with
      | .error e => .error e
      | .ok (whole, rest) => number_value 1 whole rest := by
  unfold read_number
  split
  rename_i sign cs' heq
  split at heq
  case h_1 rest => exact absurd rfl (hcs rest)
  case h_2 =>
    cases heq
    rfl

theorem whole_ne_minus {whole : List Char} (hwhole : WholeDigits whole) (rest rest' : List Char) :
    whole ++ rest ≠ '-' :: rest' := by
  obtain rfl | ⟨d, ds, rfl, -, hdigits⟩ := hwhole
  · nofun
  · intro heq
    cases heq
    cases hdigits '-' List.mem_cons_self

/-- Digits alone are an integer. -/
theorem numberText_whole {whole : List Char} (hwhole : WholeDigits whole)
    (hlength : whole.length ≤ MAX_STR_DIGITS) :
    NumberText whole (.int (Nat.ofDigitChars 10 whole 0)) := by
  intro c rest hc
  have hbehind : c.isDigit = false ∧ c ≠ '.' ∧ c ≠ 'e' ∧ c ≠ 'E' := by
    obtain rfl | rfl := hc <;> decide
  have hfraction : fraction (c :: rest) = ([], c :: rest) := by
    unfold fraction
    split
    case h_1 heq =>
      cases heq
      exact absurd rfl hbehind.2.1
    case h_2 => rfl
  rw [read_number_of_ne (whole_ne_minus hwhole _), integer_part_whole hwhole hbehind.1]
  dsimp only
  rw [number_value, hfraction]
  dsimp only
  rw [exponent_of_ne hbehind.2.2]
  dsimp only
  rw [if_neg (not_not.mpr rfl), if_neg (Nat.not_lt.mpr hlength), one_mul]

/-- Digits, a point and digits are the float nearest to the decimal number. -/
theorem numberText_decimal {whole decimals : List Char} (hwhole : WholeDigits whole)
    (hne : decimals ≠ []) (hdecimals : ∀ d ∈ decimals, d.isDigit) :
    NumberText (whole ++ '.' :: decimals) (.float (PyFloat.nearest_double
      ((Nat.ofDigitChars 10 (whole ++ decimals) 0 : ℚ) / 10 ^ decimals.length))) := by
  intro c rest hc
  have hbehind : c.isDigit = false ∧ c ≠ '.' ∧ c ≠ 'e' ∧ c ≠ 'E' := by
    obtain rfl | rfl := hc <;> decide
  have hfraction : fraction ('.' :: (decimals ++ c :: rest)) = (decimals, c :: rest) := by
    obtain ⟨htake, hdrop⟩ := takeWhile_append_cons rest hdecimals hbehind.1
    obtain ⟨d, ds, rfl⟩ := List.exists_cons_of_ne_nil hne
    rw [List.cons_append, fraction, if_pos (hdecimals d List.mem_cons_self), ← List.cons_append,
      htake, hdrop]
  rw [List.append_assoc, List.cons_append, read_number_of_ne (whole_ne_minus hwhole _),
    integer_part_whole hwhole rfl]
  dsimp only
  rw [number_value, hfraction]
  dsimp only
  rw [exponent_of_ne hbehind.2.2]
  dsimp only
  rw [if_pos hne]
  push_cast
  rw [one_mul]

/-! ## Dicts -/

/-- White space is skipped in front of what does not begin with it. -/
theorem skip_space_cons_space (cs : List Char) : skip_space (' ' :: cs) = skip_space cs := rfl

theorem skip_space_of_not_space {c : Char} (hc : is_space c = false) (cs : List Char) :
    skip_space (c :: cs) = c :: cs := by
  rw [skip_space, List.dropWhile_cons_of_neg (by simpa using hc)]

/-- A member is scanned when its key and its value are. -/
theorem scans_member {scan : Scanner Value} {written text rest : List Char} {key : PyStr}
    {value : Value} (hkey : Scans scan_string written key (':' :: ' ' :: text))
    (hscan : Scans scan text value rest) (hspace : skip_space text = text) :
    Scans (scan_member scan) ('"' :: written) (key, value) rest := by
  obtain ⟨hlt, hstring⟩ := hkey.exists_eq
  have hbehind : Scans scan (skip_space (' ' :: text)) value rest := by
    rw [skip_space_cons_space, hspace]
    exact hscan
  obtain ⟨hlt', hvalue⟩ := hbehind.exists_eq
  have hcolon : skip_space (':' :: ' ' :: text) = ':' :: ' ' :: text := rfl
  rw [Scans, scan_member, hstring]
  simp only [bind, Except.bind]
  split
  case h_1 after hafter =>
    cases hcolon.symm.trans hafter
    rw [hvalue]
    rfl
  case h_2 hno => exact absurd hcolon (hno _)

section items

variable {α : Type} {closing : Char} {scan : Scanner α}

/-- Joined items begin as the first of them. -/
theorem intercalate_cons_append (separator text : List Char) (texts : List (List Char)) :
    ∃ tail, separator.intercalate (text :: texts) = text ++ tail := by
  cases texts with
  | nil => exact ⟨[], by rw [List.intercalate_singleton, List.append_nil]⟩
  | cons next texts => exact ⟨_, by rw [List.intercalate_cons_cons, List.append_assoc]⟩

/-- The last item is scanned with the closing bracket. -/
theorem scans_items_last {text rest after : List Char} {item : α} (hscan : Scans scan text item rest)
    (hclosed : skip_space rest = closing :: after) :
    Scans (scan_items closing scan) text [item] after := by
  obtain ⟨hlt, hitem⟩ := hscan.exists_eq
  rw [Scans, scan_items, hitem]
  simp only [bind, Except.bind]
  split
  case h_1 c after' hafter =>
    cases hclosed.symm.trans hafter
    rw [if_pos rfl]
    rfl
  case h_2 hnil => cases hclosed.symm.trans hnil

/-- An item in front of a comma is scanned with the items behind it. -/
theorem scans_items_comma (hcomma : closing ≠ ',') {text rest after behind : List Char} {item : α}
    {items : List α} (hscan : Scans scan text item rest) (hnext : skip_space rest = ',' :: after)
    (hrest : Scans (scan_items closing scan) (skip_space after) items behind) :
    Scans (scan_items closing scan) text (item :: items) behind := by
  obtain ⟨hlt, hitem⟩ := hscan.exists_eq
  obtain ⟨hlt', hitems⟩ := hrest.exists_eq
  rw [Scans, scan_items, hitem]
  simp only [bind, Except.bind]
  split
  case h_1 c after' hafter =>
    cases hnext.symm.trans hafter
    rw [if_neg hcomma.symm, if_pos rfl, hitems]
    rfl
  case h_2 hnil => cases hnext.symm.trans hnil

/-- The texts of items, joined by commas, are scanned up to the closing bracket. -/
theorem scans_items (hclosing : is_space closing = false) (hcomma : closing ≠ ',')
    {items : List (List Char × α)} (hne : items ≠ [])
    (hscan : ∀ item ∈ items, ∀ c rest, c = ',' ∨ c = closing →
      Scans scan (item.1 ++ c :: rest) item.2 (c :: rest))
    (hspace : ∀ item ∈ items, ∀ rest, skip_space (item.1 ++ rest) = item.1 ++ rest)
    (rest : List Char) :
    Scans (scan_items closing scan)
      ([',', ' '].intercalate (items.map Prod.fst) ++ closing :: rest) (items.map Prod.snd) rest := by
  induction items with
  | nil => exact absurd rfl hne
  | cons item items ih =>
    rw [List.forall_mem_cons] at hscan hspace
    cases items with
    | nil =>
      have hjoin : [',', ' '].intercalate ([item].map Prod.fst) = item.1 :=
        List.intercalate_singleton
      rw [hjoin]
      exact scans_items_last (hscan.1 closing rest (.inr rfl))
        (skip_space_of_not_space hclosing rest)
    | cons next items =>
      obtain ⟨tail, htail⟩ := intercalate_cons_append [',', ' '] next.1 (items.map Prod.fst)
      have hrest := ih (List.cons_ne_nil _ _) hscan.2 hspace.2
      have hskip : skip_space (' ' :: ([',', ' '].intercalate ((next :: items).map Prod.fst) ++
          closing :: rest)) =
          [',', ' '].intercalate ((next :: items).map Prod.fst) ++ closing :: rest := by
        rw [skip_space_cons_space, List.map_cons, htail, List.append_assoc]
        exact hspace.2 next List.mem_cons_self _
      have hjoin : [',', ' '].intercalate ((item :: next :: items).map Prod.fst) ++ closing :: rest =
          item.1 ++ ',' :: ' ' :: ([',', ' '].intercalate ((next :: items).map Prod.fst) ++
            closing :: rest) := by
        rw [List.map_cons, List.map_cons, List.intercalate_cons_cons]
        simp only [List.append_assoc, List.cons_append, List.nil_append]
      rw [← hskip] at hrest
      rw [hjoin]
      exact scans_items_comma hcomma (hscan.1 ',' _ (.inl rfl)) rfl hrest

end items

/-- A dict is scanned when its members are. -/
theorem scans_dict {scan : Scanner Value} {tail rest : List Char} {members : List (PyStr × Value)}
    (hitems : Scans (scan_items '}' (scan_member scan)) ('"' :: tail) members rest) :
    Scans (scan_dict scan) ('"' :: tail) (.dict members) rest := by
  obtain ⟨hlt, hscan⟩ := hitems.exists_eq
  have hskip : skip_space ('"' :: tail) = '"' :: tail := rfl
  have henclosed : Scans (scan_enclosed '}' (scan_member scan)) ('"' :: tail) members rest := by
    rw [Scans, scan_enclosed]
    split
    case h_1 c after hafter =>
      cases hskip.symm.trans hafter
      rw [if_neg (by decide), hscan]
      rfl
    case h_2 hnil => cases hskip.symm.trans hnil
  obtain ⟨hlt', hdict⟩ := henclosed.exists_eq
  rw [Scans, scan_dict, hdict]
  rfl

/-- A number is scanned at any depth. -/
theorem scans_once_number (limit : Nat) {cs rest : List Char} {value : Value}
    (h : read_number cs = .ok (value, rest)) : Scans (scan_once limit) cs value rest := by
  cases limit with
  | zero => exact (scans_number h).1
  | succ limit => exact (scans_number h).1

/-- The code points of a key. -/
theorem key_injective :
    Function.Injective fun key : String => key.toList.map Char.toNat := by
  intro key key' heq
  have hchars : Function.Injective Char.toNat := fun c c' h => Char.toNat_inj.mp h
  exact String.toList_inj.mp (List.map_injective_iff.mpr hchars heq)

theorem get_cons (key : String) (entry : PyStr × Value) (entries : List (PyStr × Value)) :
    get key (entry :: entries) = (get key entries).or
      (if entry.1 = key.toList.map Char.toNat then some entry.2 else none) := by
  rw [get, get, List.reverse_cons, List.find?_append, Option.map_or]
  congr 1
  rw [List.find?_singleton]
  by_cases hkey : entry.1 = key.toList.map Char.toNat
  · simp [hkey]
  · simp [hkey]

/-- With distinct keys a dict has what was written of it. -/
theorem get_of_mem {members : List (String × Value)} (hnodup : (members.map Prod.fst).Nodup)
    {key : String} {value : Value} (hmem : (key, value) ∈ members) :
    get key (members.map fun m => (m.1.toList.map Char.toNat, m.2)) = some value := by
  have hother : ∀ members : List (String × Value), key ∉ members.map Prod.fst →
      get key (members.map fun m => (m.1.toList.map Char.toNat, m.2)) = none := by
    intro members hkey
    induction members with
    | nil => rfl
    | cons m members ih =>
      rw [List.map_cons, List.mem_cons, not_or] at hkey
      rw [List.map_cons, get_cons, ih hkey.2, Option.none_or, if_neg]
      exact fun heq => hkey.1 (key_injective heq.symm)
  induction members with
  | nil => exact absurd hmem List.not_mem_nil
  | cons m members ih =>
    rw [List.map_cons, List.nodup_cons] at hnodup
    rw [List.map_cons, get_cons]
    obtain rfl | hmem := List.mem_cons.mp hmem
    · rw [hother members hnodup.1, Option.none_or, if_pos rfl]
    · rw [ih hnodup.2 hmem, Option.some_or]

/-- What `json.dump` writes of a dict of numbers is read back by `json.loads`. -/
theorem loads_dump_dict (limit : Nat) {members : List (String × List Char × Value)}
    (hne : members ≠ []) (hkeys : ∀ m ∈ members, PlainKey m.1)
    (hnumbers : ∀ m ∈ members, NumberText m.2.1 m.2.2) :
    loads (limit + 1) (dump_dict (members.map fun m => (m.1, m.2.1))) =
      .ok (.dict (members.map fun m => (m.1.toList.map Char.toNat, m.2.2))) := by
  let items := members.map fun m => (dump_member m.1 m.2.1, (m.1.toList.map Char.toNat, m.2.2))
  have htexts : (members.map fun m => (m.1, m.2.1)).map (fun m => dump_member m.1 m.2) =
      items.map Prod.fst := by
    simp only [items, List.map_map, Function.comp_def]
  have hvalues : items.map Prod.snd = members.map fun m => (m.1.toList.map Char.toNat, m.2.2) := by
    simp only [items, List.map_map, Function.comp_def]
  have hscan : ∀ item ∈ items, ∀ c rest, c = ',' ∨ c = '}' →
      Scans (scan_member (scan_once limit)) (item.1 ++ c :: rest) item.2 (c :: rest) := by
    intro item hitem c rest hc
    obtain ⟨m, hm, rfl⟩ := List.mem_map.mp hitem
    have hread := hnumbers m hm c rest hc
    have hkey := scan_string_plain (hkeys m hm) (':' :: ' ' :: (m.2.1 ++ c :: rest))
    have hmember := scans_member hkey (scans_once_number limit hread)
      (@scans_number (scan_list (scan_once limit)) (scan_dict (scan_once limit)) _ _ _ hread).2
    simpa only [dump_member, List.cons_append, List.append_assoc] using hmember
  have hspace : ∀ item ∈ items, ∀ rest, skip_space (item.1 ++ rest) = item.1 ++ rest := by
    intro item hitem rest
    obtain ⟨m, -, rfl⟩ := List.mem_map.mp hitem
    rfl
  have hitems := scans_items rfl (by decide) (by simpa [items] using hne) hscan hspace []
  have hquote : ∃ tail, [',', ' '].intercalate (items.map Prod.fst) ++ ['}'] = '"' :: tail := by
    obtain ⟨m, tail, rfl⟩ := List.exists_cons_of_ne_nil hne
    obtain ⟨joined, hjoined⟩ := intercalate_cons_append [',', ' '] (dump_member m.1 m.2.1)
      ((tail.map fun m => (dump_member m.1 m.2.1, (m.1.toList.map Char.toNat, m.2.2))).map Prod.fst)
    simp only [items, List.map_cons, hjoined]
    exact ⟨_, rfl⟩
  obtain ⟨tail, htail⟩ := hquote
  rw [htail] at hitems
  obtain ⟨hlt, hdict⟩ := (scans_dict hitems).exists_eq
  rw [dump_dict, htexts, htail, ← hvalues, loads]
  · change (do
      let (value, rest) ← scan_once (limit + 1) ('{' :: '"' :: tail)
      if skip_space rest.1 = [] then return value else .error .JSONDecodeError) = _
    rw [scan_once, scan_term, hdict]
    rfl
  · nofun

end Python.Json
