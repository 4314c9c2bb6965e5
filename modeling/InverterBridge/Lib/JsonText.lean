import InverterBridge.Lib.JsonDump
import Mathlib.Data.List.TakeWhile

/-! `json.dumps` of any value, and that `json.loads` reads it back. -/

namespace Python.Json

/-! ## Strings -/

/-- The UTF-16 code units of a code point. -/
def utf16 (c : Nat) : List Nat :=
  if c < 0x10000 then [c]
  else [0xD800 + (c - 0x10000) / 0x400, 0xDC00 + (c - 0x10000) % 0x400]

/-- `'\\u{0:04x}'.format(n)`. -/
def unicode_escape (n : Nat) : List Char :=
  ['\\', 'u', Nat.digitChar (n / 0x1000 % 16), Nat.digitChar (n / 0x100 % 16),
    Nat.digitChar (n / 0x10 % 16), Nat.digitChar (n % 16)]

/-- What is written for a code unit: `ensure_ascii` leaves nothing beyond ASCII. -/
def escape (n : Nat) : List Char :=
  if n = 0x22 then ['\\', '"']
  else if n = 0x5C then ['\\', '\\']
  else if n = 8 then ['\\', 'b']
  else if n = 9 then ['\\', 't']
  else if n = 10 then ['\\', 'n']
  else if n = 12 then ['\\', 'f']
  else if n = 13 then ['\\', 'r']
  else if 0x20 ≤ n ∧ n ≤ 0x7E then [Char.ofNat n]
  else unicode_escape n

/-- What is written for a string behind its opening quote. -/
def escaped (s : PyStr) : List Char := (s.flatMap utf16).flatMap escape ++ ['"']

/-- A code point of a text: no surrogate. -/
def IsScalar (c : Nat) : Prop := c < 0x110000 ∧ ¬ (0xD800 ≤ c ∧ c ≤ 0xDFFF)

theorem isScalar_toNat (c : Char) : IsScalar c.toNat := by
  obtain hlow | ⟨hhigh, hlt⟩ := c.valid
  · have : c.toNat < 0xD800 := hlow
    exact ⟨by omega, by omega⟩
  · have : 0xDFFF < c.toNat := hhigh
    have : c.toNat < 0x110000 := hlt
    exact ⟨by omega, by omega⟩

theorem hex_digit_digitChar : ∀ n < 16, hex_digit (Nat.digitChar n) = some n := by decide

theorem toNat_ofNat_ascii : ∀ n < 0x7F, (Char.ofNat n).toNat = n := by decide

/-- The four digits of a code unit are its value. -/
theorem hex4_digits {n : Nat} (hn : n < 0x10000) :
    hex4 (Nat.digitChar (n / 0x1000 % 16)) (Nat.digitChar (n / 0x100 % 16))
      (Nat.digitChar (n / 0x10 % 16)) (Nat.digitChar (n % 16)) = some n := by
  have hmod (k : Nat) : k % 16 < 16 := Nat.mod_lt k (by decide)
  simp only [hex4, hex_digit_digitChar _ (hmod _), Option.bind_eq_bind, Option.bind_some,
    Option.pure_def, Option.some.injEq]
  omega

section units

variable {cs rest : List Char} {units : List Nat}

theorem scan_units_literal {c : Char} (hprintable : 0x20 ≤ c.toNat) (hquote : c ≠ '"')
    (hbackslash : c ≠ '\\') (h : Scans scan_units cs units rest) :
    Scans scan_units (c :: cs) (c.toNat :: units) rest := by
  obtain ⟨hlt, hscan⟩ := h.exists_eq
  rw [Scans, scan_units]
  · rw [if_neg (Nat.not_lt.mpr hprintable), hscan]
    rfl
  · exact hquote
  · intro a b d e tail hc
    exact absurd hc hbackslash
  · intro d tail hc
    exact absurd hc hbackslash

theorem scan_units_short {c : Char} {n : Nat} (hc : c ≠ 'u') (hshort : short_escape c = some n)
    (h : Scans scan_units cs units rest) :
    Scans scan_units ('\\' :: c :: cs) (n :: units) rest := by
  obtain ⟨hlt, hscan⟩ := h.exists_eq
  rw [Scans, scan_units]
  · split
    case h_1 hnone => cases hnone.symm.trans hshort
    case h_2 m hsome =>
      cases hsome.symm.trans hshort
      rw [hscan]
      rfl
  · intro a b d e tail heq
    exact absurd heq hc

theorem scan_units_unicode {n : Nat} (hn : n < 0x10000) (h : Scans scan_units cs units rest) :
    Scans scan_units (unicode_escape n ++ cs) (n :: units) rest := by
  obtain ⟨hlt, hscan⟩ := h.exists_eq
  rw [Scans, unicode_escape]
  simp only [List.cons_append, List.nil_append]
  rw [scan_units]
  split
  case h_1 hnone => cases hnone.symm.trans (hex4_digits hn)
  case h_2 m hsome =>
    cases hsome.symm.trans (hex4_digits hn)
    rw [hscan]
    rfl

/-- A written code unit is scanned as itself. -/
theorem scan_units_escape {n : Nat} (hn : n < 0x10000) (h : Scans scan_units cs units rest) :
    Scans scan_units (escape n ++ cs) (n :: units) rest := by
  unfold escape
  split_ifs with hquote hbackslash hb ht hline hf hr hprintable
  · exact hquote ▸ scan_units_short (by decide) (by decide) h
  · exact hbackslash ▸ scan_units_short (by decide) (by decide) h
  · exact hb ▸ scan_units_short (by decide) (by decide) h
  · exact ht ▸ scan_units_short (by decide) (by decide) h
  · exact hline ▸ scan_units_short (by decide) (by decide) h
  · exact hf ▸ scan_units_short (by decide) (by decide) h
  · exact hr ▸ scan_units_short (by decide) (by decide) h
  · have htoNat := toNat_ofNat_ascii n (by omega)
    have hother {c : Char} (hc : c.toNat ≠ n) : Char.ofNat n ≠ c := by
      rintro rfl
      exact hc htoNat
    have hliteral := @scan_units_literal _ _ _ (Char.ofNat n) (by omega)
      (hother (Ne.symm hquote)) (hother (Ne.symm hbackslash)) h
    rwa [htoNat] at hliteral
  · exact scan_units_unicode hn h

/-- Written code units are scanned up to the closing quote. -/
theorem scan_units_escapes (hunits : ∀ n ∈ units, n < 0x10000) :
    Scans scan_units (units.flatMap escape ++ '"' :: rest) units rest := by
  induction units with
  | nil => rfl
  | cons n units ih =>
    rw [List.forall_mem_cons] at hunits
    rw [List.flatMap_cons, List.append_assoc]
    exact scan_units_escape hunits.1 (ih hunits.2)

end units

theorem utf16_lt {c n : Nat} (hc : IsScalar c) (hn : n ∈ utf16 c) : n < 0x10000 := by
  unfold utf16 at hn
  have := hc.1
  split_ifs at hn with hlow
  · rw [List.mem_singleton] at hn
    omega
  · simp only [List.mem_cons, List.not_mem_nil, or_false] at hn
    omega

/-- The units of a code point in front of units that begin with no low surrogate. -/
theorem join_surrogates_utf16 {c : Nat} (hc : IsScalar c) (units : List Nat) :
    join_surrogates (utf16 c ++ units) = c :: join_surrogates units := by
  obtain ⟨hlt, hsurrogate⟩ := hc
  unfold utf16
  split_ifs with hlow
  · rw [List.singleton_append]
    cases units with
    | nil => rfl
    | cons unit units => rw [join_surrogates, if_neg (by omega)]
  · have hvalue : 0x10000 + (0xD800 + (c - 0x10000) / 0x400 - 0xD800) * 0x400 +
        (0xDC00 + (c - 0x10000) % 0x400 - 0xDC00) = c := by omega
    rw [List.cons_append, List.singleton_append, join_surrogates, if_pos (by omega), hvalue]

theorem join_surrogates_flatMap {s : PyStr} (hs : ∀ c ∈ s, IsScalar c) :
    join_surrogates (s.flatMap utf16) = s := by
  induction s with
  | nil => rfl
  | cons c s ih =>
    rw [List.forall_mem_cons] at hs
    rw [List.flatMap_cons, join_surrogates_utf16 hs.1, ih hs.2]

/-- A written string is scanned as itself. -/
theorem scan_string_escaped {s : PyStr} (hs : ∀ c ∈ s, IsScalar c) (rest : List Char) :
    Scans scan_string (escaped s ++ rest) s rest := by
  have hunits : ∀ n ∈ s.flatMap utf16, n < 0x10000 := by
    intro n hn
    obtain ⟨c, hc, hn⟩ := List.mem_flatMap.mp hn
    exact utf16_lt (hs c hc) hn
  obtain ⟨hlt, hscan⟩ := (@scan_units_escapes rest _ hunits).exists_eq
  rw [Scans, escaped, List.append_assoc, List.singleton_append, scan_string, hscan]
  change Except.ok (join_surrogates _, _) = _
  rw [join_surrogates_flatMap hs]

/-! ## Numbers -/

/-- `str(n)`. -/
def int_text (n : Int) : List Char :=
  if n < 0 then '-' :: Nat.toDigits 10 n.natAbs else Nat.toDigits 10 n.natAbs

/-- What goes on behind a value: the text ends, or a list or dict goes on. -/
def Delimited (rest : List Char) : Prop := ∀ c ∈ rest.head?, c = ',' ∨ c = ']' ∨ c = '}'

theorem Delimited.nil : Delimited [] := nofun

theorem Delimited.cons {c : Char} (hc : c = ',' ∨ c = ']' ∨ c = '}') (rest : List Char) :
    Delimited (c :: rest) := by
  rintro _ ⟨⟩
  exact hc

/-- A text that is read as the number `value`. -/
def DelimitedNumber (text : List Char) (value : Value) : Prop :=
  ∀ rest, Delimited rest → read_number (text ++ rest) = .ok (value, rest)

theorem digitChar_ne_zero : ∀ n < 10, 0 < n → Nat.digitChar n ≠ '0' := by decide

theorem wholeDigits_toDigits (n : Nat) : WholeDigits (Nat.toDigits 10 n) := by
  obtain rfl | hpos := Nat.eq_zero_or_pos n
  · exact .inl (Nat.toDigits_zero 10)
  · have hhead : ∃ d ds, Nat.toDigits 10 n = d :: ds ∧ d ≠ '0' := by
      induction n using Nat.strongRecOn with
      | _ n ih =>
        obtain hlt | hle := Nat.lt_or_ge n 10
        · rw [Nat.toDigits_of_lt_base hlt]
          exact ⟨_, _, rfl, digitChar_ne_zero n hlt hpos⟩
        · obtain ⟨d, ds, heq, hne⟩ := ih (n / 10) (by omega) (by omega)
          rw [Nat.toDigits_of_base_le (by decide) hle, heq, List.cons_append]
          exact ⟨d, _, rfl, hne⟩
    obtain ⟨d, ds, heq, hne⟩ := hhead
    refine .inr ⟨d, ds, heq, hne, fun c hc => ?_⟩
    exact Nat.isDigit_of_mem_toDigits (by decide) (by decide) (heq ▸ hc)

theorem integer_part_delimited {whole rest : List Char} (hwhole : WholeDigits whole)
    (hrest : Delimited rest) : integer_part (whole ++ rest) = .ok (whole, rest) := by
  cases rest with
  | nil =>
    rw [List.append_nil]
    obtain rfl | ⟨d, ds, rfl, hzero, hdigits⟩ := hwhole
    · rfl
    · rw [List.forall_mem_cons] at hdigits
      rw [integer_part, if_pos hdigits.1, List.takeWhile_eq_self_iff.mpr hdigits.2,
        List.dropWhile_eq_nil_iff.mpr hdigits.2]
      exact hzero
  | cons c rest =>
    refine integer_part_whole hwhole ?_
    obtain rfl | rfl | rfl := hrest c rfl <;> rfl

/-- Without a fraction and an exponent a number is an integer. -/
theorem number_value_delimited {sign : Int} {whole rest : List Char}
    (hlength : whole.length ≤ MAX_STR_DIGITS) (hrest : Delimited rest) :
    number_value sign whole rest = .ok (.int (sign * Nat.ofDigitChars 10 whole 0), rest) := by
  have hfraction : fraction rest = ([], rest) := by
    unfold fraction
    split
    case h_1 => obtain heq | heq | heq := hrest _ rfl <;> cases heq
    case h_2 => rfl
  have hexponent : exponent rest = none := by
    cases rest with
    | nil => rfl
    | cons c rest =>
      refine exponent_of_ne ?_ rest
      obtain rfl | rfl | rfl := hrest c rfl <;> decide
  rw [number_value, hfraction]
  dsimp only
  rw [hexponent]
  dsimp only
  rw [if_neg (not_not.mpr rfl), if_neg (Nat.not_lt.mpr hlength)]

/-- The text of an integer is read as the integer. -/
theorem delimitedNumber_int {n : Int}
    (hlength : (Nat.toDigits 10 n.natAbs).length ≤ MAX_STR_DIGITS) :
    DelimitedNumber (int_text n) (.int n) := by
  intro rest hrest
  have hwhole := wholeDigits_toDigits n.natAbs
  unfold int_text
  split_ifs with hneg
  · have hread : read_number ('-' :: Nat.toDigits 10 n.natAbs ++ rest) =
        number_value (-1) (Nat.toDigits 10 n.natAbs) rest := by
      rw [List.cons_append, read_number, integer_part_delimited hwhole hrest]
    have hvalue : -1 * (n.natAbs : Int) = n := by omega
    rw [hread, number_value_delimited hlength hrest, Nat.ofDigitChars_ten_toDigits, hvalue]
  · have hvalue : 1 * (n.natAbs : Int) = n := by omega
    rw [read_number_of_ne (whole_ne_minus hwhole _), integer_part_delimited hwhole hrest]
    dsimp only
    rw [number_value_delimited hlength hrest, Nat.ofDigitChars_ten_toDigits, hvalue]

/-! ## Values -/

section

-- `float.__repr__` of a finite float
variable (float_repr : ℚ → List Char)

mutual

/-- `json.dumps(value)`. -/
def dumps : Value → List Char
  | .null => ['n', 'u', 'l', 'l']
  | .bool true => ['t', 'r', 'u', 'e']
  | .bool false => ['f', 'a', 'l', 's', 'e']
  | .int n => int_text n
  | .float (.finite x) => float_repr x
  | .float .inf => ['I', 'n', 'f', 'i', 'n', 'i', 't', 'y']
  | .float .neg_inf => ['-', 'I', 'n', 'f', 'i', 'n', 'i', 't', 'y']
  | .float .nan => ['N', 'a', 'N']
  | .str s => '"' :: escaped s
  | .list items => '[' :: ([',', ' '].intercalate (item_texts items) ++ [']'])
  | .dict entries => '{' :: ([',', ' '].intercalate (member_texts entries) ++ ['}'])

def item_texts : List Value → List (List Char)
  | [] => []
  | item :: items => dumps item :: item_texts items

def member_texts : List (PyStr × Value) → List (List Char)
  | [] => []
  | (key, value) :: entries =>
    ('"' :: (escaped key ++ ':' :: ' ' :: dumps value)) :: member_texts entries

end

/-- A value that is read back with `limit` dicts and lists around one another: its texts have
no surrogates, its integers not too many digits, and its floats are read from their texts. -/
inductive Dumpable : Nat → Value → Prop
  | null {limit : Nat} : Dumpable limit .null
  | bool {limit : Nat} (b : Bool) : Dumpable limit (.bool b)
  | int {limit : Nat} {n : Int} (hlength : (Nat.toDigits 10 n.natAbs).length ≤ MAX_STR_DIGITS) :
      Dumpable limit (.int n)
  | finite {limit : Nat} {x : ℚ} (hx : DelimitedNumber (float_repr x) (.float (.finite x))) :
      Dumpable limit (.float (.finite x))
  | inf {limit : Nat} : Dumpable limit (.float .inf)
  | neg_inf {limit : Nat} : Dumpable limit (.float .neg_inf)
  | nan {limit : Nat} : Dumpable limit (.float .nan)
  | str {limit : Nat} {s : PyStr} (hs : ∀ c ∈ s, IsScalar c) : Dumpable limit (.str s)
  | list {limit : Nat} {items : List Value} (hitems : ∀ item ∈ items, Dumpable limit item) :
      Dumpable (limit + 1) (.list items)
  | dict {limit : Nat} {entries : List (PyStr × Value)}
      (hkeys : ∀ entry ∈ entries, ∀ c ∈ entry.1, IsScalar c)
      (hvalues : ∀ entry ∈ entries, Dumpable limit entry.2) :
      Dumpable (limit + 1) (.dict entries)

variable {float_repr}

theorem item_texts_eq (items : List Value) :
    item_texts float_repr items = items.map (dumps float_repr) := by
  induction items with
  | nil => rfl
  | cons item items ih => rw [item_texts, ih, List.map_cons]

theorem member_texts_eq (entries : List (PyStr × Value)) :
    member_texts float_repr entries = entries.map fun entry =>
      '"' :: (escaped entry.1 ++ ':' :: ' ' :: dumps float_repr entry.2) := by
  induction entries with
  | nil => rfl
  | cons entry entries ih => rw [member_texts, ih, List.map_cons]

/-- What a written value can begin with. -/
def IsHead (c : Char) : Prop := is_space c = false ∧ c ≠ ']' ∧ c ≠ '\uFEFF'

theorem isHead_of_isDigit {c : Char} (h : c.isDigit) : IsHead c := by
  refine ⟨not_space_of_isDigit h, ?_, ?_⟩
  all_goals
    rintro rfl
    cases h

theorem exists_head_of_number {text : List Char} {value : Value}
    (h : DelimitedNumber text value) : ∃ c tail, text = c :: tail ∧ IsHead c := by
  have hread := h [] .nil
  rw [List.append_nil] at hread
  obtain ⟨c, tail, rfl, hhead⟩ := digit_of_read_number hread
  refine ⟨c, tail, rfl, ?_⟩
  obtain hdigit | ⟨rfl, -⟩ := hhead
  · exact isHead_of_isDigit hdigit
  · exact ⟨rfl, by decide, by decide⟩

theorem exists_head {limit : Nat} {value : Value} (h : Dumpable float_repr limit value) :
    ∃ c tail, dumps float_repr value = c :: tail ∧ IsHead c := by
  have hhead {c : Char} {tail : List Char} (hc : is_space c = false) (hclosing : c ≠ ']')
      (hbom : c ≠ '\uFEFF') : ∃ c' tail', c :: tail = c' :: tail' ∧ IsHead c' :=
    ⟨c, tail, rfl, hc, hclosing, hbom⟩
  cases h with
  | null => exact hhead rfl (by decide) (by decide)
  | bool b => cases b <;> exact hhead rfl (by decide) (by decide)
  | int hlength => exact exists_head_of_number (delimitedNumber_int hlength)
  | finite hx => exact exists_head_of_number hx
  | inf => exact hhead rfl (by decide) (by decide)
  | neg_inf => exact hhead rfl (by decide) (by decide)
  | nan => exact hhead rfl (by decide) (by decide)
  | str hs => exact hhead rfl (by decide) (by decide)
  | list hitems => exact hhead rfl (by decide) (by decide)
  | dict hkeys hvalues => exact hhead rfl (by decide) (by decide)

/-- Joined items are scanned up to the closing bracket, none of them beginning with it. -/
theorem scans_enclosed {α : Type} {closing : Char} {scan : Scanner α}
    (hclosing : is_space closing = false) (hcomma : closing ≠ ',')
    {items : List (List Char × α)}
    (hscan : ∀ item ∈ items, ∀ c rest, c = ',' ∨ c = closing →
      Scans scan (item.1 ++ c :: rest) item.2 (c :: rest))
    (hhead : ∀ item ∈ items, ∃ c tail, item.1 = c :: tail ∧ is_space c = false ∧ c ≠ closing)
    (rest : List Char) :
    Scans (scan_enclosed closing scan)
      ([',', ' '].intercalate (items.map Prod.fst) ++ closing :: rest)
      (items.map Prod.snd) rest := by
  cases items with
  | nil =>
    have hskip := skip_space_of_not_space hclosing rest
    rw [List.map_nil, List.map_nil, List.intercalate_nil, List.nil_append, Scans, scan_enclosed]
    split
    case h_1 c after hafter =>
      cases hskip.symm.trans hafter
      rw [if_pos rfl]
      rfl
    case h_2 hnil => cases hskip.symm.trans hnil
  | cons item items =>
    have hspace : ∀ i ∈ item :: items, ∀ rest, skip_space (i.1 ++ rest) = i.1 ++ rest := by
      intro i hi rest
      obtain ⟨c, tail, heq, hc, -⟩ := hhead i hi
      rw [heq]
      exact skip_space_of_not_space hc _
    have hitems := scans_items hclosing hcomma (List.cons_ne_nil _ _) hscan hspace rest
    obtain ⟨c, tail, heq, hc, hne⟩ := hhead item List.mem_cons_self
    obtain ⟨joined, hjoined⟩ := intercalate_cons_append [',', ' '] item.1 (items.map Prod.fst)
    have htext : [',', ' '].intercalate ((item :: items).map Prod.fst) ++ closing :: rest =
        c :: (tail ++ joined ++ closing :: rest) := by
      rw [List.map_cons, hjoined, heq]
      rfl
    have hskip := skip_space_of_not_space hc (tail ++ joined ++ closing :: rest)
    rw [htext] at hitems ⊢
    obtain ⟨hlt, hitems⟩ := hitems.exists_eq
    rw [Scans, scan_enclosed]
    split
    case h_1 c' after hafter =>
      cases hskip.symm.trans hafter
      rw [if_neg hne, hitems]
      rfl
    case h_2 hnil => cases hskip.symm.trans hnil

theorem scan_once_eq (limit : Nat) :
    ∃ scan_list scan_dict, scan_once limit = scan_term scan_list scan_dict := by
  cases limit with
  | zero => exact ⟨_, _, rfl⟩
  | succ limit => exact ⟨_, _, rfl⟩

/-- Any number is scanned as a term. -/
theorem scans_once_delimited {limit : Nat} {text rest : List Char} {value : Value}
    (h : DelimitedNumber text value) (hrest : Delimited rest) :
    Scans (scan_once limit) (text ++ rest) value rest :=
  scans_once_number limit (h rest hrest)

theorem scans_once_str {limit : Nat} {s : PyStr} (hs : ∀ c ∈ s, IsScalar c) (rest : List Char) :
    Scans (scan_once limit) ('"' :: (escaped s ++ rest)) (.str s) rest := by
  obtain ⟨hlt, hscan⟩ := (scan_string_escaped hs rest).exists_eq
  obtain ⟨scan_list, scan_dict, heq⟩ := scan_once_eq limit
  rw [Scans, heq, scan_term, hscan]
  rfl

/-- The skipping of white space stops at a written value. -/
theorem skip_space_dumps {limit : Nat} {value : Value} (h : Dumpable float_repr limit value)
    (rest : List Char) :
    skip_space (dumps float_repr value ++ rest) = dumps float_repr value ++ rest := by
  obtain ⟨c, tail, heq, hspace, -⟩ := exists_head h
  rw [heq]
  exact skip_space_of_not_space hspace _

/-- A written list is scanned when its items are. -/
theorem scans_once_list {limit : Nat} {items : List Value}
    (hitems : ∀ item ∈ items, Dumpable float_repr limit item)
    (hscan : ∀ item ∈ items, ∀ rest, Delimited rest →
      Scans (scan_once limit) (dumps float_repr item ++ rest) item rest) (rest : List Char) :
    Scans (scan_once (limit + 1)) (dumps float_repr (.list items) ++ rest) (.list items) rest := by
  let texts := items.map fun item => (dumps float_repr item, item)
  have hfst : texts.map Prod.fst = item_texts float_repr items := by
    simp only [texts, item_texts_eq, List.map_map, Function.comp_def]
  have hsnd : texts.map Prod.snd = items := by
    simp only [texts, List.map_map, Function.comp_def, List.map_id']
  have henclosed := @scans_enclosed Value ']' (scan_once limit) rfl (by decide) texts
    (by
      intro text htext c rest hc
      obtain ⟨item, hitem, rfl⟩ := List.mem_map.mp htext
      exact hscan item hitem _ (.cons (hc.imp_right .inl) rest))
    (by
      intro text htext
      obtain ⟨item, hitem, rfl⟩ := List.mem_map.mp htext
      obtain ⟨c, tail, heq, hspace, hclosing, -⟩ := exists_head (hitems item hitem)
      exact ⟨c, tail, heq, hspace, hclosing⟩)
    rest
  rw [hfst, hsnd] at henclosed
  obtain ⟨hlt, henclosed⟩ := henclosed.exists_eq
  rw [dumps, List.cons_append, List.append_assoc, List.singleton_append, Scans, scan_once,
    scan_term, scan_list, henclosed]
  rfl

/-- A written dict is scanned when its values are. -/
theorem scans_once_dict {limit : Nat} {entries : List (PyStr × Value)}
    (hkeys : ∀ entry ∈ entries, ∀ c ∈ entry.1, IsScalar c)
    (hvalues : ∀ entry ∈ entries, Dumpable float_repr limit entry.2)
    (hscan : ∀ entry ∈ entries, ∀ rest, Delimited rest →
      Scans (scan_once limit) (dumps float_repr entry.2 ++ rest) entry.2 rest)
    (rest : List Char) :
    Scans (scan_once (limit + 1)) (dumps float_repr (.dict entries) ++ rest) (.dict entries)
      rest := by
  let texts := entries.map fun entry =>
    ('"' :: (escaped entry.1 ++ ':' :: ' ' :: dumps float_repr entry.2), entry)
  have hfst : texts.map Prod.fst = member_texts float_repr entries := by
    simp only [texts, member_texts_eq, List.map_map, Function.comp_def]
  have hsnd : texts.map Prod.snd = entries := by
    simp only [texts, List.map_map, Function.comp_def, List.map_id']
  have henclosed := @scans_enclosed _ '}' (scan_member (scan_once limit)) rfl (by decide) texts
    (by
      intro text htext c rest hc
      obtain ⟨entry, hentry, rfl⟩ := List.mem_map.mp htext
      have hvalue := hscan entry hentry (c :: rest) (.cons (hc.imp_right .inr) rest)
      have hkey := scan_string_escaped (hkeys entry hentry)
        (':' :: ' ' :: (dumps float_repr entry.2 ++ c :: rest))
      have hmember := scans_member hkey hvalue (skip_space_dumps (hvalues entry hentry) _)
      simpa only [List.cons_append, List.append_assoc] using hmember)
    (by
      intro text htext
      obtain ⟨entry, -, rfl⟩ := List.mem_map.mp htext
      exact ⟨'"', _, rfl, rfl, by decide⟩)
    rest
  rw [hfst, hsnd] at henclosed
  obtain ⟨hlt, henclosed⟩ := henclosed.exists_eq
  rw [dumps, List.cons_append, List.append_assoc, List.singleton_append, Scans, scan_once,
    scan_term, scan_dict, henclosed]
  rfl

/-- A written value is scanned as itself, whatever goes on behind it. -/
theorem scans_dumps {limit : Nat} {value : Value} (h : Dumpable float_repr limit value)
    (rest : List Char) (hrest : Delimited rest) :
    Scans (scan_once limit) (dumps float_repr value ++ rest) value rest := by
  induction h generalizing rest with
  | @null limit =>
    obtain ⟨scan_list, scan_dict, heq⟩ := scan_once_eq limit
    rw [heq]
    rfl
  | @bool limit b =>
    obtain ⟨scan_list, scan_dict, heq⟩ := scan_once_eq limit
    rw [heq]
    cases b <;> rfl
  | int hlength => exact scans_once_delimited (delimitedNumber_int hlength) hrest
  | finite hx => exact scans_once_delimited hx hrest
  | @inf limit =>
    obtain ⟨scan_list, scan_dict, heq⟩ := scan_once_eq limit
    rw [heq]
    rfl
  | @neg_inf limit =>
    obtain ⟨scan_list, scan_dict, heq⟩ := scan_once_eq limit
    rw [heq]
    rfl
  | @nan limit =>
    obtain ⟨scan_list, scan_dict, heq⟩ := scan_once_eq limit
    rw [heq]
    rfl
  | str hs => exact scans_once_str hs rest
  | list hitems ih => exact scans_once_list hitems ih rest
  | dict hkeys hvalues ih => exact scans_once_dict hkeys hvalues ih rest

/-- `json.loads(json.dumps(value))` is `value`. -/
theorem loads_dumps {limit : Nat} {value : Value} (h : Dumpable float_repr limit value) :
    loads limit (dumps float_repr value) = .ok value := by
  have hscan := scans_dumps h [] .nil
  have hskip := skip_space_dumps h []
  rw [List.append_nil] at hscan hskip
  rw [← hskip] at hscan
  obtain ⟨hlt, hscan⟩ := hscan.exists_eq
  obtain ⟨c, tail, heq, -, -, hbom⟩ := exists_head h
  rw [loads]
  · rw [hscan]
    rfl
  · intro cs htext
    rw [heq, List.cons.injEq] at htext
    exact hbom htext.1

end

end Python.Json
