import InverterBridge.Lib.PyFloat

/-! JSON texts as `json.loads` reads them. -/

namespace Python.Json

/-- An exception of `json.loads`. -/
inductive Error where
  | JSONDecodeError
  | RecursionError
  /-- `Exceeds the limit (4300 digits) for integer string conversion`. -/
  | ValueError
  deriving DecidableEq

/-- A string by its code points: an escape may stand for a lone surrogate. -/
abbrev PyStr := List Nat

/-- What a text is loaded into. Of the entries of a dict with one key the last one counts. -/
inductive Value where
  | null
  | bool (b : Bool)
  | int (n : Int)
  | float (x : PyFloat)
  | str (s : PyStr)
  | list (items : List Value)
  | dict (entries : List (PyStr × Value))

/-- `d.get(key)` of a dict with these entries. -/
def get (key : String) (entries : List (PyStr × Value)) : Option Value :=
  (entries.reverse.find? fun entry => entry.1 = key.toList.map Char.toNat).map Prod.snd

/-! ## Scanning -/

/-- What is left of a text behind something that was read. -/
abbrev Rest (cs : List Char) := { rest : List Char // rest.length < cs.length }

/-- A scanner reads at least one character off the front. -/
abbrev Scanner (α : Type) := (cs : List Char) → Except Error (α × Rest cs)

/-- A rest of a shorter text. -/
def Rest.of_le {cs cs' : List Char} (rest : Rest cs') (hle : cs'.length ≤ cs.length) : Rest cs :=
  ⟨rest.1, rest.2.trans_le hle⟩

/-- JSON's white space. -/
def is_space (c : Char) : Bool := c = ' ' || c = '\t' || c = '\n' || c = '\r'

def skip_space (cs : List Char) : List Char := cs.dropWhile is_space

theorem skip_space_length_le (cs : List Char) : (skip_space cs).length ≤ cs.length :=
  (List.dropWhile_suffix is_space).length_le

/-- The value of a hexadecimal digit. -/
def hex_digit (c : Char) : Option Nat :=
  if '0' ≤ c ∧ c ≤ '9' then some (c.toNat - '0'.toNat)
  else if 'a' ≤ c ∧ c ≤ 'f' then some (c.toNat - 'a'.toNat + 10)
  else if 'A' ≤ c ∧ c ≤ 'F' then some (c.toNat - 'A'.toNat + 10)
  else none

/-- The four digits of a `\u` escape. -/
def hex4 (a b c d : Char) : Option Nat := do
  return (((← hex_digit a) * 16 + (← hex_digit b)) * 16 + (← hex_digit c)) * 16 + (← hex_digit d)

/-- The character behind the backslash of a short escape. -/
def short_escape (c : Char) : Option Nat :=
  if c = '"' ∨ c = '\\' ∨ c = '/' then some c.toNat
  else if c = 'b' then some 8
  else if c = 'f' then some 12
  else if c = 'n' then some 10
  else if c = 'r' then some 13
  else if c = 't' then some 9
  else none

/-- The characters of a string up to its closing quote, each escape by itself. -/
def scan_units : Scanner (List Nat)
  | [] => .error .JSONDecodeError
  | '"' :: cs => .ok ([], ⟨cs, by simp⟩)
  | '\\' :: 'u' :: a :: b :: c :: d :: cs =>
    match hex4 a b c d with
    | none => .error .JSONDecodeError
    | some unit => do
      let (units, rest) ← scan_units cs
      return (unit :: units, rest.of_le (by simp; omega))
  | '\\' :: c :: cs =>
    match short_escape c with
    | none => .error .JSONDecodeError
    | some unit => do
      let (units, rest) ← scan_units cs
      return (unit :: units, rest.of_le (by simp; omega))
  | c :: cs =>
    if c.toNat < 0x20 then .error .JSONDecodeError
    else do
      let (units, rest) ← scan_units cs
      return (c.toNat :: units, rest.of_le (by simp))

/-- A high surrogate and the low one behind it are one character. -/
def join_surrogates : List Nat → PyStr
  | high :: low :: units =>
    if 0xD800 ≤ high ∧ high ≤ 0xDBFF ∧ 0xDC00 ≤ low ∧ low ≤ 0xDFFF then
      (0x10000 + (high - 0xD800) * 0x400 + (low - 0xDC00)) :: join_surrogates units
    else high :: join_surrogates (low :: units)
  | units => units

/-- A string behind its opening quote. -/
def scan_string : Scanner PyStr := fun cs => do
  let (units, rest) ← scan_units cs
  return (join_surrogates units, rest)

/-- The fraction of a number: a point and digits. -/
def fraction : List Char → List Char × List Char
  | '.' :: d :: cs =>
    if d.isDigit then ((d :: cs).takeWhile Char.isDigit, (d :: cs).dropWhile Char.isDigit)
    else ([], '.' :: d :: cs)
  | cs => ([], cs)

/-- A sign and digits. -/
def signed_digits (sign : Int) (cs : List Char) : Option (Int × List Char) :=
  let ds := cs.takeWhile Char.isDigit
  if ds = [] then none
  else some (sign * Nat.ofDigitChars 10 ds 0, cs.dropWhile Char.isDigit)

/-- The exponent of a number; a letter without digits behind it is none. -/
def exponent : List Char → Option (Int × List Char)
  | e :: '-' :: cs => if e = 'e' ∨ e = 'E' then signed_digits (-1) cs else none
  | e :: '+' :: cs => if e = 'e' ∨ e = 'E' then signed_digits 1 cs else none
  | e :: cs => if e = 'e' ∨ e = 'E' then signed_digits 1 cs else none
  | [] => none

theorem fraction_length_le (cs : List Char) : (fraction cs).2.length ≤ cs.length := by
  unfold fraction
  split
  · split_ifs
    · exact (List.dropWhile_suffix _).length_le.trans (by simp)
    · exact le_refl _
  · exact le_refl _

theorem signed_digits_length_le {sign e : Int} {cs rest : List Char}
    (h : signed_digits sign cs = some (e, rest)) : rest.length ≤ cs.length := by
  simp only [signed_digits, Option.ite_none_left_eq_some, Option.some.injEq, Prod.mk.injEq] at h
  rw [← h.2.2]
  exact (List.dropWhile_suffix _).length_le

theorem exponent_length_le {e : Int} {cs rest : List Char} (h : exponent cs = some (e, rest)) :
    rest.length ≤ cs.length := by
  unfold exponent at h
  split at h
  case h_4 => cases h
  all_goals
    rw [Option.ite_none_right_eq_some] at h
    have hle := signed_digits_length_le h.2
    simp only [List.length_cons]
    omega

/-- The longest integer literal that is converted. -/
def MAX_STR_DIGITS : Nat := 4300

/-- The value of a number whose integer part was read, and what is left behind it. -/
def number_value (sign : Int) (whole cs : List Char) : Except Error (Value × List Char) :=
  let (decimals, rest) := fraction cs
  let mantissa : ℚ := sign * Nat.ofDigitChars 10 (whole ++ decimals) 0
  match exponent rest with
  | some (e, rest) =>
    .ok (.float (PyFloat.nearest_double (mantissa * 10 ^ (e - decimals.length))), rest)
  | none =>
    if decimals ≠ [] then
      .ok (.float (PyFloat.nearest_double (mantissa / 10 ^ decimals.length)), rest)
    else if MAX_STR_DIGITS < whole.length then .error .ValueError
    else .ok (.int (sign * Nat.ofDigitChars 10 whole 0), rest)

/-- The integer part of a number: no digit follows a leading zero. -/
def integer_part : List Char → Except Error (List Char × List Char)
  | '0' :: cs => .ok (['0'], cs)
  | c :: cs =>
    if c.isDigit then .ok (c :: cs.takeWhile Char.isDigit, cs.dropWhile Char.isDigit)
    else .error .JSONDecodeError
  | [] => .error .JSONDecodeError

/-- A number: an integer, unless it has a fraction or an exponent. -/
def read_number (cs : List Char) : Except Error (Value × List Char) :=
  let (sign, cs) := match cs with
    | '-' :: cs => (-1, cs)
    | cs => (1, cs)
  match integer_part cs with
  | .error e => .error e
  | .ok (whole, rest) => number_value sign whole rest

theorem number_value_length_le {sign : Int} {whole cs rest : List Char} {value : Value}
    (h : number_value sign whole cs = .ok (value, rest)) : rest.length ≤ cs.length := by
  have hfraction := fraction_length_le cs
  unfold number_value at h
  dsimp only at h
  split at h
  case h_1 e rest' hexponent =>
    cases h
    exact (exponent_length_le hexponent).trans hfraction
  case h_2 =>
    split_ifs at h
    · cases h
      exact hfraction
    · cases h
      exact hfraction

theorem integer_part_length_lt {cs whole rest : List Char} (h : integer_part cs = .ok (whole, rest)) :
    rest.length < cs.length := by
  unfold integer_part at h
  split at h
  · cases h
    exact Nat.lt_succ_self _
  · split_ifs at h
    cases h
    exact Nat.lt_succ_of_le (List.dropWhile_suffix _).length_le
  · cases h

theorem read_number_length_lt {cs rest : List Char} {value : Value}
    (h : read_number cs = .ok (value, rest)) : rest.length < cs.length := by
  unfold read_number at h
  dsimp only at h
  split at h
  case h_1 => cases h
  case h_2 whole rest' hwhole =>
    have hlt := integer_part_length_lt hwhole
    have hle := number_value_length_le h
    split at hlt
    · exact Nat.lt_succ_of_lt (hle.trans_lt hlt)
    · exact hle.trans_lt hlt

def scan_number : Scanner Value := fun cs =>
  match h : read_number cs with
  | .error e => .error e
  | .ok (value, rest) => .ok (value, ⟨rest, read_number_length_lt h⟩)

/-! ## Values -/

/-- The items of a list or dict up to its closing bracket, from the first one on. -/
def scan_items {α : Type} (closing : Char) (scan : Scanner α) (cs : List Char) :
    Except Error (List α × Rest cs) := do
  let (item, ⟨rest, hrest⟩) ← scan cs
  have hspace := skip_space_length_le rest
  match hafter : skip_space rest with
  | c :: after =>
    have hnext := skip_space_length_le after
    have hlt : after.length < cs.length := by
      simp only [hafter, List.length_cons] at hspace
      omega
    if c = closing then return ([item], ⟨after, hlt⟩)
    else if c = ',' then
      let (items, rest) ← scan_items closing scan (skip_space after)
      return (item :: items, rest.of_le (hnext.trans hlt.le))
    else .error .JSONDecodeError
  | [] => .error .JSONDecodeError
termination_by cs.length
decreasing_by omega

/-- A member of a dict: a string, a colon and a term. -/
def scan_member (scan : Scanner Value) : Scanner (PyStr × Value)
  | '"' :: cs => do
    let (key, ⟨rest, hrest⟩) ← scan_string cs
    have hspace := skip_space_length_le rest
    match hcolon : skip_space rest with
    | ':' :: text =>
      have htext := skip_space_length_le text
      let (value, rest') ← scan (skip_space text)
      return ((key, value), rest'.of_le (by grind))
    | _ => .error .JSONDecodeError
  | _ => .error .JSONDecodeError

/-- The items behind an opening bracket, possibly none. -/
def scan_enclosed {α : Type} (closing : Char) (scan : Scanner α) : Scanner (List α) := fun cs =>
  have hspace := skip_space_length_le cs
  match h : skip_space cs with
  | c :: rest =>
    if c = closing then .ok ([], ⟨rest, by grind⟩)
    else do
      let (items, rest) ← scan_items closing scan (c :: rest)
      return (items, rest.of_le (by grind))
  | [] => .error .JSONDecodeError

/-- A list behind its opening bracket. -/
def scan_list (scan : Scanner Value) : Scanner Value := fun cs => do
  let (items, rest) ← scan_enclosed ']' scan cs
  return (.list items, rest)

/-- A dict behind its opening brace. -/
def scan_dict (scan : Scanner Value) : Scanner Value := fun cs => do
  let (members, rest) ← scan_enclosed '}' (scan_member scan) cs
  return (.dict members, rest)

/-- A term, the dicts and lists in it being scanned by the given scanners. -/
def scan_term (scan_list scan_dict : Scanner Value) : Scanner Value
  | '"' :: cs => do
    let (s, rest) ← scan_string cs
    return (.str s, rest.of_le (by simp))
  | '{' :: cs => do
    let (value, rest) ← scan_dict cs
    return (value, rest.of_le (by simp))
  | '[' :: cs => do
    let (value, rest) ← scan_list cs
    return (value, rest.of_le (by simp))
  | 'n' :: 'u' :: 'l' :: 'l' :: cs => .ok (.null, ⟨cs, by simp; omega⟩)
  | 't' :: 'r' :: 'u' :: 'e' :: cs => .ok (.bool true, ⟨cs, by simp; omega⟩)
  | 'f' :: 'a' :: 'l' :: 's' :: 'e' :: cs => .ok (.bool false, ⟨cs, by simp; omega⟩)
  | 'N' :: 'a' :: 'N' :: cs => .ok (.float .nan, ⟨cs, by simp; omega⟩)
  | 'I' :: 'n' :: 'f' :: 'i' :: 'n' :: 'i' :: 't' :: 'y' :: cs =>
    .ok (.float .inf, ⟨cs, by simp; omega⟩)
  | '-' :: 'I' :: 'n' :: 'f' :: 'i' :: 'n' :: 'i' :: 't' :: 'y' :: cs =>
    .ok (.float .neg_inf, ⟨cs, by simp; omega⟩)
  | cs => scan_number cs

/-- A term with at most `limit` dicts and lists around one another: the interpreter's stack
admits no more. -/
def scan_once : Nat → Scanner Value
  | 0 => scan_term (fun _ => .error .RecursionError) fun _ => .error .RecursionError
  | limit + 1 => scan_term (scan_list (scan_once limit)) (scan_dict (scan_once limit))

/-- `json.loads(s)`. -/
def loads (limit : Nat) (s : List Char) : Except Error Value :=
  match s with
  | '\uFEFF' :: _ => .error .JSONDecodeError
  | _ => do
    let (value, rest) ← scan_once limit (skip_space s)
    if skip_space rest.1 = [] then return value else .error .JSONDecodeError

/-! ## Conversion to a float -/

section

-- the decimal digits beyond ASCII in the interpreter's Unicode database
variable (decimal_digit : Nat → Option Nat)

/-- `float(s)` of a string, when it succeeds. -/
def float_of_str (s : PyStr) : Option PyFloat :=
  (float_of_ascii (s.map (to_ascii decimal_digit))).map fun x =>
    match x with
    | .finite x => PyFloat.nearest_double x
    | x => x

/-- `float(value)`, when it succeeds. -/
def to_float : Value → Option PyFloat
  | .bool b => some (.finite (if b then 1 else 0))
  | .int n =>
    match PyFloat.nearest_double n with
    | .finite x => some (.finite x)
    | _ => none
  | .float x => some x
  | .str s => float_of_str decimal_digit s
  | .null | .list _ | .dict _ => none

end

end Python.Json
