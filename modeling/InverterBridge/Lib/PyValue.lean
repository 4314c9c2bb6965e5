import InverterBridge.Lib.Python

/-! The Python values a YAML document is loaded into, and the built-in conversions
`int`, `float`, `bool` and `str` on them. -/

namespace Python

/-- A float. Finite ones are exact rationals. -/
inductive PyFloat where
  | finite (x : ℚ)
  | inf
  | neg_inf
  | nan
  deriving DecidableEq

/-- A value that can be a dict key. Dates and times are known by type and text. -/
inductive Scalar where
  | null
  | bool (b : Bool)
  | int (n : Int)
  | float (x : PyFloat)
  | str (s : String)
  | date (type_name text : String)
  deriving DecidableEq

inductive PyValue where
  | scalar (s : Scalar)
  | list (items : List PyValue)
  /-- The entries in the order of the document: a later one with the same key wins. -/
  | dict (entries : List (Scalar × PyValue))

namespace Scalar

/-- The representative of all keys that Python takes for equal: `True == 1 == 1.0`. -/
def key : Scalar → Scalar
  | .bool b => .int (if b then 1 else 0)
  | .float (.finite x) => if x.den = 1 then .int x.num else .float (.finite x)
  | s => s

def type_name : Scalar → String
  | .null => "NoneType"
  | .bool _ => "bool"
  | .int _ => "int"
  | .float _ => "float"
  | .str _ => "str"
  | .date type_name _ => type_name

/-- `bool(s)`. -/
def truthy : Scalar → Bool
  | .null => false
  | .bool b => b
  | .int n => n ≠ 0
  | .float x => x ≠ .finite 0
  | .str s => s ≠ ""
  | .date _ _ => true

end Scalar

/-- The white space that `str.strip` removes. -/
def is_space (c : Char) : Bool :=
  let n := c.toNat
  (9 ≤ n && n ≤ 13) || (28 ≤ n && n ≤ 32) || n = 0x85 || n = 0xA0 || n = 0x1680 ||
    (0x2000 ≤ n && n ≤ 0x200A) || n = 0x2028 || n = 0x2029 || n = 0x202F || n = 0x205F || n = 0x3000

def strip_chars (cs : List Char) : List Char :=
  ((cs.dropWhile is_space).reverse.dropWhile is_space).reverse

/-- `s.strip()`. -/
def strip (s : String) : String := String.ofList (strip_chars s.toList)

/-- The value of an ASCII digit or letter. -/
def digit_value (c : Char) : Option Nat :=
  if '0' ≤ c ∧ c ≤ '9' then some (c.toNat - '0'.toNat)
  else if 'a' ≤ c ∧ c ≤ 'z' then some (c.toNat - 'a'.toNat + 10)
  else if 'A' ≤ c ∧ c ≤ 'Z' then some (c.toNat - 'A'.toNat + 10)
  else none

def digit (base : Nat) (c : Char) : Option Nat := (digit_value c).filter (· < base)

/-- The rest of a run of digits, with single underscores between them. -/
def digits_from (base acc : Nat) : List Char → Option Nat
  | [] => some acc
  | '_' :: c :: cs => do digits_from base (acc * base + (← digit base c)) cs
  | c :: cs => do digits_from base (acc * base + (← digit base c)) cs

def digits (base : Nat) : List Char → Option Nat
  | [] => none
  | c :: cs => do digits_from base (← digit base c) cs

/-- Digits behind a base letter, which one underscore may follow. -/
def digits_behind_base (base : Nat) : List Char → Option Nat
  | '_' :: cs => digits base cs
  | cs => digits base cs

/-- An unsigned integer literal of Python: a decimal one has no leading zero. -/
def literal (cs : List Char) : Option Nat :=
  match cs with
  | '0' :: 'x' :: cs | '0' :: 'X' :: cs => digits_behind_base 16 cs
  | '0' :: 'o' :: cs | '0' :: 'O' :: cs => digits_behind_base 8 cs
  | '0' :: 'b' :: cs | '0' :: 'B' :: cs => digits_behind_base 2 cs
  | '0' :: cs => (digits 10 ('0' :: cs)).filter (· = 0)
  | cs => digits 10 cs

/-- A sign in front of what `unsigned` reads. -/
def signed {α : Type} [Neg α] (unsigned : List Char → Option α) : List Char → Option α
  | '-' :: cs => (unsigned cs).map (- ·)
  | '+' :: cs => unsigned cs
  | cs => unsigned cs

/-- `int` of ASCII characters, with base 0 (a literal) or 10, but for the bound on their number. -/
def int_of_ascii (base : Nat) (cs : List Char) : Option Int :=
  let unsigned := if base = 0 then literal else digits 10
  signed (fun cs => (unsigned cs).map Int.ofNat) cs

/-- How many decimal digits a number begins with, if its underscores stand between digits. -/
def leading_digits (cs : List Char) : Nat :=
  let unsigned := match cs with
    | '-' :: cs | '+' :: cs => cs
    | cs => cs
  let run := unsigned.takeWhile fun c => c.isDigit || c = '_'
  if (digits 10 run).isSome then (run.filter Char.isDigit).length else 0

/-- `sys.get_int_max_str_digits()`. -/
def MAX_STR_DIGITS : Nat := 4300

/-- A decimal number without sign: digits, a fraction, an exponent. -/
def decimal (cs : List Char) : Option ℚ := do
  let (mantissa, exponent) := cs.span fun c => c ≠ 'e' && c ≠ 'E'
  let (whole, fraction) := mantissa.span fun c => c ≠ '.'
  let fraction := fraction.drop 1
  let whole_value ← if whole = [] ∧ fraction ≠ [] then some 0 else digits 10 whole
  let fraction_value ← if fraction = [] then some 0 else digits 10 fraction
  let exponent_value ← match exponent with
    | [] => some 0
    | _ :: cs => signed (fun cs => (digits 10 cs).map Int.ofNat) cs
  let places := (fraction.filter (· ≠ '_')).length
  return ((whole_value : ℚ) + fraction_value / 10 ^ places) * (10 : ℚ) ^ exponent_value

/-- The bound from which on a number rounds to infinity as a double. -/
def double_overflow : ℚ := 2 ^ 1024 - 2 ^ 970

def float_of_rat (x : ℚ) : PyFloat :=
  if double_overflow ≤ x then .inf else if x ≤ -double_overflow then .neg_inf else .finite x

/-- `float(n)` of an integer. -/
def float_of_int (n : Int) : Except PyError ℚ :=
  match float_of_rat n with
  | .finite x => .ok x
  | _ => .error (.OverflowError "int too large to convert to float")

instance : Neg PyFloat where
  neg
    | .finite x => .finite (-x)
    | .inf => .neg_inf
    | .neg_inf => .inf
    | .nan => .nan

/-- `float` of ASCII characters, when it succeeds. -/
def float_of_ascii (cs : List Char) : Option PyFloat :=
  let unsigned (cs : List Char) : Option PyFloat :=
    let word := (String.ofList cs).toLower
    if word = "inf" ∨ word = "infinity" then some .inf
    else if word = "nan" then some .nan
    else (decimal cs).map float_of_rat
  signed unsigned (strip_chars cs)

section

-- the decimal digits beyond ASCII in the interpreter's Unicode database
variable (decimal_digit : Nat → Option Nat)

/-- What `int` and `float` take a code point for. -/
def to_ascii (c : Nat) : Char :=
  if 28 ≤ c ∧ c ≤ 31 then '?'
  else if c < 128 then Char.ofNat c
  else if is_space (Char.ofNat c) then ' '
  else
    match decimal_digit c with
    | some d => Nat.digitChar d
    | none => '?'

def ascii_chars (s : String) : List Char := s.toList.map fun c => to_ascii decimal_digit c.toNat

/-- `int(s, base)` for base 0 or 10, when it succeeds. -/
def read_int (base : Nat) (s : String) : Option Int :=
  let cs := strip_chars (ascii_chars decimal_digit s)
  if MAX_STR_DIGITS < leading_digits cs then none else int_of_ascii base cs

/-- What `int(s, base)` raises for the string whose `repr` is given. -/
def int_error (base : Nat) (repr s : String) : PyError :=
  let count := leading_digits (strip_chars (ascii_chars decimal_digit s))
  if MAX_STR_DIGITS < count then
    .ValueError s!"Exceeds the limit ({MAX_STR_DIGITS} digits) for integer string conversion: value has {count} digits; use sys.set_int_max_str_digits() to increase the limit"
  else
    .ValueError s!"invalid literal for int() with base {base}: {String.ofList (repr.toList.take 200)}"

/-- `float(s)`, when it succeeds. -/
def read_float (s : String) : Option PyFloat := float_of_ascii (ascii_chars decimal_digit s)

end

namespace PyValue

def type_name : PyValue → String
  | .scalar s => s.type_name
  | .list _ => "list"
  | .dict _ => "dict"

/-- `bool(v)`. -/
def truthy : PyValue → Bool
  | .scalar s => s.truthy
  | .list items => !items.isEmpty
  | .dict entries => !entries.isEmpty

/-- An entry of a dict: two texts. -/
def text_entry (key value : String) : Scalar × PyValue := (.str key, .scalar (.str value))

/-- The value under the string key `k` of a dict with these entries. -/
def lookup (k : String) (entries : List (Scalar × PyValue)) : Option PyValue :=
  (entries.reverse.find? fun entry => entry.1 = .str k).map Prod.snd

/-- The entries that come last win. -/
theorem lookup_append (k : String) (entries entries' : List (Scalar × PyValue)) :
    lookup k (entries ++ entries') = (lookup k entries').or (lookup k entries) := by
  rw [lookup, List.reverse_append, List.find?_append, Option.map_or]
  rfl

theorem lookup_eq_none {k : String} {entries : List (Scalar × PyValue)}
    (h : ∀ entry ∈ entries, entry.1 ≠ .str k) : lookup k entries = none := by
  rw [lookup, Option.map_eq_none_iff, List.find?_eq_none]
  intro entry hmem
  simpa using h entry (List.mem_reverse.mp hmem)

/-- An entry that may be left out, with another key. -/
theorem lookup_optional {α : Type} {k : String} {entry : α → Scalar × PyValue} (o : Option α)
    (h : ∀ x, (entry x).1 ≠ .str k) : lookup k (o.map entry).toList = none := by
  refine lookup_eq_none fun e he => ?_
  rw [Option.mem_toList, Option.map_eq_some_iff] at he
  obtain ⟨x, -, rfl⟩ := he
  exact h x

theorem lookup_optional_text {k key : String} (o : Option String) (h : key ≠ k) :
    lookup k (o.map (text_entry key)).toList = none :=
  lookup_optional o fun _ heq => h (Scalar.str.inj heq)

/-- `v[k]` for a string `k`. -/
def get_item (k : String) : PyValue → Except PyError PyValue
  | .dict entries =>
    match lookup k entries with
    | some v => .ok v
    | none => .error (.KeyError k)
  | .list _ => .error (.TypeError "list indices must be integers or slices, not str")
  | .scalar (.str _) => .error (.TypeError "string indices must be integers, not 'str'")
  | .scalar s => .error (.TypeError s!"'{s.type_name}' object is not subscriptable")

/-- `v.get(k)`, which is `None` for a key that is not there. -/
def get (k : String) : PyValue → Except PyError (Option PyValue)
  | .dict entries => .ok (lookup k entries)
  | v => .error (.AttributeError s!"'{v.type_name}' object has no attribute 'get'")

/-- `v.get(k, default)`. -/
def get_or (k : String) (v default : PyValue) : Except PyError PyValue := do
  return (← v.get k).getD default

/-- `k in v` for a string `k`. -/
def contains (k : String) : PyValue → Except PyError Bool
  | .dict entries => .ok (lookup k entries).isSome
  | .list items =>
    .ok (items.any fun item =>
      match item with
      | .scalar (.str s) => s = k
      | _ => false)
  | .scalar (.str s) => .ok ((s.splitOn k).length ≠ 1)
  | .scalar s => .error (.TypeError s!"argument of type '{s.type_name}' is not iterable")

/-- `for item in v`. -/
def items : PyValue → Except PyError (List PyValue)
  | .list items => .ok items
  | .dict entries => .ok (entries.map fun entry => .scalar entry.1)
  | .scalar (.str s) => .ok (s.toList.map fun c => .scalar (.str (String.singleton c)))
  | .scalar s => .error (.TypeError s!"'{s.type_name}' object is not iterable")

/-- `hash(v)`, as the key it stands for in a dict. -/
def hash_key : PyValue → Except PyError Scalar
  | .scalar s => .ok s.key
  | v => .error (.TypeError s!"unhashable type: '{v.type_name}'")

/-- `set(v)`. -/
def to_set (v : PyValue) : Except PyError (List Scalar) := do
  (← v.items).mapM hash_key

/-- `v or []`, with `None` for a key that is not there. -/
def or_empty : Option PyValue → PyValue
  | some v => if v.truthy then v else .list []
  | none => .list []

/-- `str(v)`, with the texts of what is not a string. -/
def to_str (text : PyValue → String) : PyValue → String
  | .scalar (.str s) => s
  | v => text v

/-- A list of strings. -/
def strings (ss : List String) : PyValue := .list (ss.map fun s => .scalar (.str s))

@[simp] theorem to_set_strings (ss : List String) : (strings ss).to_set = .ok (ss.map .str) := by
  simp only [to_set, strings, items, bind, Except.bind, List.mapM_map]
  exact List.mapM_pure

/-- `int(v)`. -/
def to_int (decimal_digit : Nat → Option Nat) (repr : PyValue → String) :
    PyValue → Except PyError Int
  | .scalar (.bool b) => .ok (if b then 1 else 0)
  | .scalar (.int n) => .ok n
  | .scalar (.float (.finite x)) => .ok (int_of x)
  | .scalar (.float .nan) => .error (.ValueError "cannot convert float NaN to integer")
  | .scalar (.float _) => .error (.OverflowError "cannot convert float infinity to integer")
  | .scalar (.str s) =>
    match read_int decimal_digit 10 s with
    | some n => .ok n
    | none => .error (int_error decimal_digit 10 (repr (.scalar (.str s))) s)
  | v => .error (.TypeError s!"int() argument must be a string, a bytes-like object or a real number, not '{v.type_name}'")

/-- `float(v)`. -/
def to_float (decimal_digit : Nat → Option Nat) (repr : PyValue → String) :
    PyValue → Except PyError PyFloat
  | .scalar (.bool b) => .ok (.finite (if b then 1 else 0))
  | .scalar (.int n) => (float_of_int n).map .finite
  | .scalar (.float x) => .ok x
  | .scalar (.str s) =>
    match read_float decimal_digit s with
    | some x => .ok x
    | none => .error (.ValueError s!"could not convert string to float: {repr (.scalar (.str s))}")
  | v => .error (.TypeError s!"float() argument must be a string or a real number, not '{v.type_name}'")

end PyValue

end Python
