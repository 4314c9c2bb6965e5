import InverterBridge.Lib.JsonText
import InverterBridge.Lib.PyValue

/-! Python values as `json.dumps` takes them and `json.loads` returns them. -/

namespace Python

/-- The code points of a text. -/
def code_points (s : String) : Json.PyStr := s.toList.map Char.toNat

/-- The text with these code points; with a surrogate among them there is none. -/
def of_code_points (s : Json.PyStr) : Option String :=
  if ∀ c ∈ s, Nat.isValidChar c then some (String.ofList (s.map Char.ofNat)) else none

theorem isScalar_code_points (s : String) : ∀ c ∈ code_points s, Json.IsScalar c := by
  intro n hn
  obtain ⟨c, -, rfl⟩ := List.mem_map.mp hn
  exact Json.isScalar_toNat c

@[simp] theorem of_code_points_code_points (s : String) :
    of_code_points (code_points s) = some s := by
  have hvalid : ∀ c ∈ code_points s, Nat.isValidChar c := by
    intro n hn
    obtain ⟨c, -, rfl⟩ := List.mem_map.mp hn
    exact c.valid
  rw [of_code_points, if_pos hvalid, code_points, List.map_map]
  have hid : Char.ofNat ∘ Char.toNat = id := funext Char.ofNat_toNat
  rw [hid, List.map_id, String.ofList_toList]

namespace PyValue

section

-- `float.__repr__` of a finite float
variable (float_repr : ℚ → List Char)

/-- What `json.dumps` writes for a scalar; a date is not serializable. -/
def scalar_to_json : Scalar → Option Json.Value
  | .null => some .null
  | .bool b => some (.bool b)
  | .int n => some (.int n)
  | .float x => some (.float x)
  | .str s => some (.str (code_points s))
  | .date _ _ => none

/-- What `json.dumps` writes for a key: the text of a number, too. -/
def key_to_json : Scalar → Option Json.PyStr
  | .str s => some (code_points s)
  | .date _ _ => none
  | .null => some (code_points "null")
  | .bool b => some (code_points (if b then "true" else "false"))
  | .int n => some ((Json.int_text n).map Char.toNat)
  | .float x => some ((Json.dumps float_repr (.float x)).map Char.toNat)

mutual

/-- The value that `json.dumps` writes. -/
def to_json : PyValue → Option Json.Value
  | .scalar s => scalar_to_json s
  | .list items => (items_to_json items).map .list
  | .dict entries => (members_to_json entries).map .dict

def items_to_json : List PyValue → Option (List Json.Value)
  | [] => some []
  | item :: items => do return (← to_json item) :: (← items_to_json items)

def members_to_json : List (Scalar × PyValue) → Option (List (Json.PyStr × Json.Value))
  | [] => some []
  | (key, value) :: entries => do
    return (← key_to_json float_repr key, ← to_json value) :: (← members_to_json entries)

end

/-- `json.dumps(value)`. -/
def json_dumps (value : PyValue) : Option String :=
  (to_json float_repr value).map fun v => String.ofList (Json.dumps float_repr v)

end

mutual

/-- The value that `json.loads` returns. A text with a lone surrogate is none here. -/
def of_json : Json.Value → Option PyValue
  | .null => some (.scalar .null)
  | .bool b => some (.scalar (.bool b))
  | .int n => some (.scalar (.int n))
  | .float x => some (.scalar (.float x))
  | .str s => (of_code_points s).map fun s => .scalar (.str s)
  | .list items => (items_of_json items).map .list
  | .dict entries => (members_of_json entries).map .dict

def items_of_json : List Json.Value → Option (List PyValue)
  | [] => some []
  | item :: items => do return (← of_json item) :: (← items_of_json items)

def members_of_json : List (Json.PyStr × Json.Value) → Option (List (Scalar × PyValue))
  | [] => some []
  | (key, value) :: entries => do
    return (.str (← of_code_points key), ← of_json value) :: (← members_of_json entries)

end

variable (float_repr : ℚ → List Char)

/-- A value that is written and read back with `limit` dicts and lists around one another. -/
inductive Encodable : Nat → PyValue → Prop
  | null {limit : Nat} : Encodable limit (.scalar .null)
  | bool {limit : Nat} (b : Bool) : Encodable limit (.scalar (.bool b))
  | int {limit : Nat} {n : Int}
      (hlength : (Nat.toDigits 10 n.natAbs).length ≤ Json.MAX_STR_DIGITS) :
      Encodable limit (.scalar (.int n))
  | finite {limit : Nat} {x : ℚ}
      (hx : Json.DelimitedNumber (float_repr x) (.float (.finite x))) :
      Encodable limit (.scalar (.float (.finite x)))
  | str {limit : Nat} (s : String) : Encodable limit (.scalar (.str s))
  | list {limit : Nat} {items : List PyValue} (hitems : ∀ item ∈ items, Encodable limit item) :
      Encodable (limit + 1) (.list items)
  | dict {limit : Nat} {entries : List (Scalar × PyValue)}
      (hkeys : ∀ entry ∈ entries, ∃ key, entry.1 = .str key)
      (hvalues : ∀ entry ∈ entries, Encodable limit entry.2) :
      Encodable (limit + 1) (.dict entries)

variable {float_repr}

/-- How a value is written and read back. -/
def ReadsBack (float_repr : ℚ → List Char) (limit : Nat) (value : PyValue) (v : Json.Value) :
    Prop :=
  to_json float_repr value = some v ∧ Json.Dumpable float_repr limit v ∧ of_json v = some value

theorem items_read_back {limit : Nat} {items : List PyValue}
    (h : ∀ item ∈ items, ∃ v, ReadsBack float_repr limit item v) :
    ∃ vs, items_to_json float_repr items = some vs ∧
      (∀ v ∈ vs, Json.Dumpable float_repr limit v) ∧ items_of_json vs = some items := by
  induction items with
  | nil => exact ⟨[], rfl, nofun, rfl⟩
  | cons item items ih =>
    rw [List.forall_mem_cons] at h
    obtain ⟨⟨v, hto, hdump, hof⟩, hrest⟩ := h
    obtain ⟨vs, htos, hdumps, hofs⟩ := ih hrest
    refine ⟨v :: vs, ?_, List.forall_mem_cons.mpr ⟨hdump, hdumps⟩, ?_⟩
    · rw [items_to_json, hto, htos]
      rfl
    · rw [items_of_json, hof, hofs]
      rfl

theorem members_read_back {limit : Nat} {entries : List (Scalar × PyValue)}
    (hkeys : ∀ entry ∈ entries, ∃ key, entry.1 = .str key)
    (h : ∀ entry ∈ entries, ∃ v, ReadsBack float_repr limit entry.2 v) :
    ∃ vs, members_to_json float_repr entries = some vs ∧
      (∀ v ∈ vs, ∀ c ∈ v.1, Json.IsScalar c) ∧
      (∀ v ∈ vs, Json.Dumpable float_repr limit v.2) ∧ members_of_json vs = some entries := by
  induction entries with
  | nil => exact ⟨[], rfl, nofun, nofun, rfl⟩
  | cons entry entries ih =>
    rw [List.forall_mem_cons] at hkeys h
    obtain ⟨key, value⟩ := entry
    obtain ⟨⟨name, hname⟩, hkeys⟩ := hkeys
    obtain ⟨⟨v, hto, hdump, hof⟩, hrest⟩ := h
    obtain ⟨vs, htos, hscalar, hdumps, hofs⟩ := ih hkeys hrest
    dsimp only at hname hto hof
    subst hname
    refine ⟨(code_points name, v) :: vs, ?_, List.forall_mem_cons.mpr ⟨isScalar_code_points name,
      hscalar⟩, List.forall_mem_cons.mpr ⟨hdump, hdumps⟩, ?_⟩
    · rw [members_to_json, hto, htos]
      rfl
    · rw [members_of_json, of_code_points_code_points, hof, hofs]
      rfl

theorem exists_readsBack {limit : Nat} {value : PyValue}
    (h : Encodable float_repr limit value) : ∃ v, ReadsBack float_repr limit value v := by
  induction h with
  | null => exact ⟨.null, rfl, .null, rfl⟩
  | bool b => exact ⟨.bool b, rfl, .bool b, rfl⟩
  | int hlength => exact ⟨_, rfl, .int hlength, rfl⟩
  | finite hx => exact ⟨_, rfl, .finite hx, rfl⟩
  | str s =>
    refine ⟨.str (code_points s), rfl, .str (isScalar_code_points s), ?_⟩
    rw [of_json, of_code_points_code_points]
    rfl
  | list hitems ih =>
    obtain ⟨vs, hto, hdumps, hof⟩ := items_read_back ih
    refine ⟨.list vs, ?_, .list hdumps, ?_⟩
    · rw [to_json, hto]
      rfl
    · rw [of_json, hof]
      rfl
  | dict hkeys hvalues ih =>
    obtain ⟨vs, hto, hscalar, hdumps, hof⟩ := members_read_back hkeys ih
    refine ⟨.dict vs, ?_, .dict hscalar hdumps, ?_⟩
    · rw [to_json, hto]
      rfl
    · rw [of_json, hof]
      rfl

/-- What `json.dumps` writes of a value is loaded as the value. -/
theorem loads_json_dumps {limit : Nat} {value : PyValue} (h : Encodable float_repr limit value) :
    ∃ text v, json_dumps float_repr value = some text ∧ Json.loads limit text.toList = .ok v ∧
      of_json v = some value := by
  obtain ⟨v, hto, hdump, hof⟩ := exists_readsBack h
  refine ⟨String.ofList (Json.dumps float_repr v), v, ?_, ?_, hof⟩
  · rw [json_dumps, hto, Option.map_some]
  · rw [String.toList_ofList]
    exact Json.loads_dumps hdump

end PyValue

end Python
