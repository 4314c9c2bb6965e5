import InverterBridge.EnergyIntegrator.Accounting
import InverterBridge.Lib.Json
import InverterBridge.Lib.TextFile

open Python

namespace inverter_bridge.energy_integrator

/-- `_PERSIST_VERSION`. -/
def PERSIST_VERSION : Int := 1

/-- The key of an accumulator in the persist file. -/
def WhKey.name : WhKey → String
  | .battery_energy_in_wh => "battery_energy_in_wh"
  | .battery_energy_out_wh => "battery_energy_out_wh"
  | .pv_energy_wh => "pv_energy_wh"
  | .load_energy_wh => "load_energy_wh"
  | .grid_energy_in_wh => "grid_energy_in_wh"
  | .grid_energy_out_wh => "grid_energy_out_wh"

/-- An exception in `load`. -/
inductive LoadError where
  | read (e : ReadError)
  | loads (e : Json.Error)
  | OverflowError
  deriving DecidableEq

/-- `except (OSError, json.JSONDecodeError)`. -/
def LoadError.caught : LoadError → Bool
  | .read .OSError | .loads .JSONDecodeError => true
  | _ => false

/-- `json.loads(self.persist_path.read_text(encoding="utf-8"))`, with `limit` levels of
nesting left to the interpreter. -/
def read_data (limit : Nat) (file : TextFile) : Except LoadError Json.Value :=
  match file.read_text decode_utf8 with
  | .error e => .error (.read e)
  | .ok raw =>
    match Json.loads limit raw with
    | .error e => .error (.loads e)
    | .ok data => .ok data

/-- `version == _PERSIST_VERSION`, which `True` and `1.0` are too. -/
def version_matches : Option Json.Value → Bool
  | some (.int n) => n = PERSIST_VERSION
  | some (.bool b) => b
  | some (.float x) => x = .finite PERSIST_VERSION
  | _ => false

/-- `float(n)` of an integer. -/
def float_of_int (n : Int) : Except LoadError PyFloat :=
  match PyFloat.nearest_double n with
  | .finite x => .ok (.finite x)
  | _ => .error .OverflowError

/-- A persisted number, or zero when `not math.isfinite(f) or f < 0`. -/
def checked : PyFloat → PyFloat
  | .finite f => if f < 0 then .finite 0 else .finite f
  | _ => .finite 0

/-- What is restored from `data.get(key, 0.0)`. -/
def restored_value (value : Option Json.Value) : Except LoadError PyFloat :=
  match value.getD (.float (.finite 0)) with
  | .int n => do return checked (← float_of_int n)
  | .float f => .ok (checked f)
  | _ => .ok (.finite 0)

namespace EnergyIntegrator

/-- The loop over `_WH_KEYS`: `restored[key] = f`. -/
def restore (entries : List (Json.PyStr × Json.Value)) : Except LoadError EnergyIntegrator :=
  WH_KEYS.foldlM (fun restored key => do
    let f ← restored_value (Json.get key.name entries)
    return ⟨Function.update restored.wh key f⟩) zero

/-- `load()`. -/
def load (limit : Nat) (self : EnergyIntegrator) (file : TextFile) :
    Except LoadError EnergyIntegrator :=
  if ¬ file.exists_ then .ok self
  else
    match read_data limit file with
    | .error e => if e.caught then .ok zero else .error e
    | .ok (.dict entries) =>
      if version_matches (Json.get "version" entries) then restore entries else .ok zero
    | .ok _ => .ok zero

/-- `EnergyIntegrator(persist_path)`. -/
def init (limit : Nat) (file : TextFile) : Except LoadError EnergyIntegrator :=
  if file.exists_ then zero.load limit file else .ok zero

end EnergyIntegrator

/-! ## What is restored -/

/-- The float a persisted value stands for. -/
def as_float : Option Json.Value → PyFloat
  | some (.int n) => PyFloat.nearest_double n
  | some (.float x) => x
  | _ => .nan

/-- A persisted value is valid: a number that is finite and not negative. -/
def ValidEnergy (value : Option Json.Value) (x : ℚ) : Prop := as_float value = .finite x ∧ 0 ≤ x

/-- A persisted value is no integer beyond the floats. -/
def FitsFloat (value : Option Json.Value) : Prop :=
  ∀ n, value = some (.int n) → ∃ x, PyFloat.nearest_double n = .finite x

theorem checked_finite {x : ℚ} (hx : 0 ≤ x) : checked (.finite x) = .finite x := by
  rw [checked, if_neg (not_lt.mpr hx)]

theorem checked_sound (f : PyFloat) : (checked f).Sound := by
  unfold checked
  split
  case h_1 x =>
    split_ifs with hneg
    · exact ⟨0, le_refl 0, rfl⟩
    · exact ⟨x, not_lt.mp hneg, rfl⟩
  case h_2 => exact ⟨0, le_refl 0, rfl⟩

/-- A valid value passes the check, and any other becomes zero. -/
theorem checked_of_not_valid {value : Option Json.Value} (h : ∀ x, ¬ ValidEnergy value x) :
    checked (as_float value) = .finite 0 := by
  unfold checked
  split
  case h_1 x hx =>
    have hneg : x < 0 := not_le.mp fun hnonneg => h x ⟨hx, hnonneg⟩
    rw [if_pos hneg]
  case h_2 => rfl

theorem restored_value_eq_ok_iff {value : Option Json.Value} {f : PyFloat} :
    restored_value value = .ok f ↔ FitsFloat value ∧ f = checked (as_float value) := by
  cases value with
  | none =>
    constructor
    · rintro hok
      cases hok
      exact ⟨nofun, rfl⟩
    · rintro ⟨-, rfl⟩
      rfl
  | some value =>
    cases value with
    | int n =>
      rw [restored_value, Option.getD_some, bind_eq_ok_iff]
      unfold float_of_int
      constructor
      · rintro ⟨x, hx, hf⟩
        split at hx
        case h_1 y hy =>
          cases hx
          cases hf
          refine ⟨fun m hm => ?_, by rw [as_float, hy]⟩
          cases hm
          exact ⟨y, hy⟩
        case h_2 => cases hx
      · rintro ⟨hfits, rfl⟩
        obtain ⟨x, hx⟩ := hfits n rfl
        refine ⟨.finite x, by rw [hx], ?_⟩
        rw [as_float, hx]
        rfl
    | null | bool | float | str | list | dict =>
      constructor
      · rintro hok
        cases hok
        exact ⟨nofun, rfl⟩
      · rintro ⟨-, rfl⟩
        rfl

namespace EnergyIntegrator

theorem foldlM_restored {entries : List (Json.PyStr × Json.Value)} {keys : List WhKey}
    (hnodup : keys.Nodup) {self self' : EnergyIntegrator} :
    (keys.foldlM (fun restored key => do
      let f ← restored_value (Json.get key.name entries)
      return (⟨Function.update restored.wh key f⟩ : EnergyIntegrator)) self) = .ok self' ↔
      (∀ k ∈ keys, restored_value (Json.get k.name entries) = .ok (self'.wh k)) ∧
        ∀ k ∉ keys, self'.wh k = self.wh k := by
  induction keys generalizing self with
  | nil =>
    rw [List.foldlM_nil]
    constructor
    · rintro hok
      cases hok
      exact ⟨nofun, fun _ _ => rfl⟩
    · rintro ⟨-, hsame⟩
      exact congrArg Except.ok (EnergyIntegrator.ext (funext fun k => (hsame k nofun).symm))
  | cons key keys ih =>
    rw [List.nodup_cons] at hnodup
    rw [List.foldlM_cons, bind_eq_ok_iff]
    constructor
    · rintro ⟨next, hnext, hrest⟩
      rw [bind_eq_ok_iff] at hnext
      obtain ⟨f, hf, heq⟩ := hnext
      cases heq
      rw [ih hnodup.2] at hrest
      have hkey : self'.wh key = f := (hrest.2 key hnodup.1).trans (Function.update_self _ _ _)
      refine ⟨List.forall_mem_cons.mpr ⟨hkey ▸ hf, hrest.1⟩, fun k hk => ?_⟩
      rw [List.mem_cons, not_or] at hk
      exact (hrest.2 k hk.2).trans (Function.update_of_ne hk.1 _ _)
    · rintro ⟨hrestored, hsame⟩
      rw [List.forall_mem_cons] at hrestored
      refine ⟨_, bind_eq_ok_iff.mpr ⟨_, hrestored.1, rfl⟩, (ih hnodup.2).mpr ⟨hrestored.2, ?_⟩⟩
      intro k hk
      by_cases hkey : k = key
      · subst hkey
        exact (Function.update_self k (self'.wh k) self.wh).symm
      · have hold := hsame k fun hmem => (List.mem_cons.mp hmem).elim hkey hk
        exact hold.trans (Function.update_of_ne hkey _ _).symm

/-- The values are restored when they all are floats or stand for none. -/
theorem restore_eq_ok_iff {entries : List (Json.PyStr × Json.Value)} {self : EnergyIntegrator} :
    restore entries = .ok self ↔
      ∀ k, FitsFloat (Json.get k.name entries) ∧
        self.wh k = checked (as_float (Json.get k.name entries)) := by
  have hall : ∀ k, k ∈ WH_KEYS := by
    intro k
    cases k <;> decide
  rw [restore, foldlM_restored (by decide)]
  constructor
  · rintro ⟨hrestored, -⟩ k
    exact restored_value_eq_ok_iff.mp (hrestored k (hall k))
  · intro hrestored
    exact ⟨fun k _ => restored_value_eq_ok_iff.mpr (hrestored k),
      fun k hk => absurd (hall k) hk⟩

end EnergyIntegrator

/-! ## Loading a persist file -/

/-- The entries of a file that holds a JSON object whose version equals 1. -/
def versioned_entries (limit : Nat) (contents : ByteArray) :
    Option (List (Json.PyStr × Json.Value)) :=
  match read_data limit (.present contents) with
  | .ok (.dict entries) => if version_matches (Json.get "version" entries) then some entries else none
  | _ => none

/-- The constructor returns, with sound accumulators: zeros, unless the file holds a JSON
object of version 1, of which each valid key is restored and every other key is zero. -/
def LoadsSafely (limit : Nat) (contents : ByteArray) : Prop :=
  ∃ self, EnergyIntegrator.init limit (.present contents) = .ok self ∧ self.Sound ∧
    (versioned_entries limit contents = none → self = .zero) ∧
    ∀ entries, versioned_entries limit contents = some entries → ∀ k,
      (∀ x, ValidEnergy (Json.get k.name entries) x → self.wh k = .finite x) ∧
        ((∀ x, ¬ ValidEnergy (Json.get k.name entries) x) → self.wh k = .finite 0)

/-- The text is UTF-8, the JSON parser does not give up on it for its nesting or the length
of an integer literal, and no integer that is to be restored is beyond the floats. -/
def Loadable (limit : Nat) (contents : ByteArray) : Prop :=
  (∃ text, decode_utf8 contents = some text ∧
    ∀ e, Json.loads limit (translate_newlines text) = .error e → e = .JSONDecodeError) ∧
  ∀ entries, versioned_entries limit contents = some entries → ∀ k : WhKey,
    FitsFloat (Json.get k.name entries)

theorem EnergyIntegrator.zero_sound : EnergyIntegrator.zero.Sound := fun _ => ⟨0, le_refl 0, rfl⟩

theorem read_data_present (limit : Nat) (contents : ByteArray) :
    read_data limit (.present contents) =
      match decode_utf8 contents with
      | none => .error (.read .UnicodeDecodeError)
      | some text =>
        match Json.loads limit (translate_newlines text) with
        | .error e => .error (.loads e)
        | .ok data => .ok data := by
  unfold read_data TextFile.read_text
  dsimp only
  cases decode_utf8 contents with
  | none => rfl
  | some text => rfl

/-- Which contents are read, or raise what `load` catches. -/
theorem read_data_caught_iff {limit : Nat} {contents : ByteArray} :
    (∀ e, read_data limit (.present contents) = .error e → e.caught) ↔
      ∃ text, decode_utf8 contents = some text ∧
        ∀ e, Json.loads limit (translate_newlines text) = .error e → e = .JSONDecodeError := by
  rw [read_data_present]
  cases decode_utf8 contents with
  | none =>
    constructor
    · intro hcaught
      cases hcaught _ rfl
    · rintro ⟨text, htext, -⟩
      cases htext
  | some text =>
    dsimp only
    cases hloads : Json.loads limit (translate_newlines text) with
    | ok data =>
      constructor
      · exact fun _ => ⟨text, rfl, fun e he => by rw [hloads] at he; cases he⟩
      · exact fun _ _ he => by cases he
    | error e =>
      constructor
      · intro hcaught
        refine ⟨text, rfl, fun e' he => ?_⟩
        rw [hloads, Except.error.injEq] at he
        subst he
        have hloads_caught := hcaught _ rfl
        cases e with
        | JSONDecodeError => rfl
        | RecursionError | ValueError => cases hloads_caught
      · rintro ⟨text', htext, hdecode⟩ e' he
        cases htext
        cases he
        rw [hdecode e hloads]
        rfl

theorem init_present (limit : Nat) (contents : ByteArray) :
    EnergyIntegrator.init limit (.present contents) =
      match read_data limit (.present contents) with
      | .error e => if e.caught then .ok .zero else .error e
      | .ok _ =>
        match versioned_entries limit contents with
        | some entries => EnergyIntegrator.restore entries
        | none => .ok .zero := by
  have hexists : (TextFile.present contents).exists_ = true := rfl
  unfold EnergyIntegrator.init EnergyIntegrator.load versioned_entries
  rw [if_pos hexists, if_neg (not_not.mpr hexists)]
  cases read_data limit (.present contents) with
  | error e => rfl
  | ok data =>
    cases data with
    | dict entries =>
      dsimp only
      split_ifs
      · rfl
      · rfl
    | null | bool | int | float | str | list => rfl

/-- Restored accumulators are as the entries say, and sound. -/
theorem loadsSafely_of_restore {limit : Nat} {contents : ByteArray}
    {entries : List (Json.PyStr × Json.Value)} {self : EnergyIntegrator}
    (hinit : EnergyIntegrator.init limit (.present contents) = .ok self)
    (hentries : versioned_entries limit contents = some entries)
    (hself : ∀ k, self.wh k = checked (as_float (Json.get k.name entries))) :
    LoadsSafely limit contents := by
  refine ⟨self, hinit, fun k => ?_, ?_, ?_⟩
  · rw [hself k]
    exact checked_sound _
  · rw [hentries]
    nofun
  · intro entries' hentries' k
    cases hentries.symm.trans hentries'
    rw [hself k]
    refine ⟨fun x hx => ?_, checked_of_not_valid⟩
    rw [hx.1, checked_finite hx.2]

/-- Zeros are safe when there is nothing to restore. -/
theorem loadsSafely_of_zero {limit : Nat} {contents : ByteArray}
    (hinit : EnergyIntegrator.init limit (.present contents) = .ok .zero)
    (hnone : versioned_entries limit contents = none) : LoadsSafely limit contents := by
  refine ⟨.zero, hinit, EnergyIntegrator.zero_sound, fun _ => rfl, ?_⟩
  intro entries hentries
  rw [hnone] at hentries
  cases hentries

/-- Contents that cannot be read are loaded safely when the exception is caught. -/
theorem loadsSafely_iff_of_error {limit : Nat} {contents : ByteArray} {e : LoadError}
    (hread : read_data limit (.present contents) = .error e) :
    LoadsSafely limit contents ↔ e.caught := by
  have hinit := init_present limit contents
  rw [hread] at hinit
  dsimp only at hinit
  constructor
  · rintro ⟨self, hok, -⟩
    by_contra hcaught
    rw [if_neg hcaught, hok] at hinit
    cases hinit
  · intro hcaught
    rw [if_pos hcaught] at hinit
    have hnone : versioned_entries limit contents = none := by rw [versioned_entries, hread]
    exact loadsSafely_of_zero hinit hnone

/-- Entries are restored safely when none of them is beyond the floats. -/
theorem loadsSafely_iff_of_entries {limit : Nat} {contents : ByteArray} {data : Json.Value}
    {entries : List (Json.PyStr × Json.Value)}
    (hread : read_data limit (.present contents) = .ok data)
    (hentries : versioned_entries limit contents = some entries) :
    LoadsSafely limit contents ↔ ∀ k : WhKey, FitsFloat (Json.get k.name entries) := by
  have hinit := init_present limit contents
  rw [hread, hentries] at hinit
  dsimp only at hinit
  constructor
  · rintro ⟨self, hok, -⟩ k
    exact (EnergyIntegrator.restore_eq_ok_iff.mp (hinit.symm.trans hok) k).1
  · intro hfits
    have hrestore : EnergyIntegrator.restore entries = .ok ⟨fun k =>
        checked (as_float (Json.get k.name entries))⟩ :=
      EnergyIntegrator.restore_eq_ok_iff.mpr fun k => ⟨hfits k, rfl⟩
    exact loadsSafely_of_restore (hinit.trans hrestore) hentries fun _ => rfl

/-- Whatever the bytes in the persist file: the constructor restores them safely exactly when
its two `except` clauses cover what reading them raises, and no number is too large. -/
theorem loadsSafely_iff (limit : Nat) (contents : ByteArray) :
    LoadsSafely limit contents ↔ Loadable limit contents := by
  unfold Loadable
  rw [← read_data_caught_iff]
  cases hread : read_data limit (.present contents) with
  | error e =>
    have hnone : versioned_entries limit contents = none := by rw [versioned_entries, hread]
    rw [loadsSafely_iff_of_error hread, hnone]
    constructor
    · intro hcaught
      refine ⟨fun e' he => ?_, nofun⟩
      cases he
      exact hcaught
    · exact fun h => h.1 e rfl
  | ok data =>
    cases hentries : versioned_entries limit contents with
    | none =>
      have hinit := init_present limit contents
      rw [hread, hentries] at hinit
      have hsafe : LoadsSafely limit contents := loadsSafely_of_zero hinit hentries
      exact ⟨fun _ => ⟨nofun, nofun⟩, fun _ => hsafe⟩
    | some entries =>
      rw [loadsSafely_iff_of_entries hread hentries]
      constructor
      · intro hfits
        refine ⟨nofun, fun entries' heq => ?_⟩
        cases heq
        exact hfits
      · exact fun h => h.2 entries rfl

/-- A byte that no UTF-8 text contains stops the daemon. -/
theorem not_loadsSafely_invalid_utf8 : ¬ LoadsSafely 1000 ⟨#[0xFF]⟩ := by
  rintro ⟨self, hinit, -⟩
  have hraised : EnergyIntegrator.init 1000 (.present ⟨#[0xFF]⟩) =
      .error (.read .UnicodeDecodeError) := by rfl
  cases hraised.symm.trans hinit

end inverter_bridge.energy_integrator
