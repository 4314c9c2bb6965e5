import InverterBridge.Lib.Json
import InverterBridge.Lib.TextFile

open Python

namespace inverter_bridge.bms.service

/-- The energy totals of `BmsService`, with the times of the last sample and the last save. -/
structure BmsService where
  energy_in_Wh : PyFloat
  energy_out_Wh : PyFloat
  last_energy_sample_t : Option ℚ
  last_energy_save_t : ℚ

/-- `BmsService.__init__` at the time `now`. -/
def BmsService.init (now : ℚ) : BmsService := ⟨.finite 0, .finite 0, none, now⟩

section

-- the platform's text decoder, the nesting left to the interpreter and its Unicode digits
variable (decode : ByteArray → Option (List Char)) (limit : Nat) (decimal_digit : Nat → Option Nat)

/-- `json.loads(self._energy_persist.read_text())`, when it raises nothing. -/
def read_data (file : TextFile) : Option Json.Value :=
  match file.read_text decode with
  | .error _ => none
  | .ok raw =>
    match Json.loads limit raw with
    | .error _ => none
    | .ok d => some d

/-- `float(d.get(key, 0.0))`, when it raises nothing. -/
def float_entry (key : String) (d : List (Json.PyStr × Json.Value)) : Option PyFloat :=
  Json.to_float decimal_digit ((Json.get key d).getD (.float (.finite 0)))

/-- `_load_energy_state()`: every exception is logged, and leaves the totals as they are at
that point. -/
def BmsService.load_energy_state (self : BmsService) (file : TextFile) : BmsService :=
  if ¬ file.exists_ then self
  else
    match read_data decode limit file with
    | some (.dict d) =>
      match float_entry decimal_digit "energy_in_Wh" d with
      | none => self
      | some energy_in =>
        let self := { self with energy_in_Wh := energy_in }
        match float_entry decimal_digit "energy_out_Wh" d with
        | none => self
        | some energy_out => { self with energy_out_Wh := energy_out }
    | _ => self

/-! ## All or nothing -/

/-- An entry that can be a total: missing, or a number that is finite and not negative. -/
def Usable (key : String) (d : List (Json.PyStr × Json.Value)) : Prop :=
  match (Json.get key d).getD (.float (.finite 0)) with
  | .int n => (PyFloat.nearest_double n).Sound
  | .float x => x.Sound
  | _ => False

/-- A file that is a JSON object with two usable entries. -/
def UsableFile (file : TextFile) : Prop :=
  ∃ d, read_data decode limit file = some (.dict d) ∧ Usable "energy_in_Wh" d ∧
    Usable "energy_out_Wh" d

/-- A service that starts up with this file has sound totals: both of them from the file, or
both zero when any part of it is unusable. -/
def AllOrNothing (file : TextFile) : Prop :=
  ∀ now, let self := (BmsService.init now).load_energy_state decode limit decimal_digit file
    self.energy_in_Wh.Sound ∧ self.energy_out_Wh.Sound ∧
      (UsableFile decode limit file → ∃ d, read_data decode limit file = some (.dict d) ∧
        float_entry decimal_digit "energy_in_Wh" d = some self.energy_in_Wh ∧
        float_entry decimal_digit "energy_out_Wh" d = some self.energy_out_Wh) ∧
      (¬ UsableFile decode limit file →
        self.energy_in_Wh = .finite 0 ∧ self.energy_out_Wh = .finite 0)

/-- The entries that `float` takes one after the other without leaving a value behind: the
first one raises, both are usable, or the first is a zero and the second raises or is one. -/
def TakenTogether (d : List (Json.PyStr × Json.Value)) : Prop :=
  float_entry decimal_digit "energy_in_Wh" d = none ∨
    (Usable "energy_in_Wh" d ∧ Usable "energy_out_Wh" d) ∨
    (float_entry decimal_digit "energy_in_Wh" d = some (.finite 0) ∧
      (float_entry decimal_digit "energy_out_Wh" d = none ∨
        float_entry decimal_digit "energy_out_Wh" d = some (.finite 0)))

/-- A usable entry is taken for a sound total. -/
theorem Usable.exists_float_entry {key : String} {d : List (Json.PyStr × Json.Value)}
    (husable : Usable key d) : ∃ x, float_entry decimal_digit key d = some x ∧ x.Sound := by
  unfold Usable at husable
  unfold float_entry
  split at husable
  case h_1 n hn =>
    obtain ⟨q, hq, heq⟩ := husable
    rw [hn, Json.to_float, heq]
    exact ⟨.finite q, rfl, q, hq, rfl⟩
  case h_2 x hx =>
    rw [hx]
    exact ⟨x, rfl, husable⟩
  case h_3 => exact husable.elim

variable {decode limit decimal_digit}

theorem zero_sound : (PyFloat.finite 0).Sound := ⟨0, le_refl 0, rfl⟩

theorem exists_of_read_data {file : TextFile} {d : Json.Value}
    (hread : read_data decode limit file = some d) : file.exists_ = true := by
  cases file with
  | missing => cases hread
  | unreadable | present => rfl

/-- The totals that the two conversions leave. -/
theorem load_energy_state_dict {file : TextFile} {d : List (Json.PyStr × Json.Value)}
    (hread : read_data decode limit file = some (.dict d)) (self : BmsService) :
    self.load_energy_state decode limit decimal_digit file =
      match float_entry decimal_digit "energy_in_Wh" d with
      | none => self
      | some energy_in =>
        { self with
          energy_in_Wh := energy_in
          energy_out_Wh :=
            (float_entry decimal_digit "energy_out_Wh" d).getD self.energy_out_Wh } := by
  rw [BmsService.load_energy_state, if_neg (not_not.mpr (exists_of_read_data hread)), hread]
  dsimp only
  cases float_entry decimal_digit "energy_in_Wh" d with
  | none => rfl
  | some energy_in =>
    cases float_entry decimal_digit "energy_out_Wh" d with
    | none => rfl
    | some energy_out => rfl

/-- Without a JSON object the totals stay as they are. -/
theorem load_energy_state_of_not_dict {file : TextFile}
    (hread : ∀ d, read_data decode limit file ≠ some (.dict d)) (self : BmsService) :
    self.load_energy_state decode limit decimal_digit file = self := by
  unfold BmsService.load_energy_state
  split
  case isTrue => rfl
  case isFalse =>
    split
    case h_1 d hd => exact absurd hd (hread d)
    case h_2 => rfl

/-- Without a JSON object the totals stay at zero. -/
theorem allOrNothing_of_not_dict {file : TextFile}
    (hread : ∀ d, read_data decode limit file ≠ some (.dict d)) :
    AllOrNothing decode limit decimal_digit file := by
  intro now
  rw [load_energy_state_of_not_dict hread]
  refine ⟨zero_sound, zero_sound, ?_, fun _ => ⟨rfl, rfl⟩⟩
  rintro ⟨d, hd, -⟩
  exact absurd hd (hread d)

section

variable {file : TextFile} {d : List (Json.PyStr × Json.Value)}
  (hread : read_data decode limit file = some (.dict d))

include hread

theorem usableFile_iff : UsableFile decode limit file ↔
    Usable "energy_in_Wh" d ∧ Usable "energy_out_Wh" d := by
  constructor
  · rintro ⟨d', hread', hd'⟩
    cases hread.symm.trans hread'
    exact hd'
  · exact fun hd => ⟨d, hread, hd⟩

/-- A restart that restores all or nothing takes the two entries together. -/
theorem takenTogether_of_allOrNothing (hall : AllOrNothing decode limit decimal_digit file) :
    TakenTogether decimal_digit d := by
  obtain ⟨-, -, -, hzero⟩ := hall 0
  rw [load_energy_state_dict hread, usableFile_iff hread] at hzero
  unfold TakenTogether
  cases hin : float_entry decimal_digit "energy_in_Wh" d with
  | none => exact .inl rfl
  | some energy_in =>
    by_cases hboth : Usable "energy_in_Wh" d ∧ Usable "energy_out_Wh" d
    · exact .inr (.inl hboth)
    · rw [hin] at hzero
      obtain ⟨hin_zero, hout_zero⟩ := hzero hboth
      refine .inr (.inr ⟨congrArg some hin_zero, ?_⟩)
      cases hout : float_entry decimal_digit "energy_out_Wh" d with
      | none => exact .inl rfl
      | some energy_out =>
        rw [hout] at hout_zero
        exact .inr (congrArg some hout_zero)

/-- The first conversion raises: both totals stay at zero. -/
theorem allOrNothing_of_first_raises
    (hin : float_entry decimal_digit "energy_in_Wh" d = none) :
    AllOrNothing decode limit decimal_digit file := by
  intro now
  rw [load_energy_state_dict hread, usableFile_iff hread, hin]
  refine ⟨zero_sound, zero_sound, ?_, fun _ => ⟨rfl, rfl⟩⟩
  rintro ⟨husable, -⟩
  obtain ⟨energy_in, hsome, -⟩ := husable.exists_float_entry decimal_digit
  cases hin.symm.trans hsome

/-- Two usable entries are both restored. -/
theorem allOrNothing_of_usable (hin : Usable "energy_in_Wh" d) (hout : Usable "energy_out_Wh" d) :
    AllOrNothing decode limit decimal_digit file := by
  intro now
  obtain ⟨energy_in, hsome_in, hsound_in⟩ := hin.exists_float_entry decimal_digit
  obtain ⟨energy_out, hsome_out, hsound_out⟩ := hout.exists_float_entry decimal_digit
  rw [load_energy_state_dict hread, usableFile_iff hread, hsome_in, hsome_out]
  exact ⟨hsound_in, hsound_out, fun _ => ⟨d, hread, hsome_in, hsome_out⟩,
    fun hnot => absurd ⟨hin, hout⟩ hnot⟩

/-- A first total of zero leaves nothing behind when the second conversion raises or gives
zero, too. -/
theorem allOrNothing_of_zeros
    (hin : float_entry decimal_digit "energy_in_Wh" d = some (.finite 0))
    (hout : float_entry decimal_digit "energy_out_Wh" d = none ∨
      float_entry decimal_digit "energy_out_Wh" d = some (.finite 0)) :
    AllOrNothing decode limit decimal_digit file := by
  intro now
  have hout_zero :
      (float_entry decimal_digit "energy_out_Wh" d).getD (.finite 0) = .finite 0 := by
    cases hout with
    | inl hnone => rw [hnone, Option.getD_none]
    | inr hzero => rw [hzero, Option.getD_some]
  rw [load_energy_state_dict hread, usableFile_iff hread, hin]
  dsimp only [BmsService.init]
  rw [hout_zero]
  refine ⟨zero_sound, zero_sound, ?_, fun _ => ⟨rfl, rfl⟩⟩
  rintro ⟨-, husable⟩
  obtain ⟨energy_out, hsome, -⟩ := husable.exists_float_entry decimal_digit
  refine ⟨d, hread, hin, ?_⟩
  cases hout with
  | inl hnone => cases hnone.symm.trans hsome
  | inr hzero => exact hzero

end

/-- A service starts up with both totals of the file, or with both zero, exactly when no value
is left behind by a conversion that fails or is not usable. -/
theorem allOrNothing_iff (file : TextFile) :
    AllOrNothing decode limit decimal_digit file ↔
      ∀ d, read_data decode limit file = some (.dict d) → TakenTogether decimal_digit d := by
  constructor
  · exact fun hall d hread => takenTogether_of_allOrNothing hread hall
  · intro htaken
    by_cases hdict : ∃ d, read_data decode limit file = some (.dict d)
    case neg => exact allOrNothing_of_not_dict (not_exists.mp hdict)
    case pos =>
      obtain ⟨d, hread⟩ := hdict
      obtain hraises | ⟨hin, hout⟩ | ⟨hin, hout⟩ := htaken d hread
      · exact allOrNothing_of_first_raises hread hraises
      · exact allOrNothing_of_usable hread hin hout
      · exact allOrNothing_of_zeros hread hin hout

end

/-- A file with a total for the energy in and none for the energy out. -/
def half_usable : TextFile :=
  .present "\x7b\"energy_in_Wh\": 5, \"energy_out_Wh\": null\x7d".toUTF8

/-- Its first total is restored, its second one is not. -/
theorem not_allOrNothing_half_usable :
    ¬ AllOrNothing decode_utf8 1000 (fun _ => none) half_usable := by
  intro hall
  obtain ⟨-, -, hrestored, hzero⟩ := hall 0
  have hin : ((BmsService.init 0).load_energy_state decode_utf8 1000 (fun _ => none)
      half_usable).energy_in_Wh = .finite 5 := by decide +kernel
  have hout : (match read_data decode_utf8 1000 half_usable with
      | some (.dict d) => float_entry (fun _ => none) "energy_out_Wh" d
      | _ => none) = none := by decide +kernel
  by_cases husable : UsableFile decode_utf8 1000 half_usable
  · obtain ⟨d, hread, -, hsome⟩ := hrestored husable
    rw [hread] at hout
    cases hout.symm.trans hsome
  · cases hin.symm.trans (hzero husable).1

end inverter_bridge.bms.service
