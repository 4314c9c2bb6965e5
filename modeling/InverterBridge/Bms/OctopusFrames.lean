import InverterBridge.Crc.ErrorDetection
import Mathlib.Algebra.Order.BigOperators.Group.List
import Mathlib.Tactic.NormNum
import Mathlib.Tactic.Ring

open Python
open inverter_bridge.crc inverter_bridge.modbus inverter_bridge.parsers

namespace inverter_bridge.bms.octopus_protocol

/-- `_make_response(slave, regs)`: the frame of the registers `regs`. -/
def make_response (slave : UInt8) (regs : List UInt16) : Bytes :=
  let payload := word_bytes regs
  let body := [slave, 0x04, UInt8.ofNat payload.length] ++ payload
  let crc := crc16_modbus body
  body ++ [crc.toUInt8, (crc >>> 8).toUInt8]

/-- A temperature as the register `raw` documents it, a tenth of a kelvin per step. -/
structure Celsius (raw : UInt16) (t : Option ℚ) : Prop where
  none_iff : t = none ↔ raw = 0x0AAB
  value : ∀ c, t = some c → c = raw.toNat / 10 - 273.15

/-- The fields of a PIA response as its registers document them. -/
structure PiaDecodes (pack : UInt8) (regs : Vector UInt16 18) (data : PiaData) : Prop where
  pack : data.pack = pack.toNat
  voltage : data.voltage_V = regs[0].toNat / 100
  current : data.current_A = regs[1].toBitVec.toInt / 100
  remaining : data.remaining_Ah = regs[2].toNat / 100
  nominal : data.nominal_Ah = regs[3].toNat / 100
  soc : data.soc_pct = regs[5].toNat / 10
  soh : data.soh_pct = regs[6].toNat / 10
  cycles : data.cycles = regs[7].toNat

/-- The fields of a PIB response as its registers document them. -/
structure PibDecodes (pack : UInt8) (regs : Vector UInt16 26) (data : PibData) : Prop where
  pack : data.pack = pack.toNat
  cells_length : data.cell_v_mV.length = 16
  cells : ∀ i (hi : i < 16), data.cell_v_mV[i]? = some regs[i].toNat
  temps_length : data.cell_temp_C.length = 4
  temps : ∀ i (hi : i < 4), ∃ t, data.cell_temp_C[i]? = some t ∧ Celsius regs[16 + i] t
  env : Celsius regs[24] data.env_temp_C
  pcb : Celsius regs[25] data.pcb_temp_C

/-- The statistics of a PIB response are those of its cells. -/
structure CellStatistics (data : PibData) : Prop where
  min_mem : data.cell_v_min_mV ∈ data.cell_v_mV
  max_mem : data.cell_v_max_mV ∈ data.cell_v_mV
  bounds : ∀ v ∈ data.cell_v_mV, data.cell_v_min_mV ≤ v ∧ v ≤ data.cell_v_max_mV
  min_le_avg : data.cell_v_min_mV ≤ data.cell_v_avg_mV
  avg_le_max : data.cell_v_avg_mV ≤ data.cell_v_max_mV
  delta : (data.cell_v_delta_mV : Int) = data.cell_v_max_mV - data.cell_v_min_mV
  delta_nonneg : (0 : Int) ≤ data.cell_v_max_mV - data.cell_v_min_mV

/-- The register that reads as `value` in steps of `1 / scale`. -/
def register_of (scale : Nat) (value : ℚ) : UInt16 := UInt16.ofInt (value * scale).num

/-- The register that reads as a temperature. -/
def k10_of_c : Option ℚ → UInt16
  | none => TEMP_K10_NA_SENTINEL
  | some c => register_of 10 (c + 273 + 15 / 100)

/-- Register `i` as the fields of a PIA response tell it. -/
def PiaData.register (data : PiaData) (i : Nat) : Option UInt16 :=
  match i with
  | 0 => some (register_of 100 data.voltage_V)
  | 1 => some (register_of 100 data.current_A)
  | 2 => some (register_of 100 data.remaining_Ah)
  | 3 => some (register_of 100 data.nominal_Ah)
  | 5 => some (register_of 10 data.soc_pct)
  | 6 => some (register_of 10 data.soh_pct)
  | 7 => some (UInt16.ofInt data.cycles)
  | _ => none

/-- Register `i` as the fields of a PIB response tell it. -/
def PibData.register (data : PibData) (i : Nat) : Option UInt16 :=
  if i < 16 then data.cell_v_mV[i]?.map UInt16.ofNat
  else if i < 20 then data.cell_temp_C[i - 16]?.map k10_of_c
  else if i = 24 then some (k10_of_c data.env_temp_C)
  else if i = 25 then some (k10_of_c data.pcb_temp_C)
  else none

section frame

/-- The CRC appended to a response is the one every frame of the bridge carries. -/
theorem make_response_eq (slave : UInt8) (regs : List UInt16) :
    make_response slave regs = slave :: 0x04 :: UInt8.ofNat (2 * regs.length) ::
      (word_bytes regs ++
        crc16 (slave :: 0x04 :: UInt8.ofNat (2 * regs.length) :: word_bytes regs)) := by
  rw [← word_bytes_length]
  rfl

@[simp] theorem make_response_length (slave : UInt8) (regs : List UInt16) :
    (make_response slave regs).length = 2 * regs.length + 5 := by
  simp [make_response_eq]

/-- A frame that was made passes the check of the one that is received. -/
theorem verify_crc_make_response (slave : UInt8) (regs : List UInt16) :
    verify_crc (make_response slave regs) = true := by
  rw [verify_crc_iff, make_response_length]
  refine ⟨by omega, ?_⟩
  rw [make_response_eq]
  exact crc_matches_append (slave :: 0x04 :: UInt8.ofNat (2 * regs.length) :: word_bytes regs)

/-- A frame of a pack gets past every check, to the decoder that its byte count names. -/
theorem parse_response_make_response {slave : UInt8} (hslave : 1 ≤ slave ∧ slave ≤ 4)
    {regs : List UInt16} {count : UInt8} (hcount : count.toNat = 2 * regs.length) :
    parse_response (make_response slave regs) =
      if count = PIA_BYTE_COUNT then
        (parse_pia slave (word_bytes regs) (make_response slave regs)).map .pia
      else if count = PIB_BYTE_COUNT then
        (parse_pib slave (word_bytes regs) (make_response slave regs)).map .pib
      else
        .error ⟨s!"unknown byte_count 0x{hex_padded_upper 2 count.toNat} ({count.toNat}); expected 0x24 (PIA) or 0x34 (PIB)"⟩ := by
  have hcrc := verify_crc_make_response slave regs
  have hlen := make_response_length slave regs
  have hpack : ¬ (slave < 1 ∨ 4 < slave) := by
    rintro (hlow | hhigh)
    · exact absurd hslave.1 (UInt8.not_le.mpr hlow)
    · exact absurd hslave.2 (UInt8.not_le.mpr hhigh)
  have hfc : ¬ (0x04 : UInt8) ≠ 0x04 := not_not.mpr rfl
  have htake : ∀ tail, (word_bytes regs ++ tail).take count.toNat = word_bytes regs := by
    intro tail
    exact List.take_left' (by rw [word_bytes_length, hcount])
  rw [make_response_eq, ← hcount, UInt8.ofNat_toNat] at hcrc hlen ⊢
  unfold parse_response
  dsimp only
  rw [hlen, if_neg (by omega), if_neg (not_not.mpr hcrc), if_neg hfc, if_neg hpack,
    if_neg (by omega), htake]

end frame

section decoders

theorem parse_pia_word_bytes (slave : UInt8) (regs : Vector UInt16 18) (frame : Bytes) :
    parse_pia slave (word_bytes regs.toList) frame = .ok {
      pack := slave.toNat
      voltage_V := regs[0].toNat / 100
      current_A := s16 regs[1] / 100
      remaining_Ah := regs[2].toNat / 100
      nominal_Ah := regs[3].toNat / 100
      soc_pct := regs[5].toNat / 10
      soh_pct := regs[6].toNat / 10
      cycles := regs[7].toNat
      raw_response := frame } := by
  have hlen : (word_bytes regs.toList).length = 36 := by simp
  have hwords : words ((word_bytes regs.toList).take 36) = regs.toList := by
    rw [List.take_of_length_le hlen.le, words_word_bytes]
  have hreg : ∀ i (hi : i < 18), regs.toList.getD i 0 = regs[i] := by
    intro i hi
    simp [List.getD_eq_getElem?_getD, hi]
  unfold parse_pia
  rw [hlen, if_neg (by omega), hwords]
  simp only [hreg, Nat.reduceLT]

/-- The tail of a PIB response starts behind its 16 cells. -/
theorem parse_pib_word_bytes (slave : UInt8) (regs : Vector UInt16 26) (frame : Bytes) :
    let cells := (regs.toList.take 16).map UInt16.toNat
    parse_pib slave (word_bytes regs.toList) frame = .ok {
      pack := slave.toNat
      cell_v_mV := cells
      cell_v_min_mV := cells.min?.getD 0
      cell_v_max_mV := cells.max?.getD 0
      cell_v_avg_mV := cells.sum / 16
      cell_v_delta_mV := cells.max?.getD 0 - cells.min?.getD 0
      cell_temp_C := ((regs.toList.drop 16).take 4).map k10_to_c
      env_temp_C := k10_to_c regs[24]
      pcb_temp_C := k10_to_c regs[25]
      raw_response := frame } := by
  have hlen : (word_bytes regs.toList).length = 52 := by simp
  have hwords : ∀ from_reg count, words (((word_bytes regs.toList).drop (2 * from_reg)).take
      (2 * count)) = (regs.toList.drop from_reg).take count := by
    intro from_reg count
    rw [drop_word_bytes, take_word_bytes, words_word_bytes]
  have hcells : words ((word_bytes regs.toList).take 32) = regs.toList.take 16 := hwords 0 16
  have htemps := hwords 16 4
  have henv := hwords 24 1
  have hpcb := hwords 25 1
  have htail_start : (if 3 + 52 - 3 - 2 = 54 then 34 else 32) = 32 := if_neg (by omega)
  have hreg : ∀ i (hi : i < 26), ((regs.toList.drop i).take 1).getD 0 0 = regs[i] := by
    intro i hi
    simp [List.getD_eq_getElem?_getD, hi]
  unfold parse_pib
  dsimp only
  rw [hlen, if_neg (by omega), htail_start, if_neg (by omega), List.drop_drop, List.drop_drop,
    hcells, htemps, henv, hpcb, hreg 24 (by omega), hreg 25 (by omega)]

end decoders

section recovery

theorem k10_to_c_celsius (raw : UInt16) : Celsius raw (k10_to_c raw) := by
  unfold k10_to_c
  split
  · constructor
    · simpa [TEMP_K10_NA_SENTINEL] using ‹_›
    · intro c hc
      cases hc
  · constructor
    · simpa [TEMP_K10_NA_SENTINEL] using ‹_›
    · intro c hc
      cases hc
      norm_num
      ring

@[simp] theorem register_of_div (n : Int) {scale : Nat} (hscale : scale ≠ 0) :
    register_of scale (n / scale) = UInt16.ofInt n := by
  have hscale' : (scale : ℚ) ≠ 0 := Nat.cast_ne_zero.mpr hscale
  rw [register_of, div_mul_cancel₀ _ hscale', Rat.num_intCast]

@[simp] theorem ofInt_toNat (w : UInt16) : UInt16.ofInt w.toNat = w := by
  have hw : w.toNat < 65536 := w.toNat_lt
  have hmod : ((w.toNat : Int) % 2 ^ 16).toNat = w.toNat := by omega
  rw [UInt16.ofInt, hmod, UInt16.ofNat_toNat]

theorem register_of_toNat (w : UInt16) {scale : Nat} (hscale : scale ≠ 0) :
    register_of scale (w.toNat / scale) = w := by
  rw [← Int.cast_natCast, register_of_div _ hscale, ofInt_toNat]

theorem register_of_s16 (w : UInt16) {scale : Nat} (hscale : scale ≠ 0) :
    register_of scale (s16 w / scale) = w := by
  rw [register_of_div _ hscale, ofInt_s16]

/-- The sentinel is the one register without a temperature, and a temperature has one
register. -/
theorem k10_of_c_k10_to_c (raw : UInt16) : k10_of_c (k10_to_c raw) = raw := by
  unfold k10_to_c
  split
  · exact Eq.symm ‹_›
  · have hvalue : (raw.toNat : ℚ) / 10 - 273 - 15 / 100 + 273 + 15 / 100 =
        ((raw.toNat : Int) : ℚ) / (10 : Nat) := by
      push_cast
      ring
    rw [k10_of_c, hvalue, register_of_div _ (by omega), ofInt_toNat]

end recovery

/-- The least and the greatest of some values are among them, and their mean is in between. -/
theorem cells_bounded {cells : List Nat} (hlen : cells.length = 16) :
    cells.min?.getD 0 ∈ cells ∧ cells.max?.getD 0 ∈ cells ∧
      (∀ v ∈ cells, cells.min?.getD 0 ≤ v ∧ v ≤ cells.max?.getD 0) ∧
      cells.min?.getD 0 ≤ cells.sum / 16 ∧ cells.sum / 16 ≤ cells.max?.getD 0 := by
  have hne : cells ≠ [] := List.ne_nil_of_length_eq_add_one hlen
  obtain ⟨least, hmin⟩ := Option.isSome_iff_exists.mp (List.isSome_min?_of_ne_nil hne)
  obtain ⟨greatest, hmax⟩ := Option.isSome_iff_exists.mp (List.isSome_max?_of_ne_nil hne)
  obtain ⟨hmin_mem, hmin_le⟩ := List.min?_eq_some_iff.mp hmin
  obtain ⟨hmax_mem, hmax_ge⟩ := List.max?_eq_some_iff.mp hmax
  have hsum_ge := List.card_nsmul_le_sum cells least hmin_le
  have hsum_le := List.sum_le_card_nsmul cells greatest hmax_ge
  rw [hlen, smul_eq_mul] at hsum_ge hsum_le
  rw [hmin, hmax, Option.getD_some, Option.getD_some]
  exact ⟨hmin_mem, hmax_mem, fun v hv => ⟨hmin_le v hv, hmax_ge v hv⟩, by omega, by omega⟩

/-- A PIA frame is decoded as documented, and its registers can be told from the fields. -/
theorem parse_response_pia {pack : UInt8} (hpack : 1 ≤ pack ∧ pack ≤ 4)
    (regs : Vector UInt16 18) :
    ∃ data, parse_response (make_response pack regs.toList) = .ok (.pia data) ∧
      PiaDecodes pack regs data ∧
      ∀ i ∈ [0, 1, 2, 3, 5, 6, 7], data.register i = regs[i]? := by
  have hcount : PIA_BYTE_COUNT.toNat = 2 * regs.toList.length := by
    rw [Vector.length_toList]
    rfl
  have hparse := parse_response_make_response hpack hcount
  rw [if_pos rfl, parse_pia_word_bytes] at hparse
  refine ⟨_, hparse, ?_, ?_⟩
  · exact ⟨rfl, rfl, by rw [s16_eq_toInt], rfl, rfl, rfl, rfl, rfl⟩
  · intro i hi
    simp only [List.mem_cons, List.not_mem_nil, or_false] at hi
    obtain rfl | rfl | rfl | rfl | rfl | rfl | rfl := hi
    · exact congrArg some (register_of_toNat regs[0] (by omega))
    · exact congrArg some (register_of_s16 regs[1] (by omega))
    · exact congrArg some (register_of_toNat regs[2] (by omega))
    · exact congrArg some (register_of_toNat regs[3] (by omega))
    · exact congrArg some (register_of_toNat regs[5] (by omega))
    · exact congrArg some (register_of_toNat regs[6] (by omega))
    · exact congrArg some (ofInt_toNat regs[7])

/-- A PIB frame is decoded as documented, with the statistics of its cells, and its
registers can be told from the fields. -/
theorem parse_response_pib {pack : UInt8} (hpack : 1 ≤ pack ∧ pack ≤ 4)
    (regs : Vector UInt16 26) :
    ∃ data, parse_response (make_response pack regs.toList) = .ok (.pib data) ∧
      PibDecodes pack regs data ∧ CellStatistics data ∧
      ∀ i, i < 20 ∨ i = 24 ∨ i = 25 → data.register i = regs[i]? := by
  have hcount : PIB_BYTE_COUNT.toNat = 2 * regs.toList.length := by
    rw [Vector.length_toList]
    rfl
  have htype : PIB_BYTE_COUNT ≠ PIA_BYTE_COUNT := by decide
  have hparse := parse_response_make_response hpack hcount
  rw [if_neg htype, if_pos rfl, parse_pib_word_bytes] at hparse
  have hcells : ((regs.toList.take 16).map UInt16.toNat).length = 16 := by simp
  obtain ⟨hmin, hmax, hbounds, hmin_le, hle_max⟩ := cells_bounded hcells
  refine ⟨_, hparse, ?_, ?_, ?_⟩
  · constructor
    case pack => rfl
    case cells_length => exact hcells
    case cells =>
      intro i hi
      simp [hi]
    case temps_length => simp
    case temps =>
      intro i hi
      refine ⟨k10_to_c regs[16 + i], ?_, k10_to_c_celsius _⟩
      simp [hi]
    case env => exact k10_to_c_celsius _
    case pcb => exact k10_to_c_celsius _
  · constructor
    case min_mem => exact hmin
    case max_mem => exact hmax
    case bounds => exact hbounds
    case min_le_avg => exact hmin_le
    case avg_le_max => exact hle_max
    case delta => exact Int.ofNat_sub (hbounds _ hmax).1
    case delta_nonneg => exact Int.sub_nonneg_of_le (Int.ofNat_le.mpr (hbounds _ hmax).1)
  · intro i hi
    unfold PibData.register
    by_cases hcell : i < 16
    · simp [hcell, show i < 26 by omega]
    by_cases htemp : i < 20
    · simp [hcell, htemp, show i < 26 by omega, show i - 16 < 4 by omega,
        show 16 + (i - 16) = i by omega, k10_of_c_k10_to_c]
    obtain htail | rfl | rfl := hi
    · omega
    · simp [k10_of_c_k10_to_c]
    · simp [k10_of_c_k10_to_c]

/-- Decoding undoes encoding: every frame of a pack is decoded into the documented fields
of its registers, whatever they hold, and no decoded register is lost. -/
theorem decode_undoes_encode (pack : UInt8) (hpack : 1 ≤ pack ∧ pack ≤ 4) :
    (∀ regs : Vector UInt16 18, ∃ data,
      parse_response (make_response pack regs.toList) = .ok (.pia data) ∧
      PiaDecodes pack regs data ∧
      ∀ i ∈ [0, 1, 2, 3, 5, 6, 7], data.register i = regs[i]?) ∧
    (∀ regs : Vector UInt16 26, ∃ data,
      parse_response (make_response pack regs.toList) = .ok (.pib data) ∧
      PibDecodes pack regs data ∧ CellStatistics data ∧
      ∀ i, i < 20 ∨ i = 24 ∨ i = 25 → data.register i = regs[i]?) :=
  ⟨parse_response_pia hpack, parse_response_pib hpack⟩

/-- A pack with one cell sensor missing. -/
theorem decode_undoes_encode_missing_sensor :
    ∃ data, parse_response (make_response 2 [3275, 3275, 3275, 3275, 3275, 3270, 3275, 3275, 3275,
        3275, 3280, 3275, 3275, 3275, 3275, 3275, 2985, 2987, 0x0AAB, 2984, 0, 0, 0, 0, 2980,
        3020]) = .ok (.pib data) ∧
      data.pack = 2 ∧ data.cell_temp_C[2]? = some none ∧ data.register 24 = some 2980 := by
  obtain ⟨-, hpib⟩ := decode_undoes_encode 2 (by decide)
  obtain ⟨data, hparse, hdecodes, -, hregister⟩ :=
    hpib #v[3275, 3275, 3275, 3275, 3275, 3270, 3275, 3275, 3275, 3275, 3280, 3275, 3275, 3275,
      3275, 3275, 2985, 2987, 0x0AAB, 2984, 0, 0, 0, 0, 2980, 3020]
  obtain ⟨t, htemp, hmissing⟩ := hdecodes.temps 2 (by omega)
  refine ⟨data, hparse, hdecodes.pack, ?_, hregister 24 (by omega)⟩
  rw [htemp, hmissing.none_iff.mpr rfl]

end inverter_bridge.bms.octopus_protocol
