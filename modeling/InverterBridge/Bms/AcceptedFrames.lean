import InverterBridge.Crc.ErrorDetection

open Python
open inverter_bridge.crc inverter_bridge.modbus inverter_bridge.parsers

namespace inverter_bridge.bms.octopus_protocol

/-! ## The parser with the failures of its own operations -/

/-- What a run of the parser raises: its own error, or one of the operations it uses. -/
inductive Raised where
  | decode_error (e : DecodeError)
  | index_error
  | struct_error
  | value_error
  deriving DecidableEq

/-- `xs[i]`. -/
def item {α : Type} (xs : List α) (i : Nat) : Except Raised α :=
  match xs[i]? with
  | some x => .ok x
  | none => .error .index_error

/-- `struct.unpack(">{count}H", data)`. -/
def unpack_words (count : Nat) (data : Bytes) : Except Raised (List UInt16) :=
  if data.length = 2 * count then .ok (words data) else .error .struct_error

/-- `struct.unpack("<H", data)`. -/
def unpack_le_word (data : Bytes) : Except Raised (List UInt16) :=
  if data.length = 2 then .ok [unpack_le data] else .error .struct_error

/-- `min(xs)` and `max(xs)`, as the lists have them. -/
def extreme (found : Option Nat) : Except Raised Nat :=
  match found with
  | some x => .ok x
  | none => .error .value_error

/-- `verify_crc(frame)`. -/
def verify_crc_raising (frame : Bytes) : Except Raised Bool := do
  if frame.length < 4 then return false
  let payload := frame.take (frame.length - 2)
  let received ← item (← unpack_le_word (frame.drop (frame.length - 2))) 0
  return crc16_modbus payload == received

/-- `_parse_pia(slave, payload, full_frame)`. -/
def parse_pia_raising (slave : UInt8) (payload full_frame : Bytes) : Except Raised PiaData := do
  if payload.length < 36 then
    throw (.decode_error ⟨s!"PIA payload too short: {payload.length} bytes (need 36)"⟩)
  let regs_u ← unpack_words 18 (payload.take 36)
  let current_signed := s16 (← item (← unpack_words 1 ((payload.drop 2).take 2)) 0)
  return {
    pack := slave.toNat
    voltage_V := ((← item regs_u 0).toNat : ℚ) / 100
    current_A := (current_signed : ℚ) / 100
    remaining_Ah := ((← item regs_u 2).toNat : ℚ) / 100
    nominal_Ah := ((← item regs_u 3).toNat : ℚ) / 100
    soc_pct := ((← item regs_u 5).toNat : ℚ) / 10
    soh_pct := ((← item regs_u 6).toNat : ℚ) / 10
    cycles := (← item regs_u 7).toNat
    raw_response := full_frame }

/-- `_parse_pib(slave, payload, full_frame)`. -/
def parse_pib_raising (slave : UInt8) (payload full_frame : Bytes) : Except Raised PibData := do
  if payload.length < 52 then
    throw (.decode_error ⟨s!"PIB payload too short: {payload.length} bytes (need 52)"⟩)
  let cell_v := (← unpack_words 16 (payload.take 32)).map UInt16.toNat
  let cell_min ← extreme cell_v.min?
  let cell_max ← extreme cell_v.max?
  let body_len_yaml_equivalent := 3 + payload.length - 3 - 2
  let tail_start := if body_len_yaml_equivalent = 54 then 34 else 32
  if payload.length < tail_start + 20 then
    throw (.decode_error ⟨s!"PIB payload too short for temp tail: {payload.length} bytes (need {tail_start + 20} at tail_start={tail_start})"⟩)
  let tail := payload.drop tail_start
  let cell_temps_raw ← unpack_words 4 (tail.take 8)
  let env_temp_raw ← item (← unpack_words 1 ((tail.drop 16).take 2)) 0
  let pcb_temp_raw ← item (← unpack_words 1 ((tail.drop 18).take 2)) 0
  return {
    pack := slave.toNat
    cell_v_mV := cell_v
    cell_v_min_mV := cell_min
    cell_v_max_mV := cell_max
    cell_v_avg_mV := cell_v.sum / 16
    cell_v_delta_mV := cell_max - cell_min
    cell_temp_C := cell_temps_raw.map k10_to_c
    env_temp_C := k10_to_c env_temp_raw
    pcb_temp_C := k10_to_c pcb_temp_raw
    raw_response := full_frame }

/-- `parse_response(frame)`. -/
def parse_response_raising (frame : Bytes) : Except Raised Response := do
  if frame.length < 5 then
    throw (.decode_error ⟨s!"frame too short: {frame.length} bytes (expected ≥5)"⟩)
  if ¬ (← verify_crc_raising frame) then throw (.decode_error ⟨"CRC16 mismatch"⟩)
  let slave ← item frame 0
  let fc ← item frame 1
  let byte_count ← item frame 2
  if fc ≠ 0x04 then
    throw (.decode_error
      ⟨s!"unexpected function code 0x{hex_padded_upper 2 fc.toNat} (expected 0x04)"⟩)
  if slave < 1 ∨ 4 < slave then
    throw (.decode_error ⟨s!"unexpected slave address {slave.toNat} (expected 1..4)"⟩)
  let expected_total := 3 + byte_count.toNat + 2
  if frame.length < expected_total then
    throw (.decode_error ⟨s!"frame truncated: have {frame.length} bytes, need {expected_total} (byte_count={byte_count.toNat})"⟩)
  let payload := (frame.drop 3).take byte_count.toNat
  if byte_count = PIA_BYTE_COUNT then return .pia (← parse_pia_raising slave payload frame)
  else if byte_count = PIB_BYTE_COUNT then return .pib (← parse_pib_raising slave payload frame)
  else
    throw (.decode_error ⟨s!"unknown byte_count 0x{hex_padded_upper 2 byte_count.toNat} ({byte_count.toNat}); expected 0x24 (PIA) or 0x34 (PIB)"⟩)

/-! ## None of these operations fails -/

theorem item_of_getElem? {α : Type} {xs : List α} {i : Nat} {x : α} (h : xs[i]? = some x) :
    item xs i = .ok x := by
  unfold item
  rw [h]

theorem item_getD {xs : List UInt16} {i : Nat} (hi : i < xs.length) :
    item xs i = .ok (xs.getD i 0) := by
  apply item_of_getElem?
  rw [List.getD_eq_getElem _ _ hi, List.getElem?_eq_getElem hi]

theorem unpack_words_of_length {count : Nat} {data : Bytes} (h : data.length = 2 * count) :
    unpack_words count data = .ok (words data) := if_pos h

/-- A CRC is only compared on frames that hold one. -/
theorem verify_crc_raising_eq (frame : Bytes) : verify_crc_raising frame = .ok (verify_crc frame) := by
  unfold verify_crc_raising verify_crc
  by_cases hshort : frame.length < 4
  · rw [if_pos hshort, if_pos hshort]
    rfl
  · have hlen : (frame.drop (frame.length - 2)).length = 2 := by
      rw [List.length_drop]
      omega
    rw [if_neg hshort, if_neg hshort, unpack_le_word, if_pos hlen]
    rfl

/-- The current is register 1, unpacked a second time. -/
theorem words_current {payload : Bytes} (hlen : 36 ≤ payload.length) :
    words ((payload.drop 2).take 2) = [(words (payload.take 36)).getD 1 0] := by
  match payload with
  | _ :: _ :: hi :: lo :: rest => rfl
  | [] | [_] | [_, _] | [_, _, _] =>
    simp only [List.length_cons, List.length_nil] at hlen
    omega

theorem parse_pia_raising_eq (slave : UInt8) (payload frame : Bytes) :
    parse_pia_raising slave payload frame =
      (parse_pia slave payload frame).mapError .decode_error := by
  unfold parse_pia_raising parse_pia
  by_cases hshort : payload.length < 36
  · rw [if_pos hshort, if_pos hshort]
    rfl
  · have hregs : (payload.take 36).length = 2 * 18 := by
      rw [List.length_take]
      omega
    have hcurrent : ((payload.drop 2).take 2).length = 2 * 1 := by
      rw [List.length_take, List.length_drop]
      omega
    have hitem : ∀ i < 18, item (words (payload.take 36)) i =
        .ok ((words (payload.take 36)).getD i 0) := by
      intro i hi
      exact item_getD (by rw [words_length hregs]; exact hi)
    rw [if_neg hshort, if_neg hshort, unpack_words_of_length hregs,
      unpack_words_of_length hcurrent, words_current (by omega)]
    simp only [bind, Except.bind, hitem 0 (by omega), hitem 2 (by omega), hitem 3 (by omega),
      hitem 5 (by omega), hitem 6 (by omega), hitem 7 (by omega)]
    rfl

theorem extreme_eq_getD {found : Option Nat} (h : found ≠ none) :
    extreme found = .ok (found.getD 0) := by
  cases found with
  | none => exact absurd rfl h
  | some x => rfl

/-- Two bytes hold a register. -/
theorem item_words {data : Bytes} (hlen : data.length = 2) :
    item (words data) 0 = .ok ((words data).getD 0 0) := by
  apply item_getD
  rw [words_length (n := 1) hlen]
  omega

theorem parse_pib_raising_eq (slave : UInt8) (payload frame : Bytes) :
    parse_pib_raising slave payload frame =
      (parse_pib slave payload frame).mapError .decode_error := by
  unfold parse_pib_raising parse_pib
  dsimp only
  by_cases hshort : payload.length < 52
  · rw [if_pos hshort, if_pos hshort]
    rfl
  · have hcells : (payload.take 32).length = 2 * 16 := by
      rw [List.length_take]
      omega
    have hne : (words (payload.take 32)).map UInt16.toNat ≠ [] := by
      rw [← List.length_pos_iff, List.length_map, words_length hcells]
      omega
    rw [if_neg hshort, if_neg hshort, unpack_words_of_length hcells]
    simp only [bind, Except.bind, extreme_eq_getD (mt List.min?_eq_none_iff.mp hne),
      extreme_eq_getD (mt List.max?_eq_none_iff.mp hne)]
    generalize (if 3 + payload.length - 3 - 2 = 54 then 34 else 32) = tail_start
    by_cases htail : payload.length < tail_start + 20
    · rw [if_pos htail, if_pos htail]
      rfl
    · have htemps : ((payload.drop tail_start).take 8).length = 2 * 4 := by
        rw [List.length_take, List.length_drop]
        omega
      have hword : ∀ i ≤ 18, (((payload.drop tail_start).drop i).take 2).length = 2 := by
        intro i hi
        rw [List.length_take, List.length_drop, List.length_drop]
        omega
      rw [if_neg htail, if_neg htail, unpack_words_of_length htemps]
      simp only [@unpack_words_of_length 1 _ (hword 16 (by omega)),
        @unpack_words_of_length 1 _ (hword 18 (by omega)), item_words (hword 16 (by omega)),
        item_words (hword 18 (by omega))]
      rfl

/-- What a decoder returns is passed on, and so is what it raises. -/
theorem map_mapError {α β : Type} (x : Except DecodeError α) (f : α → β) :
    (do return f (← x.mapError .decode_error)) = (x.map f).mapError Raised.decode_error := by
  cases x with
  | error e => rfl
  | ok a => rfl

/-- No operation of the parser fails on any frame: it raises its own errors only. -/
theorem parse_response_raising_eq (frame : Bytes) :
    parse_response_raising frame = (parse_response frame).mapError .decode_error := by
  match frame with
  | [] | [_] | [_, _] => rfl
  | slave :: fc :: byte_count :: body =>
    unfold parse_response_raising parse_response
    dsimp only
    rw [verify_crc_raising_eq]
    by_cases hshort : (slave :: fc :: byte_count :: body).length < 5
    · rw [if_pos hshort, if_pos hshort]
      rfl
    rw [if_neg hshort, if_neg hshort]
    cases hcrc : verify_crc (slave :: fc :: byte_count :: body) with
    | false => rfl
    | true =>
      have hslave : item (slave :: fc :: byte_count :: body) 0 = .ok slave := rfl
      have hfc : item (slave :: fc :: byte_count :: body) 1 = .ok fc := rfl
      have hcount : item (slave :: fc :: byte_count :: body) 2 = .ok byte_count := rfl
      simp only [bind, Except.bind, hslave, hfc, hcount, not_true_eq_false, if_false]
      by_cases hfour : fc = 0x04
      · rw [if_neg (not_not.mpr hfour), if_neg (not_not.mpr hfour)]
        by_cases hrange : slave < 1 ∨ 4 < slave
        · rw [if_pos hrange, if_pos hrange]
          rfl
        by_cases htotal : (slave :: fc :: byte_count :: body).length < 3 + byte_count.toNat + 2
        · rw [if_neg hrange, if_neg hrange, if_pos htotal, if_pos htotal]
          rfl
        rw [if_neg hrange, if_neg hrange, if_neg htotal, if_neg htotal]
        by_cases hpia : byte_count = PIA_BYTE_COUNT
        · rw [if_pos hpia, if_pos hpia, parse_pia_raising_eq]
          exact map_mapError (parse_pia slave (body.take byte_count.toNat) _) Response.pia
        by_cases hpib : byte_count = PIB_BYTE_COUNT
        · rw [if_neg hpia, if_neg hpia, if_pos hpib, if_pos hpib, parse_pib_raising_eq]
          exact map_mapError (parse_pib slave (body.take byte_count.toNat) _) Response.pib
        rw [if_neg hpia, if_neg hpia, if_neg hpib, if_neg hpib]
        rfl
      · rw [if_pos hfour, if_pos hfour]
        rfl

/-! ## The frames that are accepted -/

/-- The header of a response of a pack, which announces `count` bytes of data. -/
def Header (frame : Bytes) (count : UInt8) : Prop :=
  ∃ slave body, frame = slave :: 0x04 :: count :: body ∧ 1 ≤ slave ∧ slave ≤ 4 ∧
    (count = 0x24 ∨ count = 0x34)

/-- The last two bytes are the CRC of those before them, low byte first. -/
def EndsWithCrc (frame : Bytes) : Prop :=
  ∃ payload, frame =
    payload ++ [(crc16_modbus payload).toUInt8, (crc16_modbus payload >>> 8).toUInt8]

/-- A complete frame: the header, as much data as it announces, and the CRC. -/
def Complete (frame : Bytes) : Prop :=
  ∃ count, Header frame count ∧ frame.length = 5 + count.toNat ∧ EndsWithCrc frame

/-- A frame with more bytes than its header announces, and the CRC after the last of them. -/
def Overlong (frame : Bytes) : Prop :=
  ∃ count, Header frame count ∧ 5 + count.toNat < frame.length ∧ EndsWithCrc frame

/-- The check of the CRC looks at the end of the buffer. -/
theorem verify_crc_iff_endsWithCrc {frame : Bytes} (hlen : 4 ≤ frame.length) :
    verify_crc frame = true ↔ EndsWithCrc frame := by
  rw [verify_crc_iff]
  constructor
  · rintro ⟨-, h⟩
    refine ⟨frame.take (frame.length - 2), ?_⟩
    have hcrc : crc16 (frame.take (frame.length - 2)) = frame.drop (frame.length - 2) :=
      eq_of_beq h
    calc frame = frame.take (frame.length - 2) ++ frame.drop (frame.length - 2) :=
          (List.take_append_drop _ _).symm
      _ = _ := by rw [← hcrc]; rfl
  · rintro ⟨payload, rfl⟩
    exact ⟨hlen, crc_matches_append payload⟩

/-- A payload that was cut to its announced length is decoded. -/
theorem exists_parse_pia {slave : UInt8} {payload frame : Bytes} (hlen : payload.length = 36) :
    ∃ data, parse_pia slave payload frame = .ok data := by
  unfold parse_pia
  rw [if_neg (by omega)]
  exact ⟨_, rfl⟩

theorem exists_parse_pib {slave : UInt8} {payload frame : Bytes} (hlen : payload.length = 52) :
    ∃ data, parse_pib slave payload frame = .ok data := by
  unfold parse_pib
  rw [hlen]
  exact ⟨_, rfl⟩

/-- A frame is accepted when it has a header, at least the announced length, and a CRC at its
actual end. -/
theorem parse_response_ok_iff {frame : Bytes} :
    (∃ response, parse_response frame = .ok response) ↔
      ∃ count, Header frame count ∧ 5 + count.toNat ≤ frame.length ∧ EndsWithCrc frame := by
  constructor
  · rintro ⟨response, h⟩
    unfold parse_response at h
    split at h
    case h_2 => cases h
    case h_1 slave fc byte_count body =>
      dsimp only at h
      split_ifs at h with hshort hcrc hfc hslave htotal hpia hpib
      all_goals
        have hend := (verify_crc_iff_endsWithCrc (by omega)).mp hcrc
        obtain ⟨hlow, hhigh⟩ := not_or.mp hslave
      · exact ⟨byte_count, ⟨slave, body, by rw [not_not.mp hfc], UInt8.not_lt.mp hlow,
          UInt8.not_lt.mp hhigh, .inl hpia⟩, by omega, hend⟩
      · exact ⟨byte_count, ⟨slave, body, by rw [not_not.mp hfc], UInt8.not_lt.mp hlow,
          UInt8.not_lt.mp hhigh, .inr hpib⟩, by omega, hend⟩
  · rintro ⟨count, ⟨slave, body, rfl, hlow, hhigh, hcount⟩, hlen, hcrc⟩
    have hrange : ¬ (slave < 1 ∨ 4 < slave) :=
      not_or.mpr ⟨UInt8.not_lt.mpr hlow, UInt8.not_lt.mpr hhigh⟩
    have hcheck := (verify_crc_iff_endsWithCrc (by omega)).mpr hcrc
    have hpayload : (body.take count.toNat).length = count.toNat := by
      simp only [List.length_cons] at hlen
      rw [List.length_take]
      omega
    unfold parse_response
    dsimp only
    rw [if_neg (by omega), if_neg (not_not.mpr hcheck), if_neg (not_not.mpr rfl), if_neg hrange,
      if_neg (by omega)]
    obtain rfl | rfl := hcount
    · obtain ⟨data, hdata⟩ := @exists_parse_pia slave _ (slave :: 0x04 :: 0x24 :: body) hpayload
      exact ⟨.pia data, by rw [hdata]; rfl⟩
    · obtain ⟨data, hdata⟩ := @exists_parse_pib slave _ (slave :: 0x04 :: 0x34 :: body) hpayload
      exact ⟨.pib data, by rw [hdata]; rfl⟩

/-- A frame is accepted when it is complete, or too long. -/
theorem exists_parse_response_iff {frame : Bytes} :
    (∃ response, parse_response_raising frame = .ok response) ↔
      Complete frame ∨ Overlong frame := by
  have hmap : (∃ response, parse_response_raising frame = .ok response) ↔
      ∃ response, parse_response frame = .ok response := by
    rw [parse_response_raising_eq]
    cases parse_response frame with
    | error e => simp [Except.mapError]
    | ok response => simp [Except.mapError]
  rw [hmap, parse_response_ok_iff]
  constructor
  · rintro ⟨count, hheader, hlen, hcrc⟩
    obtain hsame | hmore := hlen.eq_or_lt
    · exact .inl ⟨count, hheader, hsame.symm, hcrc⟩
    · exact .inr ⟨count, hheader, hmore, hcrc⟩
  · rintro (⟨count, hheader, hlen, hcrc⟩ | ⟨count, hheader, hlen, hcrc⟩)
    · exact ⟨count, hheader, hlen.ge, hcrc⟩
    · exact ⟨count, hheader, hlen.le, hcrc⟩

/-- What is not accepted raises a `DecodeError`. -/
theorem parse_response_raises {frame : Bytes}
    (h : ¬ ∃ response, parse_response_raising frame = .ok response) :
    ∃ e, parse_response_raising frame = .error (.decode_error e) := by
  rw [parse_response_raising_eq] at h ⊢
  cases hparse : parse_response frame with
  | error e => exact ⟨e, rfl⟩
  | ok response => exact absurd ⟨response, by rw [hparse]; rfl⟩ h

theorem not_overlong_of_complete {frame : Bytes} (h : Complete frame) : ¬ Overlong frame := by
  rintro ⟨count', ⟨_, _, hframe', -⟩, hlen', -⟩
  obtain ⟨count, ⟨_, _, hframe, -⟩, hlen, -⟩ := h
  have hcount : count' = count := by
    rw [hframe] at hframe'
    cases hframe'
    rfl
  rw [hcount] at hlen'
  omega

/-- The parser accepts the complete frames, and raises its own error for all others. -/
def AcceptsExactly (frame : Bytes) : Prop :=
  ((∃ response, parse_response_raising frame = .ok response) ↔ Complete frame) ∧
    (¬ Complete frame → ∃ e, parse_response_raising frame = .error (.decode_error e))

/-- It does so unless the CRC of a longer frame happens to be valid. -/
theorem accepts_exactly_iff (frame : Bytes) : AcceptsExactly frame ↔ ¬ Overlong frame := by
  constructor
  · rintro ⟨haccepts, -⟩ hlong
    have hcomplete := haccepts.mp (exists_parse_response_iff.mpr (.inr hlong))
    exact not_overlong_of_complete hcomplete hlong
  · intro hshort
    have haccepts : (∃ response, parse_response_raising frame = .ok response) ↔ Complete frame := by
      rw [exists_parse_response_iff]
      exact or_iff_left hshort
    exact ⟨haccepts, fun h => parse_response_raises (mt haccepts.mp h)⟩

/-- A PIA response followed by two bytes of zero, and the CRC after those. -/
def overlong_frame : Bytes :=
  let body := [0x01, 0x04, 0x24] ++ List.replicate 38 0
  body ++ [(crc16_modbus body).toUInt8, (crc16_modbus body >>> 8).toUInt8]

theorem overlong_frame_accepted : ¬ AcceptsExactly overlong_frame := by
  intro h
  have hheader : Header overlong_frame 0x24 :=
    ⟨0x01, overlong_frame.drop 3, rfl, by decide, by decide, .inl rfl⟩
  exact accepts_exactly_iff _ |>.mp h ⟨0x24, hheader, by decide, _, rfl⟩

end inverter_bridge.bms.octopus_protocol
