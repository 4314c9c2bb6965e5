import InverterBridge.Bms.Aggregator
import InverterBridge.Modbus
import InverterBridge.Parsers

open Python
open inverter_bridge.crc inverter_bridge.modbus inverter_bridge.parsers

namespace inverter_bridge.bms.octopus_protocol

/-- The byte count of a PIA response: 18 registers. -/
def PIA_BYTE_COUNT : UInt8 := 0x24

/-- The byte count of a PIB response: 26 registers. -/
def PIB_BYTE_COUNT : UInt8 := 0x34

/-- A temperature register without a value. -/
def TEMP_K10_NA_SENTINEL : UInt16 := 0x0AAB

/-- `crc16_modbus(data)`. -/
def crc16_modbus (data : Bytes) : UInt16 :=
  data.foldl (fun crc b => crc_shift^[8] (crc ^^^ b.toUInt16)) 0xFFFF

/-- `struct.unpack("<H", data)[0]`. -/
def unpack_le : Bytes → UInt16
  | [lo, hi] => lo.toUInt16 ||| (hi.toUInt16 <<< 8)
  | _ => 0

/-- `verify_crc(frame)`. -/
def verify_crc (frame : Bytes) : Bool :=
  if frame.length < 4 then false
  else
    let payload := frame.take (frame.length - 2)
    let received := unpack_le (frame.drop (frame.length - 2))
    crc16_modbus payload == received

/-- `build_request(slave, addr, count, fc)`. -/
def build_request (slave : UInt8) (addr count : UInt16) (fc : UInt8) : Bytes :=
  let body := [slave, fc, (addr >>> 8).toUInt8, addr.toUInt8, (count >>> 8).toUInt8, count.toUInt8]
  let crc := crc16_modbus body
  body ++ [crc.toUInt8, (crc >>> 8).toUInt8]

/-- `pia_request(pack)`. -/
def pia_request (pack : UInt8) : Bytes := build_request pack 0x1000 0x0012 0x04

/-- `pib_request(pack)`. -/
def pib_request (pack : UInt8) : Bytes := build_request pack 0x1100 0x001A 0x04

/-- A decoded PIA response. -/
structure PiaData extends aggregator.PiaData where
  pack : Nat
  raw_response : Bytes

/-- A decoded PIB response. -/
structure PibData extends aggregator.PibData where
  pack : Nat
  cell_v_mV : List Nat
  cell_v_min_mV : Nat
  cell_v_max_mV : Nat
  cell_v_avg_mV : Nat
  cell_v_delta_mV : Nat
  env_temp_C : Option ℚ
  pcb_temp_C : Option ℚ
  raw_response : Bytes

/-- What `parse_response` returns. -/
inductive Response where
  | pia (data : PiaData)
  | pib (data : PibData)

/-- A raised `DecodeError`. -/
structure DecodeError where
  message : String
  deriving DecidableEq

/-- `_k10_to_c(raw)`. -/
def k10_to_c (raw : UInt16) : Option ℚ :=
  if raw = TEMP_K10_NA_SENTINEL then none else some ((raw.toNat : ℚ) / 10 - 273 - 15 / 100)

/-- `_parse_pia(slave, payload, full_frame)`. -/
def parse_pia (slave : UInt8) (payload full_frame : Bytes) : Except DecodeError PiaData :=
  if payload.length < 36 then
    .error ⟨s!"PIA payload too short: {payload.length} bytes (need 36)"⟩
  else
    let regs_u := words (payload.take 36)
    let reg (i : Nat) : ℚ := (regs_u.getD i 0).toNat
    let current_signed := s16 (regs_u.getD 1 0)
    .ok {
      pack := slave.toNat
      voltage_V := reg 0 / 100
      current_A := (current_signed : ℚ) / 100
      remaining_Ah := reg 2 / 100
      nominal_Ah := reg 3 / 100
      soc_pct := reg 5 / 10
      soh_pct := reg 6 / 10
      cycles := (regs_u.getD 7 0).toNat
      raw_response := full_frame }

/-- `_parse_pib(slave, payload, full_frame)`. -/
def parse_pib (slave : UInt8) (payload full_frame : Bytes) : Except DecodeError PibData :=
  if payload.length < 52 then
    .error ⟨s!"PIB payload too short: {payload.length} bytes (need 52)"⟩
  else
    let cell_v := (words (payload.take 32)).map UInt16.toNat
    let cell_min := cell_v.min?.getD 0
    let cell_max := cell_v.max?.getD 0
    let body_len_yaml_equivalent := 3 + payload.length - 3 - 2
    let tail_start := if body_len_yaml_equivalent = 54 then 34 else 32
    if payload.length < tail_start + 20 then
      .error ⟨s!"PIB payload too short for temp tail: {payload.length} bytes (need {tail_start + 20} at tail_start={tail_start})"⟩
    else
      let tail := payload.drop tail_start
      let cell_temps_raw := words (tail.take 8)
      let env_temp_raw := (words ((tail.drop 16).take 2)).getD 0 0
      let pcb_temp_raw := (words ((tail.drop 18).take 2)).getD 0 0
      .ok {
        pack := slave.toNat
        cell_v_mV := cell_v
        cell_v_min_mV := cell_min
        cell_v_max_mV := cell_max
        cell_v_avg_mV := cell_v.sum / 16
        cell_v_delta_mV := cell_max - cell_min
        cell_temp_C := cell_temps_raw.map k10_to_c
        env_temp_C := k10_to_c env_temp_raw
        pcb_temp_C := k10_to_c pcb_temp_raw
        raw_response := full_frame }

/-- `parse_response(frame)`. -/
def parse_response (frame : Bytes) : Except DecodeError Response :=
  match frame with
  | slave :: fc :: byte_count :: body =>
    if frame.length < 5 then
      .error ⟨s!"frame too short: {frame.length} bytes (expected ≥5)"⟩
    else if ¬ verify_crc frame then .error ⟨"CRC16 mismatch"⟩
    else if fc ≠ 0x04 then
      .error ⟨s!"unexpected function code 0x{hex_padded_upper 2 fc.toNat} (expected 0x04)"⟩
    else if slave < 1 ∨ 4 < slave then
      .error ⟨s!"unexpected slave address {slave.toNat} (expected 1..4)"⟩
    else
      let expected_total := 3 + byte_count.toNat + 2
      if frame.length < expected_total then
        .error ⟨s!"frame truncated: have {frame.length} bytes, need {expected_total} (byte_count={byte_count.toNat})"⟩
      else
        let payload := body.take byte_count.toNat
        if byte_count = PIA_BYTE_COUNT then (parse_pia slave payload frame).map .pia
        else if byte_count = PIB_BYTE_COUNT then (parse_pib slave payload frame).map .pib
        else
          .error ⟨s!"unknown byte_count 0x{hex_padded_upper 2 byte_count.toNat} ({byte_count.toNat}); expected 0x24 (PIA) or 0x34 (PIB)"⟩
  | _ => .error ⟨s!"frame too short: {frame.length} bytes (expected ≥5)"⟩

/-- The pack a response is attributed to. -/
def Response.pack : Response → Nat
  | .pia data => data.pack
  | .pib data => data.pack

/-- The type of a response, as its byte count gives it. -/
def Response.byte_count : Response → UInt8
  | .pia _ => PIA_BYTE_COUNT
  | .pib _ => PIB_BYTE_COUNT

theorem parse_pia_pack {slave : UInt8} {payload frame : Bytes} {data : PiaData}
    (h : parse_pia slave payload frame = .ok data) : data.pack = slave.toNat := by
  unfold parse_pia at h
  split at h
  · cases h
  · cases h
    rfl

theorem parse_pib_pack {slave : UInt8} {payload frame : Bytes} {data : PibData}
    (h : parse_pib slave payload frame = .ok data) : data.pack = slave.toNat := by
  unfold parse_pib at h
  dsimp only at h
  split_ifs at h
  all_goals
    cases h
    rfl

/-- What is decoded comes from a frame with a valid CRC whose header names the pack and
the type of the data. -/
theorem parse_response_ok {frame : Bytes} {response : Response}
    (h : parse_response frame = .ok response) :
    verify_crc frame = true ∧ ∃ slave body,
      frame = slave :: 0x04 :: response.byte_count :: body ∧ response.pack = slave.toNat := by
  unfold parse_response at h
  split at h
  case h_2 => cases h
  case h_1 slave fc byte_count body =>
    dsimp only at h
    split_ifs at h with hshort hcrc hfc hslave htotal hpia hpib
    · obtain ⟨data, hdata, rfl⟩ := map_eq_ok_iff.mp h
      exact ⟨hcrc, slave, body, by rw [not_not.mp hfc, hpia]; rfl, parse_pia_pack hdata⟩
    · obtain ⟨data, hdata, rfl⟩ := map_eq_ok_iff.mp h
      exact ⟨hcrc, slave, body, by rw [not_not.mp hfc, hpib]; rfl, parse_pib_pack hdata⟩

/-- The requests are the frames of the firmware. -/
example : pia_request 1 = [0x01, 0x04, 0x10, 0x00, 0x00, 0x12, 0x74, 0xC7] ∧
    pib_request 4 = [0x04, 0x04, 0x11, 0x00, 0x00, 0x1A, 0x74, 0xA8] := by decide +kernel

end inverter_bridge.bms.octopus_protocol
