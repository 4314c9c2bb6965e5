import InverterBridge.Crc.ErrorDetection
import InverterBridge.SerialIo.Bus
import InverterBridge.SerialIo.Windows

open GreedyScan ShiftRegister
open inverter_bridge.crc inverter_bridge.modbus

namespace inverter_bridge.serial_io

/-- Scanning a request of ours in front of `t` takes the eight bytes of the request
first, and gives what scanning `t` alone gives. -/
structure RequestSkipped (slave : SlaveId) (addr : UInt16) (req t : Bytes) : Prop where
  visits : frame_scanner.visits 0 (req ++ t) =
    (0, some .request) :: frame_scanner.visits Kind.request.size t
  frames : (parse_frame_stream (req ++ t)).1 = (parse_frame_stream t).1
  paired : responses_with_context (req ++ t) =
    responses_with_context_loop (some addr) (some slave.val) t

section

variable {slave : SlaveId} {addr count : UInt16} {t : Bytes}

/-- A request's bytes, its address's high byte in the place of a byte count. -/
theorem encode_request_cons :
    (BusFrame.request slave addr count).encode ++ t =
      slave.val :: FC_READ_HOLDING :: (addr >>> 8).toUInt8 :: (addr.toUInt8 ::
        (count >>> 8).toUInt8 :: count.toUInt8 ::
          (crc16 (BusFrame.request slave addr count).body ++ t)) := rfl

theorem encode_request_append_length :
    ((BusFrame.request slave addr count).encode ++ t).length = 8 + t.length := by
  rw [List.length_append, encode_request_length]

/-- At a request the scanner finds a response or the request. -/
theorem recognize_request :
    recognize ((BusFrame.request slave addr count).encode ++ t) =
      if validates_as_response ((BusFrame.request slave addr count).encode ++ t) then
        some (.response (addr >>> 8).toUInt8)
      else some .request := by
  have hlen := @encode_request_append_length slave addr count t
  have hrequest : valid_request ((BusFrame.request slave addr count).encode ++ t) = true := by
    refine valid_request_iff.mpr ⟨by omega, ?_⟩
    rw [take_encode_append (encode_request_length slave addr count)]
    exact crc_matches_encode _
  rw [encode_request_cons] at hlen hrequest ⊢
  unfold recognize
  dsimp only
  rw [if_neg (by rw [not_or, not_not]; exact ⟨by omega, slave.property⟩)]
  by_cases hresponse : validates_as_response (slave.val :: FC_READ_HOLDING ::
      (addr >>> 8).toUInt8 :: (addr.toUInt8 :: (count >>> 8).toUInt8 :: count.toUInt8 ::
        (crc16 (BusFrame.request slave addr count).body ++ t))) = true
  · rw [if_pos hresponse, if_pos (validates_as_response_cons.mp hresponse)]
  · rw [if_neg hresponse, if_neg (mt validates_as_response_cons.mpr hresponse),
      if_pos ⟨rfl, hrequest⟩]

/-- A request passes for a response when its address's high byte is an admissible byte
count and what follows happens to carry a matching CRC. -/
theorem validates_as_response_request :
    validates_as_response ((BusFrame.request slave addr count).encode ++ t) = true ↔
      addr.toNat / 256 % 2 = 0 ∧ 2 ≤ addr.toNat / 256 ∧ addr.toNat / 256 ≤ 250 ∧
        addr.toNat / 256 ≤ 3 + t.length ∧
        crc_matches (((BusFrame.request slave addr count).encode ++ t).take
          (5 + addr.toNat / 256)) = true := by
  have haddr : addr.toNat < 65536 := addr.toNat_lt
  have hhigh : (addr >>> 8).toUInt8.toNat = addr.toNat / 256 := by
    rw [UInt16.toNat_toUInt8, UInt16.toNat_shiftRight, Nat.shiftRight_eq_div_pow]
    change addr.toNat / 256 % 256 = _
    omega
  have hlen := @encode_request_append_length slave addr count t
  rw [encode_request_cons] at hlen ⊢
  have heven : (addr >>> 8).toUInt8 % 2 = 0 ↔ addr.toNat / 256 % 2 = 0 := by
    rw [← UInt8.toNat_inj, UInt8.toNat_mod, hhigh]
    rfl
  rw [validates_as_response_cons, complete_response_iff, hlen, UInt8.le_iff_toNat_le,
    UInt8.le_iff_toNat_le, heven, hhigh]
  constructor
  · rintro ⟨⟨-, ⟨hmin, hmax, heven⟩, hfits⟩, hcrc⟩
    exact ⟨heven, hmin, hmax, by omega, hcrc⟩
  · rintro ⟨heven, hmin, hmax, hfits, hcrc⟩
    exact ⟨⟨rfl, ⟨hmin, hmax, heven⟩, by omega⟩, hcrc⟩

/-- A request that does not pass for a response is skipped. -/
theorem requestSkipped_of_clear
    (hclear : validates_as_response ((BusFrame.request slave addr count).encode ++ t) = false) :
    RequestSkipped slave addr (BusFrame.request slave addr count).encode t := by
  have hloop := loop_request none none slave addr count t hclear
  have hrecognize : frame_scanner.recognize ((BusFrame.request slave addr count).encode ++ t) =
      some .request := by
    rw [frame_scanner_recognize, recognize_request, hclear, if_neg Bool.false_ne_true]
  refine ⟨?_, ?_, hloop⟩
  · rw [Recognizer.visits_of_some hrecognize]
    change _ :: frame_scanner.visits _ (((BusFrame.request slave addr count).encode ++ t).drop 8) = _
    rw [drop_encode_append (encode_request_length slave addr count), Nat.zero_add]
    rfl
  · have hwith := (responses_with_context_loop_frames none none
      ((BusFrame.request slave addr count).encode ++ t)).1
    rw [hloop, (responses_with_context_loop_frames (some addr) (some slave.val) t).1] at hwith
    exact hwith.symm

/-- A request that passes for a response is not skipped: the scan starts with a frame. -/
theorem not_requestSkipped
    (htaken : validates_as_response ((BusFrame.request slave addr count).encode ++ t) = true) :
    ¬ RequestSkipped slave addr (BusFrame.request slave addr count).encode t := by
  intro hskipped
  have hrecognize : frame_scanner.recognize ((BusFrame.request slave addr count).encode ++ t) =
      some (.response (addr >>> 8).toUInt8) := by
    rw [frame_scanner_recognize, recognize_request, htaken, if_pos rfl]
  have hvisits := hskipped.visits
  rw [Recognizer.visits_of_some hrecognize] at hvisits
  cases hvisits

end

/-- A request is skipped exactly when it does not pass for a response: when the high byte
of its address is odd, zero or above 250, or the stream ends before that many data bytes
and a CRC, or that CRC does not match. -/
theorem request_skipped_iff (slave : SlaveId) (addr : UInt16) {count : Nat}
    (hcount : 1 ≤ count ∧ count ≤ 125) {req : Bytes}
    (hreq : build_read_holding_request slave.val.toNat addr.toNat count = .ok req) (t : Bytes) :
    RequestSkipped slave addr req t ↔
      ¬ (addr.toNat / 256 % 2 = 0 ∧ 2 ≤ addr.toNat / 256 ∧ addr.toNat / 256 ≤ 250 ∧
        addr.toNat / 256 ≤ 3 + t.length ∧
        crc_matches ((req ++ t).take (5 + addr.toNat / 256)) = true) := by
  rw [build_read_holding_request_ok slave.val addr hcount, Except.ok.injEq] at hreq
  subst hreq
  change RequestSkipped slave addr (BusFrame.request slave addr count.toUInt16).encode t ↔ ¬ (_ ∧ _ ∧
    _ ∧ _ ∧ crc_matches (((BusFrame.request slave addr count.toUInt16).encode ++ t).take _) = true)
  rw [← @validates_as_response_request slave addr count.toUInt16 t]
  constructor
  · intro hskipped htaken
    exact not_requestSkipped htaken hskipped
  · intro hclear
    exact requestSkipped_of_clear (Bool.eq_false_iff.mpr hclear)

/-- With a byte count of two the response lies within the request, and its CRC matches for
one count only: the low CRC byte of what stands in front of the count. -/
theorem two_byte_response_in_request (slave : SlaveId) (addr : UInt16) {count : Nat}
    (hcount : count ≤ 125) (haddr : addr.toNat / 256 = 2) (t : Bytes) :
    crc_matches (((BusFrame.request slave addr count.toUInt16).encode ++ t).take 7) = true ↔
      count.toUInt16.toUInt8 =
        (crc_register [slave.val, FC_READ_HOLDING, 2, addr.toUInt8, 0]).toUInt8 := by
  have hhigh : (addr >>> 8).toUInt8 = 2 := by
    apply UInt8.toNat_inj.mp
    rw [UInt16.toNat_toUInt8, UInt16.toNat_shiftRight, Nat.shiftRight_eq_div_pow]
    change addr.toNat / 256 % 256 = 2
    omega
  have hzero : (count.toUInt16 >>> 8).toUInt8 = 0 := by
    apply UInt8.toNat_inj.mp
    rw [UInt16.toNat_toUInt8, UInt16.toNat_shiftRight, Nat.shiftRight_eq_div_pow, Nat.toUInt16,
      UInt16.toNat_ofNat']
    change count % 65536 / 256 % 256 = 0
    omega
  have hheader : (BusFrame.request slave addr count.toUInt16).body =
      [slave.val, FC_READ_HOLDING, 2, addr.toUInt8, 0] ++ [count.toUInt16.toUInt8] := by
    rw [BusFrame.body, request_header, hhigh, hzero]
    rfl
  have htake : ((BusFrame.request slave addr count.toUInt16).encode ++ t).take 7 =
      [slave.val, FC_READ_HOLDING, 2, addr.toUInt8, 0] ++ [count.toUInt16.toUInt8,
        (crc_register (BusFrame.request slave addr count.toUInt16).body).toUInt8] := by
    rw [BusFrame.encode, hheader]
    rfl
  generalize hdata : [slave.val, FC_READ_HOLDING, 2, addr.toUInt8, 0] = data at hheader htake ⊢
  have hfive : data.length = 5 := by rw [← hdata]; rfl
  rw [htake, crc_matches, List.length_append, hfive]
  change (crc16 ((data ++ _).take 5) == (data ++ _).drop 5) = true ↔ _
  rw [← hfive, List.take_left, List.drop_left, beq_iff_eq, crc16, hheader]
  simp only [List.cons.injEq, and_true]
  constructor
  · intro h
    exact h.1.symm
  · intro h
    refine ⟨h.symm, ?_⟩
    rw [h, crc_register_append_low, UInt8.toUInt8_toUInt16]

/-- The request for the `faults` block of slave 32 passes for a response by itself: a
register frame comes out where no response was sent. -/
theorem request_taken_for_response :
    ∃ req, build_read_holding_request 32 0x0204 6 = .ok req ∧
      (parse_frame_stream req).1 = [⟨32, FC_READ_HOLDING, [0x0400]⟩] ∧
      ¬ RequestSkipped ⟨32, by decide⟩ 0x0204 req [] := by
  refine ⟨(BusFrame.request ⟨32, by decide⟩ 0x0204 6).encode, by decide +kernel, ?_, ?_⟩
  · rw [parse_frame_stream, parse_frame_stream_loop_step,
      show recognize (BusFrame.request ⟨32, by decide⟩ 0x0204 6).encode = some (.response 2) by
        decide +kernel]
    dsimp only
    rw [parse_frame_stream_loop_short (by decide)]
    decide +kernel
  · exact not_requestSkipped (by decide +kernel)

/-- The request for the `state` block of inverter 1 is skipped in front of anything too short
to fill a response of 2 bytes. -/
theorem request_skipped_iff_state :
    RequestSkipped ⟨1, by decide⟩ 0x0210
      (BusFrame.request ⟨1, by decide⟩ 0x0210 19).encode [0x01, 0x03] :=
  (request_skipped_iff ⟨1, by decide⟩ 0x0210 (by decide) (build_read_holding_request_ok 1 0x0210
    (by decide)) [0x01, 0x03]).mpr (by decide +kernel)

end inverter_bridge.serial_io
