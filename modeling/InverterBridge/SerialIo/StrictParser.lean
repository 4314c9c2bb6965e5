import InverterBridge.SerialIo.Windows

open GreedyScan
open inverter_bridge.crc inverter_bridge.modbus

namespace inverter_bridge.serial_io

/-- A response with an admissible slave and count that the strict parser accepts is a
window at the head of the buffer. -/
theorem window_of_parse_response {buf : Bytes} {slave count : Int} {frame : ModbusFrame}
    (hslave : 1 ≤ slave ∧ slave ≤ 247) (hcount : 1 ≤ count ∧ count ≤ 125)
    (h : parse_response buf slave count = .ok frame) :
    ∃ bc, Window buf 0 (.response bc) ∧ frame = frame_at_head buf bc := by
  obtain ⟨first, bc, tail, rfl, hfirst, hbc, hlen, hcrc, rfl⟩ := parse_response_eq_ok_iff.mp h
  have hlow : 1 ≤ first := UInt8.le_iff_toNat_le.mpr (by
    change 1 ≤ first.toNat
    omega)
  have hhigh : first ≤ 0xF7 := UInt8.le_iff_toNat_le.mpr (by
    change first.toNat ≤ 247
    omega)
  have hmin : 2 ≤ bc := UInt8.le_iff_toNat_le.mpr (by
    change 2 ≤ bc.toNat
    omega)
  have hmax : bc ≤ 250 := UInt8.le_iff_toNat_le.mpr (by
    change bc.toNat ≤ 250
    omega)
  have heven : bc % 2 = 0 := UInt8.toNat_inj.mp (by
    change bc.toNat % 2 = 0
    omega)
  refine ⟨bc, ⟨?_, ⟨first, rfl, hlow, hhigh⟩, ⟨FC_READ_HOLDING, rfl, rfl, rfl, hmin, hmax, heven⟩,
    hcrc⟩, rfl⟩
  rw [Kind.size, Nat.zero_add]
  exact hlen

/-- What a response window says is what the strict parser reads from its bytes. -/
theorem parse_response_of_window {stream : Bytes} {p : Nat} {bc : UInt8}
    (h : Window stream p (.response bc)) :
    let frame := frame_at_head (stream.drop p) bc
    parse_response (slice stream p (5 + bc.toNat)) frame.slave.toNat frame.regs.length =
      .ok frame := by
  intro frame
  have hregs : frame.regs.length = bc.toNat / 2 := (carries_of_window h).length
  obtain ⟨hwithin, ⟨slave, hslave, -⟩, ⟨func, hfunc, rfl, hbc, -, -, heven⟩, hcrc⟩ := h
  have hdrop := drop_of_header hslave hfunc hbc
  have hmod : bc.toNat % 2 = 0 := congrArg UInt8.toNat heven
  have hlen : (slice stream p (5 + bc.toNat)).length = 5 + bc.toNat := by
    simp only [Kind.size] at hwithin
    rw [slice, List.length_take, List.length_drop]
    omega
  have hslice : slice stream p (5 + bc.toNat) =
      slave :: FC_READ_HOLDING :: bc :: (stream.drop (p + 3)).take (2 + bc.toNat) := by
    rw [slice, hdrop, show 5 + bc.toNat = 2 + bc.toNat + 1 + 1 + 1 by omega]
    rfl
  have hframe : frame =
      ⟨slave, FC_READ_HOLDING, words ((stream.drop (p + 3)).take bc.toNat)⟩ := by
    simp only [frame, frame_at_head, hdrop]
    rfl
  refine parse_response_eq_ok_iff.mpr ⟨slave, bc, _, hslice, by rw [hframe], by omega, by omega,
    ?_, ?_⟩
  · rw [List.take_of_length_le (by omega)]
    exact hcrc
  · rw [hframe, List.take_take, Nat.min_eq_left (by omega)]

/-- The strict parser and the scanner agree: what `parse_response` reads is the first frame
of the scan, and each frame of the scan is what `parse_response` reads from its window. -/
theorem parse_response_agrees_with_parse_frame_stream (buf : Bytes) :
    (∀ (slave count : Int) (frame : ModbusFrame), 1 ≤ slave ∧ slave ≤ 247 →
      1 ≤ count ∧ count ≤ 125 → parse_response buf slave count = .ok frame →
        (parse_frame_stream buf).1.head? = some frame) ∧
    List.Forall₂ (fun window frame =>
        parse_response (slice buf window.1 (5 + window.2.toNat)) frame.slave.toNat
          frame.regs.length = .ok frame)
      (response_windows (accepted_windows buf)) (parse_frame_stream buf).1 := by
  constructor
  · intro slave count frame hslave hcount h
    obtain ⟨bc, hwindow, rfl⟩ := window_of_parse_response hslave hcount h
    have hrecognize := recognize_of_response hwindow
    rw [List.drop_zero] at hrecognize
    rw [parse_frame_stream, parse_frame_stream_loop_step, hrecognize]
    rfl
  · refine List.Forall₂.imp ?_ (parse_frame_stream_loop_heads rfl)
    rintro window frame ⟨hwindow, rfl⟩
    exact parse_response_of_window hwindow

end inverter_bridge.serial_io
