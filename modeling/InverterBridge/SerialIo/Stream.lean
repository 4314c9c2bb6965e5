import InverterBridge.SerialIo.Scan

open inverter_bridge.crc inverter_bridge.modbus

namespace inverter_bridge.serial_io

/-- The loop of `parse_frame_stream`, on `rest = stream[i:]`. Beside the frames
it returns how often `on_crc_error` was called. -/
def parse_frame_stream_loop : Bytes → List ModbusFrame × Nat
  | slave :: func :: bc :: tail =>
    let rest := slave :: func :: bc :: tail
    if rest.length ≤ 4 then ([], 0)
    else if ¬ (1 ≤ slave ∧ slave ≤ 0xF7) then parse_frame_stream_loop (func :: bc :: tail)
    else
      let complete := complete_response func bc rest.length
      if complete ∧ crc_matches (rest.take (5 + bc.toNat)) then
        let regs := words (tail.take bc.toNat)
        let after := parse_frame_stream_loop (rest.drop (5 + bc.toNat))
        (⟨slave, func, regs⟩ :: after.1, after.2)
      else
        -- a complete response that fails its CRC is an error unless it is a request
        let errors := if complete ∧ ¬ valid_request rest then 1 else 0
        let after :=
          if func = FC_READ_HOLDING ∧ valid_request rest then
            parse_frame_stream_loop (rest.drop 8)
          else if func &&& EXCEPTION_BIT ≠ 0 ∧ crc_matches (rest.take 5) then
            parse_frame_stream_loop (rest.drop 5)
          else
            parse_frame_stream_loop (func :: bc :: tail)
        (after.1, after.2 + errors)
  | _ => ([], 0)
termination_by rest => rest.length
decreasing_by all_goals simp_wf <;> omega

/-- `parse_frame_stream(stream, on_crc_error)`. -/
def parse_frame_stream (stream : Bytes) : List ModbusFrame × Nat :=
  parse_frame_stream_loop stream

/-- Whatever request is pending, the walk with contexts takes the same steps:
the pending address and slave end up in the contexts only. -/
theorem responses_with_context_loop_frames (pending_addr : Option UInt16)
    (pending_slave : Option UInt8) (rest : Bytes) :
    (responses_with_context_loop pending_addr pending_slave rest).1.map Prod.fst =
        (parse_frame_stream_loop rest).1 ∧
      (responses_with_context_loop pending_addr pending_slave rest).2 =
        (parse_frame_stream_loop rest).2 := by
  fun_induction responses_with_context_loop pending_addr pending_slave rest with
  | case1 pending_addr pending_slave slave func bc tail rest hshort =>
    rw [parse_frame_stream_loop, if_pos hshort]
    exact ⟨rfl, rfl⟩
  | case2 pending_addr pending_slave slave func bc tail rest hlen hslave ih =>
    rw [parse_frame_stream_loop, if_neg hlen, if_pos hslave]
    exact ih
  | case3 pending_addr pending_slave slave func bc tail rest hlen hslave complete hframe regs ctx
      after ih =>
    rw [parse_frame_stream_loop, if_neg hlen, if_neg hslave, if_pos hframe]
    exact ⟨by rw [List.map_cons, ih.1], ih.2⟩
  | case4 pending_addr pending_slave slave func bc tail rest hlen hslave complete hframe errors
      after ih1 ih2 ih3 =>
    rw [parse_frame_stream_loop, if_neg hlen, if_neg hslave, if_neg hframe]
    suffices hafter : after.1.map Prod.fst = _ ∧ after.2 = _ from
      ⟨hafter.1, congrArg (· + errors) hafter.2⟩
    simp only [after]
    split_ifs with hrequest hexception
    · exact ih1
    · exact ih2
    · exact ih3
  | case5 pending_addr pending_slave rest hshort =>
    rw [parse_frame_stream_loop]
    · exact ⟨rfl, rfl⟩
    · exact hshort

/-- Dropping the contexts from `responses_with_context` gives the frames of
`parse_frame_stream`, and the two report the same number of CRC errors. -/
theorem responses_with_context_eq_parse_frame_stream (stream : Bytes) :
    (responses_with_context stream).1.map Prod.fst = (parse_frame_stream stream).1 ∧
      (responses_with_context stream).2 = (parse_frame_stream stream).2 :=
  responses_with_context_loop_frames none none stream

end inverter_bridge.serial_io
