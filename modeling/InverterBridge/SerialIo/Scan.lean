import InverterBridge.Modbus

open inverter_bridge.crc inverter_bridge.modbus

namespace inverter_bridge.serial_io

/-- The header test for a response whose full length has arrived: `func`, `bc`
and the number of bytes from the frame's start to the end of the stream. -/
def complete_response (func bc : UInt8) (available : Nat) : Bool :=
  func == FC_READ_HOLDING && 2 ≤ bc && bc ≤ 250 && bc % 2 == 0 && 5 + bc.toNat ≤ available

/-- The first eight bytes of `rest` are a read request with a valid CRC. -/
def valid_request (rest : Bytes) : Bool := 8 ≤ rest.length && crc_matches (rest.take 8)

/-- The loop of `responses_with_context`, on `rest = stream[i:]`. Beside the
paired frames it returns how often `on_crc_error` was called. -/
def responses_with_context_loop (pending_addr : Option UInt16) (pending_slave : Option UInt8) :
    Bytes → List (ModbusFrame × Option UInt16) × Nat
  | slave :: func :: bc :: tail =>
    let rest := slave :: func :: bc :: tail
    if rest.length ≤ 4 then ([], 0)
    else if ¬ (1 ≤ slave ∧ slave ≤ 0xF7) then
      responses_with_context_loop pending_addr pending_slave (func :: bc :: tail)
    else
      let complete := complete_response func bc rest.length
      if complete ∧ crc_matches (rest.take (5 + bc.toNat)) then
        let regs := words (tail.take bc.toNat)
        let ctx := if pending_slave = some slave then pending_addr else none
        let after := responses_with_context_loop none none (rest.drop (5 + bc.toNat))
        ((⟨slave, func, regs⟩, ctx) :: after.1, after.2)
      else
        -- a complete response that fails its CRC is an error unless it is a request
        let errors := if complete ∧ ¬ valid_request rest then 1 else 0
        let after :=
          if func = FC_READ_HOLDING ∧ valid_request rest then
            let addr := (rest.getD 2 0).toUInt16 <<< 8 ||| (rest.getD 3 0).toUInt16
            responses_with_context_loop (some addr) (some slave) (rest.drop 8)
          else if func &&& EXCEPTION_BIT ≠ 0 ∧ crc_matches (rest.take 5) then
            responses_with_context_loop pending_addr pending_slave (rest.drop 5)
          else
            responses_with_context_loop pending_addr pending_slave (func :: bc :: tail)
        (after.1, after.2 + errors)
  | _ => ([], 0)
termination_by rest => rest.length
decreasing_by all_goals simp_wf <;> omega

/-- `responses_with_context(stream, on_crc_error)`. -/
def responses_with_context (stream : Bytes) : List (ModbusFrame × Option UInt16) × Nat :=
  responses_with_context_loop none none stream

end inverter_bridge.serial_io
