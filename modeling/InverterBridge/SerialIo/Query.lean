import InverterBridge.SerialIo.Select
import InverterBridge.Lib.GrowingBuffer

open Python GrowingBuffer
open inverter_bridge.crc inverter_bridge.modbus

namespace inverter_bridge.serial_io

/-- `SerialPort._find_exception(buf, slave)`: the occurrences of the marker
`slave, 0x83` in order, up to the first one that is not complete. -/
def find_exception (slave : UInt8) : Bytes → Option ModbusException
  | b :: tail =>
    if b = slave ∧ tail.head? = some 0x83 then
      if 5 ≤ (b :: tail).length then
        if crc_matches ((b :: tail).take 5) then some ⟨slave, 0x03, tail.getD 1 0⟩
        else find_exception slave tail
      else none
    else find_exception slave tail
  | [] => none

/-- How a query ends. The `TimeoutError` text names the slave and the number of
bytes read. -/
inductive QueryOutcome where
  | frame (f : ModbusFrame)
  | modbusException (e : ModbusException)
  | timeoutError (slave : UInt8) (read : Nat)
  | valueError (e : PyError)
  deriving DecidableEq

/-- A finished query: the request written, the bytes read, the `on_crc_error`
calls made and how it ended. -/
structure QueryRun where
  sent : Bytes
  buf : Bytes
  crc_errors : Nat
  outcome : QueryOutcome

/-- The read loop of `query`, over the chunks `read` returns before the deadline. -/
def query_loop (sent : Bytes) (slave : UInt8) (addr : UInt16) (count : Nat) (buf : Bytes)
    (crc_errors : Nat) : List Bytes → QueryRun
  | [] =>
    -- deadline hit: surface an exception if the slave sent one
    match find_exception slave buf with
    | some e => ⟨sent, buf, crc_errors, .modbusException e⟩
    | none => ⟨sent, buf, crc_errors, .timeoutError slave buf.length⟩
  | chunk :: chunks =>
    if chunk = [] then query_loop sent slave addr count buf crc_errors chunks
    else
      let buf := buf ++ chunk
      let crc_errors := crc_errors + (responses_with_context buf).2
      match select_response buf slave addr count with
      | some frame => ⟨sent, buf, crc_errors, .frame frame⟩
      | none =>
        match find_exception slave buf with
        | some e => ⟨sent, buf, crc_errors, .modbusException e⟩
        | none => query_loop sent slave addr count buf crc_errors chunks

/-- `SerialPort.query(slave, addr, count)`. -/
def query (slave : UInt8) (addr : UInt16) (count : Nat) (chunks : List Bytes) : QueryRun :=
  match build_read_holding_request slave.toNat addr.toNat count with
  | .error e => ⟨[], [], 0, .valueError e⟩
  | .ok req => query_loop req slave addr count [] 0 chunks

/-- The frame a read loop ends with was selected from the bytes read so far. -/
theorem query_loop_frame {sent : Bytes} {slave : UInt8} {addr : UInt16} {count : Nat} {buf : Bytes}
    {crc_errors : Nat} {chunks : List Bytes} {f : ModbusFrame}
    (h : (query_loop sent slave addr count buf crc_errors chunks).outcome = .frame f) :
    ∃ stream, select_response stream slave addr count = some f := by
  induction chunks generalizing buf crc_errors with
  | nil =>
    rw [query_loop] at h
    split at h <;> cases h
  | cons chunk chunks ih =>
    rw [query_loop] at h
    by_cases hchunk : chunk = []
    · rw [if_pos hchunk] at h
      exact ih h
    · rw [if_neg hchunk] at h
      dsimp only at h
      cases hselect : select_response (buf ++ chunk) slave addr count with
      | some frame =>
        rw [hselect] at h
        cases h
        exact ⟨_, hselect⟩
      | none =>
        rw [hselect] at h
        dsimp only at h
        split at h
        · cases h
        · exact ih h

/-- A query answers with a frame only if one was selected. -/
theorem query_frame {slave : UInt8} {addr : UInt16} {count : Nat} {chunks : List Bytes}
    {f : ModbusFrame} (h : (query slave addr count chunks).outcome = .frame f) :
    ∃ stream, select_response stream slave addr count = some f := by
  unfold query at h
  split at h
  · cases h
  · exact query_loop_frame h

/-- What one look at a buffer answers: a frame, else an exception of the slave. -/
def answer (slave : UInt8) (addr : UInt16) (count : Nat) (buf : Bytes) :
    Option (ModbusFrame ⊕ ModbusException) :=
  ((select_response buf slave addr count).map .inl) <|> ((find_exception slave buf).map .inr)

/-- The outcome of a reader that answered `found` after reading `read` bytes. -/
def outcome_of (slave : UInt8) (read : Nat) : Option (ModbusFrame ⊕ ModbusException) → QueryOutcome
  | some (.inl f) => .frame f
  | some (.inr e) => .modbusException e
  | none => .timeoutError slave read

theorem answer_eq_none_iff {slave : UInt8} {addr : UInt16} {count : Nat} {buf : Bytes} :
    answer slave addr count buf = none ↔
      select_response buf slave addr count = none ∧ find_exception slave buf = none := by
  simp [answer]

/-- The read loop is a growing buffer that is answered by `answer`. -/
theorem query_loop_eq {sent : Bytes} {slave : UInt8} {addr : UInt16} {count : Nat} {buf : Bytes}
    {crc_errors : Nat} {chunks : List Bytes} (hne : ∀ chunk ∈ chunks, chunk ≠ [])
    (hopen : find_exception slave buf = none) :
    query_loop sent slave addr count buf crc_errors chunks =
      ⟨sent, final (answer slave addr count) buf chunks,
        crc_errors + total (fun b => (responses_with_context b).2) (answer slave addr count) buf chunks,
        outcome_of slave (final (answer slave addr count) buf chunks).length
          (result (answer slave addr count) buf chunks)⟩ := by
  induction chunks generalizing buf crc_errors with
  | nil => simp [query_loop, hopen, final, total, result, outcome_of]
  | cons chunk chunks ih =>
    have hchunk : chunk ≠ [] := hne chunk (by simp)
    rw [query_loop, if_neg hchunk]
    cases hselect : select_response (buf ++ chunk) slave addr count with
    | none =>
      cases hexc : find_exception slave (buf ++ chunk) with
      | none =>
        have hnone : answer slave addr count (buf ++ chunk) = none :=
          answer_eq_none_iff.mpr ⟨hselect, hexc⟩
        simp only [hselect, hexc]
        rw [ih (fun c hc => hne c (by simp [hc])) hexc, final_cons_open hnone, result_cons_open hnone,
          total, total, looks_cons_open hnone, List.map_cons, List.sum_cons, Nat.add_assoc]
      | some e =>
        have hanswer : answer slave addr count (buf ++ chunk) = some (.inr e) := by
          simp [answer, hselect, hexc]
        have hsome : (answer slave addr count (buf ++ chunk)).isSome := by simp [hanswer]
        simp [hselect, hexc, final_cons_answered hsome, result_cons_answered hsome, total,
          looks_cons_answered hsome, hanswer, outcome_of]
    | some frame =>
      have hanswer : answer slave addr count (buf ++ chunk) = some (.inl frame) := by
        simp [answer, hselect]
      have hsome : (answer slave addr count (buf ++ chunk)).isSome := by simp [hanswer]
      simp [hselect, final_cons_answered hsome, result_cons_answered hsome, total,
        looks_cons_answered hsome, hanswer, outcome_of]

/-- A query of legal size reads the bus through a growing buffer. -/
theorem query_eq {slave : UInt8} {addr : UInt16} {count : Nat} (hcount : 1 ≤ count ∧ count ≤ 125)
    {chunks : List Bytes} (hne : ∀ chunk ∈ chunks, chunk ≠ []) :
    query slave addr count chunks =
      ⟨request_header slave addr count.toUInt16 ++ crc16 (request_header slave addr count.toUInt16),
        final (answer slave addr count) [] chunks,
        total (fun b => (responses_with_context b).2) (answer slave addr count) [] chunks,
        outcome_of slave (final (answer slave addr count) [] chunks).length
          (result (answer slave addr count) [] chunks)⟩ := by
  have hopen : find_exception slave [] = none := by rw [find_exception]
  rw [query, build_read_holding_request_ok slave addr hcount]
  simp only [query_loop_eq hne hopen, Nat.zero_add]

end inverter_bridge.serial_io
