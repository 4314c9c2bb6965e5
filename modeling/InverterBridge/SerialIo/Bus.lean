import InverterBridge.SerialIo.Scan

open inverter_bridge.crc inverter_bridge.modbus

namespace inverter_bridge.serial_io

/-- The register words one response can carry. -/
abbrev Registers := { regs : List UInt16 // 1 ≤ regs.length ∧ regs.length ≤ 125 }

/-- A well-formed frame on the shared bus. -/
inductive BusFrame where
  | response (slave : SlaveId) (regs : Registers)
  | request (slave : SlaveId) (addr count : UInt16)
  | exception (slave : SlaveId) (func excode : UInt8) (hfunc : func &&& EXCEPTION_BIT ≠ 0)

/-- The bytes of a frame before its CRC. -/
def BusFrame.body : BusFrame → Bytes
  | .response slave regs =>
    slave.val :: FC_READ_HOLDING :: (2 * regs.val.length).toUInt8 :: word_bytes regs.val
  | .request slave addr count => request_header slave.val addr count
  | .exception slave func excode _ => [slave.val, func, excode]

/-- A frame as it stands on the wire. -/
def BusFrame.encode (frame : BusFrame) : Bytes := frame.body ++ crc16 frame.body

/-- A frame sequence as one byte stream. -/
def encode_all (frames : List BusFrame) : Bytes := frames.flatMap BusFrame.encode

@[simp] theorem encode_all_nil : encode_all [] = [] := rfl

@[simp] theorem encode_all_cons (frame : BusFrame) (frames : List BusFrame) :
    encode_all (frame :: frames) = frame.encode ++ encode_all frames := rfl

/-- The bytes at the head of `rest` pass for a response of their own. -/
def validates_as_response : Bytes → Bool
  | slave :: func :: bc :: tail =>
    complete_response func bc (slave :: func :: bc :: tail).length &&
      crc_matches ((slave :: func :: bc :: tail).take (5 + bc.toNat))
  | _ => false

theorem validates_as_response_cons {slave func bc : UInt8} {tail : Bytes} :
    validates_as_response (slave :: func :: bc :: tail) = true ↔
      complete_response func bc (slave :: func :: bc :: tail).length = true ∧
        crc_matches ((slave :: func :: bc :: tail).take (5 + bc.toNat)) = true := by
  rw [validates_as_response, Bool.and_eq_true]

/-- No request, at its place in the stream, also validates as a response. -/
def RequestsUnambiguous (frames : List BusFrame) : Prop :=
  ∀ before slave addr count after, frames = before ++ .request slave addr count :: after →
    validates_as_response (encode_all (.request slave addr count :: after)) = false

theorem RequestsUnambiguous.tail {frame : BusFrame} {frames : List BusFrame}
    (h : RequestsUnambiguous (frame :: frames)) : RequestsUnambiguous frames := by
  intro before slave addr count after heq
  exact h (frame :: before) slave addr count after (by rw [heq, List.cons_append])

/-- What is left of a frame followed by `tail` once the frame is dropped. -/
theorem drop_encode_append {frame : BusFrame} {n : Nat} (hlen : frame.encode.length = n)
    (tail : Bytes) : (frame.encode ++ tail).drop n = tail := by
  rw [← hlen, List.drop_left]

theorem take_encode_append {frame : BusFrame} {n : Nat} (hlen : frame.encode.length = n)
    (tail : Bytes) : (frame.encode ++ tail).take n = frame.encode := by
  rw [← hlen, List.take_left]

theorem crc_matches_encode (frame : BusFrame) : crc_matches frame.encode = true :=
  crc_matches_append _

/-- The byte count of a response is twice its register count, without overflow. -/
theorem byte_count_toNat (regs : Registers) :
    (2 * regs.val.length).toUInt8.toNat = 2 * regs.val.length := by
  have := regs.property
  rw [Nat.toUInt8, UInt8.toNat_ofNat', Nat.mod_eq_of_lt (by omega)]

theorem encode_response_length (slave : SlaveId) (regs : Registers) :
    (BusFrame.response slave regs).encode.length = 5 + (2 * regs.val.length).toUInt8.toNat := by
  rw [byte_count_toNat]
  simp [BusFrame.encode, BusFrame.body]
  omega

theorem encode_request_length (slave : SlaveId) (addr count : UInt16) :
    (BusFrame.request slave addr count).encode.length = 8 := rfl

theorem encode_exception_length (slave : SlaveId) (func excode : UInt8)
    (hfunc : func &&& EXCEPTION_BIT ≠ 0) :
    (BusFrame.exception slave func excode hfunc).encode.length = 5 := rfl

/-- A complete response passes the header test. -/
theorem complete_response_of_registers (regs : Registers) (available : Nat)
    (havail : 5 + 2 * regs.val.length ≤ available) :
    complete_response FC_READ_HOLDING (2 * regs.val.length).toUInt8 available = true := by
  have hbc := byte_count_toNat regs
  have hbounds := regs.property
  have hlo : 2 ≤ (2 * regs.val.length).toUInt8 := by
    rw [UInt8.le_iff_toNat_le, hbc]
    simp only [UInt8.reduceToNat]
    omega
  have hhi : (2 * regs.val.length).toUInt8 ≤ 250 := by
    rw [UInt8.le_iff_toNat_le, hbc]
    simp only [UInt8.reduceToNat]
    omega
  have heven : (2 * regs.val.length).toUInt8 % 2 = 0 := by
    apply UInt8.toNat_inj.mp
    rw [UInt8.toNat_mod, hbc]
    simp
  simp only [complete_response, beq_self_eq_true, hlo, hhi, heven, hbc, decide_true, Bool.and_self,
    Bool.true_and, decide_eq_true_eq]
  exact havail

/-- The scanner takes a response from the head of the stream and pairs it with
the pending request of its slave. -/
theorem loop_response (pending_addr : Option UInt16) (pending_slave : Option UInt8)
    (slave : SlaveId) (regs : Registers) (tail : Bytes) :
    responses_with_context_loop pending_addr pending_slave
        ((BusFrame.response slave regs).encode ++ tail) =
      let after := responses_with_context_loop none none tail
      ((⟨slave.val, FC_READ_HOLDING, regs.val⟩,
        if pending_slave = some slave.val then pending_addr else none) :: after.1, after.2) := by
  have hlen := encode_response_length slave regs
  have hdrop := drop_encode_append hlen tail
  have htake := take_encode_append hlen tail
  generalize htail : crc16 (BusFrame.response slave regs).body ++ tail = rest
  have hbody : ((BusFrame.response slave regs).encode ++ tail) =
      slave.val :: FC_READ_HOLDING :: (2 * regs.val.length).toUInt8 ::
        (word_bytes regs.val ++ rest) := by
    simp [BusFrame.encode, BusFrame.body, ← htail]
  have hwords : (word_bytes regs.val ++ rest).take (2 * regs.val.length).toUInt8.toNat =
      word_bytes regs.val := by
    rw [byte_count_toNat, ← word_bytes_length, List.take_left]
  have hrest : 2 ≤ rest.length := by simp [← htail]
  rw [hbody] at hdrop htake ⊢
  rw [responses_with_context_loop]
  generalize hstream : slave.val :: FC_READ_HOLDING :: (2 * regs.val.length).toUInt8 ::
    (word_bytes regs.val ++ rest) = stream at hdrop htake ⊢
  have hlength : stream.length = 3 + (2 * regs.val.length + rest.length) := by
    simp [← hstream]
    omega
  have hlong : ¬ stream.length ≤ 4 := by
    have hregs := regs.property
    omega
  have hcomplete := complete_response_of_registers regs stream.length (by omega)
  simp only [hlong, if_false, slave.property, and_self, not_true_eq_false, hcomplete, htake,
    crc_matches_encode, if_true, hdrop, hwords, words_word_bytes]

/-- The scanner takes an unambiguous request from the head of the stream and
remembers it, without reporting an error. -/
theorem loop_request (pending_addr : Option UInt16) (pending_slave : Option UInt8)
    (slave : SlaveId) (addr count : UInt16) (tail : Bytes)
    (hclear : validates_as_response ((BusFrame.request slave addr count).encode ++ tail) = false) :
    responses_with_context_loop pending_addr pending_slave
        ((BusFrame.request slave addr count).encode ++ tail) =
      responses_with_context_loop (some addr) (some slave.val) tail := by
  have hdrop := drop_encode_append (encode_request_length slave addr count) tail
  have htake := take_encode_append (encode_request_length slave addr count) tail
  have hcrc := crc_matches_encode (BusFrame.request slave addr count)
  rw [← htake] at hcrc
  generalize htail : crc16 (BusFrame.request slave addr count).body ++ tail = rest at *
  have hbody : (BusFrame.request slave addr count).encode ++ tail =
      slave.val :: FC_READ_HOLDING :: (addr >>> 8).toUInt8 :: (addr.toUInt8 ::
        (count >>> 8).toUInt8 :: count.toUInt8 :: rest) := by
    rw [← htail]
    simp [BusFrame.encode, BusFrame.body, request_header]
  have hrest : 2 ≤ rest.length := by simp [← htail]
  rw [hbody] at hdrop hclear hcrc ⊢
  have hno := mt validates_as_response_cons.mpr (Bool.eq_false_iff.mp hclear)
  rw [responses_with_context_loop]
  generalize hstream : slave.val :: FC_READ_HOLDING :: (addr >>> 8).toUInt8 :: (addr.toUInt8 ::
    (count >>> 8).toUInt8 :: count.toUInt8 :: rest) = stream at hdrop hcrc hno ⊢
  have hlength : stream.length = 6 + rest.length := by
    simp [← hstream]
    omega
  have hvalid : valid_request stream = true := by
    simp only [valid_request, hcrc, Bool.and_true, decide_eq_true_eq]
    omega
  have hlong : ¬ stream.length ≤ 4 := by omega
  have haddr : (stream.getD 2 0).toUInt16 <<< 8 ||| (stream.getD 3 0).toUInt16 = addr := by
    rw [← hstream]
    exact join_split_word addr
  simp only [hlong, if_false, slave.property, and_self, not_true_eq_false, hno, hvalid,
    and_false, if_true, hdrop, haddr, Nat.add_zero]

/-- The scanner steps over an exception frame and keeps the pending request. -/
theorem loop_exception (pending_addr : Option UInt16) (pending_slave : Option UInt8)
    (slave : SlaveId) (func excode : UInt8) (hfunc : func &&& EXCEPTION_BIT ≠ 0) (tail : Bytes) :
    responses_with_context_loop pending_addr pending_slave
        ((BusFrame.exception slave func excode hfunc).encode ++ tail) =
      responses_with_context_loop pending_addr pending_slave tail := by
  have hdrop := drop_encode_append (encode_exception_length slave func excode hfunc) tail
  have htake := take_encode_append (encode_exception_length slave func excode hfunc) tail
  have hcrc := crc_matches_encode (BusFrame.exception slave func excode hfunc)
  rw [← htake] at hcrc
  generalize htail : crc16 (BusFrame.exception slave func excode hfunc).body ++ tail = rest at *
  have hbody : (BusFrame.exception slave func excode hfunc).encode ++ tail =
      slave.val :: func :: excode :: rest := by
    rw [← htail]
    simp [BusFrame.encode, BusFrame.body]
  have hrest : 2 ≤ rest.length := by simp [← htail]
  have hnotread : func ≠ FC_READ_HOLDING := by
    rintro rfl
    exact hfunc (by decide)
  rw [hbody] at hdrop hcrc ⊢
  rw [responses_with_context_loop]
  have hlong : ¬ (slave.val :: func :: excode :: rest).length ≤ 4 := by
    simp only [List.length_cons]
    omega
  have hno : complete_response func excode (slave.val :: func :: excode :: rest).length = false := by
    simp [complete_response, hnotread]
  simp only [hlong, if_false, slave.property, and_self, not_true_eq_false, hno, Bool.false_eq_true,
    false_and, hnotread, ne_eq, hfunc, not_false_eq_true, hcrc, if_true, hdrop, Nat.add_zero]

end inverter_bridge.serial_io
