import InverterBridge.Crc
import InverterBridge.Lib.Python

open Python
open inverter_bridge.crc

namespace inverter_bridge.modbus

def FC_READ_HOLDING : UInt8 := 0x03
def EXCEPTION_BIT : UInt8 := 0x80

/-- A slave address the bus admits: `1..247`. -/
abbrev SlaveId := { slave : UInt8 // 1 ≤ slave ∧ slave ≤ 0xF7 }

theorem slave_1_admitted : (1 : UInt8) ≤ 1 ∧ (1 : UInt8) ≤ 0xF7 := by decide

theorem slave_2_admitted : (1 : UInt8) ≤ 2 ∧ (2 : UInt8) ≤ 0xF7 := by decide

/-- A successful read-holding-registers response. -/
structure ModbusFrame where
  slave : UInt8
  func : UInt8
  regs : List UInt16
  deriving DecidableEq

/-- The names of the Modbus exception codes. -/
def EXCODES : List (UInt8 × String) :=
  [(0x01, "illegal_function"), (0x02, "illegal_data_address"), (0x03, "illegal_data_value"),
    (0x04, "slave_device_failure"), (0x05, "acknowledge"), (0x06, "slave_device_busy")]

/-- An exception response (`fc | 0x80`). -/
structure ModbusException where
  slave : UInt8
  func : UInt8
  excode : UInt8
  deriving DecidableEq

/-- The text the exception carries. -/
def ModbusException.message (e : ModbusException) : String :=
  let name := (EXCODES.lookup e.excode).getD s!"unknown_0x{hex_padded 2 e.excode.toNat}"
  s!"slave 0x{hex_padded 2 e.slave.toNat} fc 0x{hex_padded 2 e.func.toNat} exception 0x{hex_padded 2 e.excode.toNat} ({name})"

/-- The six bytes of a read request before its CRC. -/
def request_header (slave : UInt8) (addr count : UInt16) : Bytes :=
  [slave, FC_READ_HOLDING, (addr >>> 8).toUInt8, addr.toUInt8, (count >>> 8).toUInt8, count.toUInt8]

/-- `build_read_holding_request(slave, addr, count)`. -/
def build_read_holding_request (slave addr count : Int) : Except PyError Bytes :=
  if ¬ (1 ≤ count ∧ count ≤ 125) then
    .error (.ValueError s!"count must be 1..125, got {count}")
  else if ¬ (0 ≤ addr ∧ addr ≤ 0xFFFF) then
    .error (.ValueError s!"addr must be 0..0xFFFF, got 0x{hex_padded 4 addr}")
  else if ¬ (0 ≤ slave ∧ slave ≤ 0xFF) then
    .error (.ValueError "bytes must be in range(0, 256)")
  else
    let req := request_header slave.toNat.toUInt8 addr.toNat.toUInt16 count.toNat.toUInt16
    .ok (req ++ crc16 req)

/-- Within its argument ranges the builder always succeeds. -/
theorem build_read_holding_request_ok (slave : UInt8) (addr : UInt16) {count : Nat}
    (hcount : 1 ≤ count ∧ count ≤ 125) :
    build_read_holding_request slave.toNat addr.toNat count =
      .ok (request_header slave addr count.toUInt16 ++
        crc16 (request_header slave addr count.toUInt16)) := by
  have haddr : addr.toNat < 65536 := addr.toNat_lt
  have hslave : slave.toNat < 256 := slave.toNat_lt
  have hc : 1 ≤ (count : Int) ∧ (count : Int) ≤ 125 := by omega
  have ha : 0 ≤ (addr.toNat : Int) ∧ (addr.toNat : Int) ≤ 0xFFFF := by omega
  have hs : 0 ≤ (slave.toNat : Int) ∧ (slave.toNat : Int) ≤ 0xFF := by omega
  simp only [build_read_holding_request, not_true_eq_false, if_false, hc, ha, hs, and_self,
    Int.toNat_natCast, UInt8.ofNat_toNat, UInt16.ofNat_toNat]

/-- The register words of a response body, high byte first. -/
def words : Bytes → List UInt16
  | hi :: lo :: rest => ((hi.toUInt16 <<< 8) ||| lo.toUInt16) :: words rest
  | _ => []

/-- `data.hex()`. -/
def hex_bytes (data : Bytes) : String := String.join (data.map fun b => hex_padded 2 b.toNat)

/-- How `parse_response` fails: the slave's exception response, or a `ValueError`. -/
inductive ResponseError where
  | modbusException (e : ModbusException)
  | valueError (message : String)
  deriving DecidableEq

/-- `parse_response(buf, expected_slave, expected_count)`. -/
def parse_response (buf : Bytes) (expected_slave expected_count : Int) :
    Except ResponseError ModbusFrame :=
  match buf with
  | slave :: func :: bc :: tail =>
    if buf.length < 5 then .error (.valueError s!"frame too short: {buf.length} bytes")
    else if (slave.toNat : Int) ≠ expected_slave then
      .error (.valueError s!"wrong slave: got 0x{hex_padded 2 slave.toNat}, expected 0x{hex_padded 2 expected_slave}")
    else if func &&& EXCEPTION_BIT ≠ 0 then
      let frame := buf.take 5
      if ¬ crc_matches frame then
        .error (.valueError s!"CRC mismatch on exception: {hex_bytes frame}")
      else .error (.modbusException ⟨slave, func &&& 0x7F, bc⟩)
    else if func ≠ FC_READ_HOLDING then
      .error (.valueError s!"unexpected function: 0x{hex_padded 2 func.toNat}")
    else if (bc.toNat : Int) ≠ 2 * expected_count then
      .error (.valueError s!"byte count {bc.toNat} != 2 * expected_count {2 * expected_count}")
    else
      let expected_len := 5 + bc.toNat
      if buf.length < expected_len then
        .error (.valueError s!"frame too short: {buf.length} < {expected_len}")
      else
        let frame := buf.take expected_len
        if ¬ crc_matches frame then
          .error (.valueError s!"CRC mismatch on response: {hex_bytes frame}")
        else .ok ⟨slave, func, words (tail.take bc.toNat)⟩
  | _ => .error (.valueError s!"frame too short: {buf.length} bytes")

/-- What the strict parser accepts: the whole response stands at the head of `buf`,
from the slave and with the byte count expected, and its CRC matches. -/
theorem parse_response_eq_ok_iff {buf : Bytes} {expected_slave expected_count : Int}
    {frame : ModbusFrame} :
    parse_response buf expected_slave expected_count = .ok frame ↔
      ∃ slave bc tail, buf = slave :: FC_READ_HOLDING :: bc :: tail ∧
        slave.toNat = expected_slave ∧ bc.toNat = 2 * expected_count ∧
        5 + bc.toNat ≤ buf.length ∧ crc_matches (buf.take (5 + bc.toNat)) = true ∧
        frame = ⟨slave, FC_READ_HOLDING, words (tail.take bc.toNat)⟩ := by
  constructor
  · intro h
    unfold parse_response at h
    split at h
    case h_2 => cases h
    case h_1 slave func bc tail =>
      dsimp only at h
      split_ifs at h with hshort hslave hbit hexception hfunc hcount hlen hcrc
      cases h
      obtain rfl := not_not.mp hfunc
      exact ⟨slave, bc, tail, rfl, not_not.mp hslave, not_not.mp hcount, Nat.le_of_not_lt hlen,
        hcrc, rfl⟩
  · rintro ⟨slave, bc, tail, rfl, hslave, hcount, hlen, hcrc, rfl⟩
    have hbit : ¬ FC_READ_HOLDING &&& EXCEPTION_BIT ≠ 0 := by decide
    unfold parse_response
    dsimp only
    rw [if_neg (by omega), if_neg (not_not.mpr hslave), if_neg hbit, if_neg (not_not.mpr rfl),
      if_neg (not_not.mpr hcount), if_neg (by omega), if_neg (not_not.mpr hcrc)]

/-- Register words as they stand on the wire. -/
def word_bytes (regs : List UInt16) : Bytes :=
  regs.flatMap fun (w : UInt16) => ([(w >>> 8).toUInt8, w.toUInt8] : Bytes)

@[simp] theorem word_bytes_length (regs : List UInt16) :
    (word_bytes regs).length = 2 * regs.length := by
  induction regs with
  | nil => rfl
  | cons w regs ih =>
    rw [word_bytes, List.flatMap_cons, ← word_bytes, List.length_append, ih, List.length_cons]
    simp only [List.length_cons, List.length_nil]
    omega

/-- The two bytes of a word put together again. -/
theorem join_split_word (w : UInt16) :
    ((w >>> 8).toUInt8.toUInt16 <<< 8) ||| w.toUInt8.toUInt16 = w := by
  apply UInt16.toNat_inj.mp
  have hw : w.toNat < 65536 := w.toNat_lt
  rw [UInt16.toNat_or, UInt16.toNat_shiftLeft]
  simp only [UInt8.toNat_toUInt16, UInt16.toNat_toUInt8, UInt16.toNat_shiftRight,
    UInt16.reduceToNat, Nat.reduceMod, Nat.shiftRight_eq_div_pow, Nat.shiftLeft_eq, Nat.reducePow]
  have hhi : w.toNat / 256 % 256 * 256 % 65536 = 2 ^ 8 * (w.toNat / 256) := by omega
  rw [hhi, ← Nat.two_pow_add_eq_or_of_lt (by omega)]
  omega

/-- Decoding undoes encoding of register words. -/
@[simp] theorem words_word_bytes (regs : List UInt16) : words (word_bytes regs) = regs := by
  induction regs with
  | nil => rfl
  | cons w regs ih =>
    change ((w >>> 8).toUInt8.toUInt16 <<< 8 ||| w.toUInt8.toUInt16) :: words (word_bytes regs) = _
    rw [join_split_word, ih]

/-- The bytes of a word stand at twice the word's position. -/
theorem drop_word_bytes (regs : List UInt16) (k : Nat) :
    (word_bytes regs).drop (2 * k) = word_bytes (regs.drop k) := by
  induction k generalizing regs with
  | zero => rfl
  | succ k ih =>
    cases regs with
    | nil => simp [word_bytes]
    | cons w regs => exact ih regs

theorem take_word_bytes (regs : List UInt16) (k : Nat) :
    (word_bytes regs).take (2 * k) = word_bytes (regs.take k) := by
  induction k generalizing regs with
  | zero => rfl
  | succ k ih =>
    cases regs with
    | nil => simp [word_bytes]
    | cons w regs =>
      have h := ih regs
      change (w >>> 8).toUInt8 :: w.toUInt8 :: (word_bytes regs).take (2 * k) =
        (w >>> 8).toUInt8 :: w.toUInt8 :: word_bytes (regs.take k)
      rw [h]

/-- A body of `2 * n` bytes has `n` words. -/
theorem words_length {body : Bytes} {n : Nat} (h : body.length = 2 * n) :
    (words body).length = n := by
  induction n generalizing body with
  | zero =>
    rw [List.length_eq_zero_iff.mp h]
    rfl
  | succ n ih =>
    match body with
    | hi :: lo :: rest =>
      simp only [List.length_cons] at h
      rw [words, List.length_cons, ih (by omega)]

/-- A word's value, high byte first. -/
theorem join_bytes_toNat (hi lo : UInt8) :
    ((hi.toUInt16 <<< 8) ||| lo.toUInt16).toNat = 256 * hi.toNat + lo.toNat := by
  have hhi : hi.toNat < 256 := hi.toNat_lt
  have hlo : lo.toNat < 256 := lo.toNat_lt
  rw [UInt16.toNat_or, UInt16.toNat_shiftLeft]
  simp only [UInt8.toNat_toUInt16, UInt16.reduceToNat, Nat.reduceMod, Nat.shiftLeft_eq,
    Nat.reducePow]
  have hshift : hi.toNat * 256 % 65536 = 2 ^ 8 * hi.toNat := by omega
  rw [hshift, ← Nat.two_pow_add_eq_or_of_lt (by omega)]

/-- Word `k` is made of the bytes `2 * k` and `2 * k + 1`. -/
theorem words_getElem? {body : Bytes} {n k : Nat} (h : body.length = 2 * n) (hk : k < n) :
    ∃ hi lo reg, body[2 * k]? = some hi ∧ body[2 * k + 1]? = some lo ∧
      (words body)[k]? = some reg ∧ reg.toNat = 256 * hi.toNat + lo.toNat := by
  induction k generalizing body n with
  | zero =>
    match body with
    | [] => simp only [List.length_nil] at h; omega
    | [_] => simp only [List.length_cons, List.length_nil] at h; omega
    | hi :: lo :: rest => exact ⟨hi, lo, _, rfl, rfl, rfl, join_bytes_toNat hi lo⟩
  | succ k ih =>
    match body with
    | [] => simp only [List.length_nil] at h; omega
    | [_] => simp only [List.length_cons, List.length_nil] at h; omega
    | hi :: lo :: rest =>
      simp only [List.length_cons] at h
      exact @ih rest (n - 1) (by omega) (by omega)

end inverter_bridge.modbus
