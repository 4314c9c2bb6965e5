import InverterBridge.Bms.OctopusProtocol
import InverterBridge.Lib.ShiftRegister

open ShiftRegister
open inverter_bridge.modbus inverter_bridge.bms.octopus_protocol

namespace inverter_bridge.crc

/-- The bits of a byte in wire order, the lowest first. -/
def byte_bits (b : UInt8) : List Bool := (List.range 8).map b.toBitVec.getLsbD

/-- The bits of a byte string in wire order. -/
def wire_bits (data : Bytes) : List Bool := data.flatMap byte_bits

/-- `data` with the bits that are set in `errors` flipped. -/
def flip_bits (data errors : Bytes) : Bytes := List.zipWith (· ^^^ ·) data errors

/-- The set bits of `errors` all lie within 16 consecutive bits of the wire. -/
def Burst (errors : Bytes) : Prop :=
  ∃ start, ∀ i, (wire_bits errors)[i]? = some true → start ≤ i ∧ i < start + 16

/-- How many bits of `errors` are set. -/
def set_bits (errors : Bytes) : Nat := (wire_bits errors).count true

/-- The reflected polynomial of both protocol stacks. -/
def POLYNOMIAL : BitVec 16 := 0xA001#16

theorem POLYNOMIAL_top : POLYNOMIAL.getLsbD (16 - 1) = true := rfl

theorem POLYNOMIAL_odd : parity POLYNOMIAL = 1 := by decide

section bits

@[simp] theorem byte_bits_length (b : UInt8) : (byte_bits b).length = 8 := by simp [byte_bits]

theorem byte_bits_getD (b : UInt8) (i : Nat) :
    (byte_bits b).getD i false = b.toBitVec.getLsbD i := by
  by_cases hi : i < 8
  · simp [byte_bits, List.getD_eq_getElem?_getD, hi]
  · have hend : (byte_bits b).length ≤ i := by
      rw [byte_bits_length]
      omega
    rw [List.getD_eq_getElem?_getD, List.getElem?_eq_none hend,
      BitVec.getLsbD_of_ge _ _ (by omega)]
    rfl

theorem wire_bits_cons (b : UInt8) (data : Bytes) :
    wire_bits (b :: data) = byte_bits b ++ wire_bits data := rfl

theorem wire_bits_append (data rest : Bytes) :
    wire_bits (data ++ rest) = wire_bits data ++ wire_bits rest := List.flatMap_append

@[simp] theorem wire_bits_length (data : Bytes) : (wire_bits data).length = 8 * data.length := by
  induction data with
  | nil => rfl
  | cons b data ih =>
    rw [wire_bits_cons, List.length_append, byte_bits_length, ih, List.length_cons]
    omega

theorem byte_bits_xor (b c : UInt8) :
    byte_bits (b ^^^ c) = List.zipWith (· ^^ ·) (byte_bits b) (byte_bits c) := by
  have hbit : (b ^^^ c).toBitVec.getLsbD = fun i => b.toBitVec.getLsbD i ^^ c.toBitVec.getLsbD i := by
    funext i
    rw [UInt8.toBitVec_xor, BitVec.getLsbD_xor]
  rw [byte_bits, byte_bits, byte_bits, List.zipWith_map, List.zipWith_self, hbit]

/-- Flipping bytes flips bits. -/
theorem wire_bits_flip {data errors : Bytes} (hlen : data.length = errors.length) :
    wire_bits (flip_bits data errors) =
      List.zipWith (· ^^ ·) (wire_bits data) (wire_bits errors) := by
  induction data generalizing errors with
  | nil => rfl
  | cons b data ih =>
    cases errors with
    | nil => cases hlen
    | cons e errors =>
      rw [flip_bits, List.zipWith_cons_cons, wire_bits_cons, byte_bits_xor, wire_bits_cons,
        wire_bits_cons, List.zipWith_append (by simp), ← ih (Nat.succ.inj hlen)]
      rfl

/-- A byte other than zero has a set bit. -/
theorem true_mem_wire_bits {errors : Bytes} (hnonzero : ∃ e ∈ errors, e ≠ 0) :
    true ∈ wire_bits errors := by
  obtain ⟨e, hmem, he⟩ := hnonzero
  rw [wire_bits, List.mem_flatMap]
  refine ⟨e, hmem, ?_⟩
  by_contra hclear
  apply he
  apply UInt8.toBitVec_inj.mp
  apply BitVec.eq_of_getLsbD_eq
  intro i hi
  by_contra hbit
  apply hclear
  rw [byte_bits, List.mem_map]
  exact ⟨i, List.mem_range.mpr hi, by simpa using hbit⟩

end bits

section register

theorem crc_shift_toBitVec (crc : UInt16) :
    (crc_shift crc).toBitVec = shift POLYNOMIAL crc.toBitVec := by
  have hlow : crc &&& 1 ≠ 0 ↔ crc.toBitVec.getLsbD 0 = true := by
    rw [ne_eq, ← UInt16.toBitVec_inj, UInt16.toBitVec_and]
    change ¬ crc.toBitVec &&& 1#16 = 0#16 ↔ _
    rw [BitVec.and_one_eq_setWidth_ofBool_getLsbD]
    cases crc.toBitVec.getLsbD 0 <;> decide
  unfold crc_shift shift
  by_cases hbit : crc.toBitVec.getLsbD 0 = true
  · rw [if_pos (hlow.mpr hbit), if_pos hbit]
    rfl
  · rw [if_neg (mt hlow.mp hbit), if_neg hbit]
    rfl

theorem word_byte_bits (b : UInt8) : word 16 (byte_bits b) = b.toUInt16.toBitVec := by
  apply BitVec.eq_of_getLsbD_eq
  intro i hi
  rw [getLsbD_word, byte_bits_getD, UInt8.toBitVec_toUInt16, BitVec.getLsbD_setWidth]

/-- Eight shifts after a byte is mixed in feed the byte's bits one after another. -/
theorem crc_byte_toBitVec (crc : UInt16) (b : UInt8) :
    (crc_byte crc b).toBitVec = remainder POLYNOMIAL crc.toBitVec (byte_bits b) := by
  rw [remainder_eq_iterate _ (by simp), byte_bits_length, word_byte_bits, ← UInt16.toBitVec_xor]
  exact Function.Semiconj.iterate_right crc_shift_toBitVec 8 _

theorem foldl_crc_byte_toBitVec (data : Bytes) (crc : UInt16) :
    (data.foldl crc_byte crc).toBitVec = remainder POLYNOMIAL crc.toBitVec (wire_bits data) := by
  induction data generalizing crc with
  | nil => rfl
  | cons b data ih =>
    rw [List.foldl_cons, ih, crc_byte_toBitVec, wire_bits_cons, remainder_append]

theorem crc_register_toBitVec (data : Bytes) :
    (crc_register data).toBitVec =
      remainder POLYNOMIAL (0xFFFF : UInt16).toBitVec (wire_bits data) :=
  foldl_crc_byte_toBitVec data 0xFFFF

/-- Two bytes on the wire are one word for the register, the first byte low. -/
theorem word_wire_bits (lo hi : UInt8) :
    word 16 (wire_bits [lo, hi]) = (unpack_le [lo, hi]).toBitVec := by
  apply BitVec.eq_of_getLsbD_eq
  intro i hi16
  rw [getLsbD_word, wire_bits_cons, wire_bits_cons, unpack_le, UInt16.toBitVec_or,
    BitVec.getLsbD_or, UInt16.toBitVec_shiftLeft, UInt8.toBitVec_toUInt16, UInt8.toBitVec_toUInt16]
  by_cases hlow : i < 8
  · rw [List.getD_eq_getElem?_getD, List.getElem?_append_left (by simpa using hlow),
      ← List.getD_eq_getElem?_getD, byte_bits_getD]
    simp [hi16, hlow]
  · have hout : lo.toBitVec.getLsbD i = false := BitVec.getLsbD_of_ge _ _ (by omega)
    have hend : wire_bits [] = [] := rfl
    rw [List.getD_eq_getElem?_getD, List.getElem?_append_right (by simp; omega),
      ← List.getD_eq_getElem?_getD, hend, List.append_nil, byte_bits_length, byte_bits_getD]
    simp [hi16, hlow, hout]

/-- What the appended CRC is compared by. -/
theorem crc16_eq_iff {data : Bytes} {lo hi : UInt8} :
    crc16 data = [lo, hi] ↔ crc_register data = unpack_le [lo, hi] := by
  rw [unpack_le, UInt16.or_comm]
  constructor
  · intro h
    simp only [crc16, List.cons.injEq, and_true] at h
    rw [← h.1, ← h.2, join_split_word]
  · intro h
    have hlo : lo.toNat < 256 := lo.toNat_lt
    have hhi : hi.toNat < 256 := hi.toNat_lt
    have hvalue : (crc_register data).toNat = 256 * hi.toNat + lo.toNat := by
      rw [h, join_bytes_toNat]
    have hfirst : (crc_register data).toUInt8 = lo := by
      apply UInt8.toNat_inj.mp
      rw [UInt16.toNat_toUInt8, hvalue]
      omega
    have hsecond : (crc_register data >>> 8).toUInt8 = hi := by
      apply UInt8.toNat_inj.mp
      rw [UInt16.toNat_toUInt8, UInt16.toNat_shiftRight, hvalue, Nat.shiftRight_eq_div_pow]
      change (256 * hi.toNat + lo.toNat) / 256 % 256 = hi.toNat
      omega
    rw [crc16, hfirst, hsecond]

/-- A frame passes the check exactly when the register is clear after all of it. -/
theorem crc_matches_iff {frame : Bytes} (hlen : 2 ≤ frame.length) :
    crc_matches frame = true ↔
      remainder POLYNOMIAL (0xFFFF : UInt16).toBitVec (wire_bits frame) = 0#16 := by
  obtain ⟨lo, hi, hlast⟩ : ∃ lo hi, frame.drop (frame.length - 2) = [lo, hi] := by
    apply List.length_eq_two.mp
    rw [List.length_drop]
    omega
  have hregister : remainder POLYNOMIAL (0xFFFF : UInt16).toBitVec (wire_bits frame) =
      (shift POLYNOMIAL)^[16] ((crc_register (frame.take (frame.length - 2))).toBitVec ^^^
        (unpack_le [lo, hi]).toBitVec) := by
    conv_lhs => rw [← List.take_append_drop (frame.length - 2) frame]
    rw [hlast, wire_bits_append, remainder_append, ← crc_register_toBitVec,
      @remainder_eq_iterate _ _ (wire_bits [lo, hi]) (by simp), word_wire_bits, wire_bits_length]
    rfl
  rw [crc_matches, hlast, beq_iff_eq, crc16_eq_iff, hregister]
  constructor
  · intro h
    rw [h, BitVec.xor_self, iterate_shift_zero]
  · intro hzero
    apply UInt16.toBitVec_inj.mp
    exact BitVec.xor_eq_zero_iff.mp (iterate_shift_eq_zero POLYNOMIAL_top hzero)

/-- The other stack's check is the same one, on frames of at least four bytes. -/
theorem verify_crc_iff {frame : Bytes} :
    verify_crc frame = true ↔ 4 ≤ frame.length ∧ crc_matches frame = true := by
  unfold verify_crc
  by_cases hshort : frame.length < 4
  · rw [if_pos hshort]
    constructor
    · intro h
      cases h
    · intro h
      omega
  · obtain ⟨lo, hi, hlast⟩ : ∃ lo hi, frame.drop (frame.length - 2) = [lo, hi] := by
      apply List.length_eq_two.mp
      rw [List.length_drop]
      omega
    rw [if_neg hshort, hlast, beq_iff_eq, crc_matches, hlast, beq_iff_eq, crc16_eq_iff]
    exact ⟨fun h => ⟨by omega, h⟩, And.right⟩

/-- A frame whose errors leave a trace in the register fails the check. -/
theorem crc_matches_flip_bits {frame errors : Bytes} (hlen : 2 ≤ frame.length)
    (hsame : frame.length = errors.length) (hvalid : crc_matches frame = true)
    (htrace : remainder POLYNOMIAL 0#16 (wire_bits errors) ≠ 0#16) :
    crc_matches (flip_bits frame errors) = false := by
  have hflip : 2 ≤ (flip_bits frame errors).length := by
    rw [flip_bits, List.length_zipWith]
    omega
  have hclear := (crc_matches_iff hlen).mp hvalid
  have hbits : (wire_bits frame).length = (wire_bits errors).length := by simp [hsame]
  have hsplit := remainder_xor POLYNOMIAL hbits (0xFFFF : UInt16).toBitVec 0#16
  rw [BitVec.xor_zero, hclear, BitVec.zero_xor, ← wire_bits_flip hsame] at hsplit
  rw [Bool.eq_false_iff, ne_eq, crc_matches_iff hflip, hsplit]
  exact htrace

/-- Once the low byte of its CRC follows some data, the register holds the high byte alone. -/
theorem crc_register_append_low (data : Bytes) :
    crc_register (data ++ [(crc_register data).toUInt8]) =
      (crc_register data >>> 8).toUInt8.toUInt16 := by
  have hsplit : data ++ crc16 data =
      (data ++ [(crc_register data).toUInt8]) ++ [(crc_register data >>> 8).toUInt8] := by
    rw [List.append_assoc]
    rfl
  have hclear := (crc_matches_iff (by simp)).mp (crc_matches_append data)
  rw [hsplit, wire_bits_append, remainder_append, ← crc_register_toBitVec, wire_bits_cons,
    show wire_bits [] = [] from rfl, List.append_nil, remainder_eq_iterate _ (by simp),
    word_byte_bits] at hclear
  apply UInt16.toBitVec_inj.mp
  exact BitVec.xor_eq_zero_iff.mp (iterate_shift_eq_zero POLYNOMIAL_top hclear)

end register

/-- The CRC detects every burst of errors within 16 consecutive bits and every odd
number of errors, in frames of any length; a frame without errors passes. -/
theorem crc_detects_errors (data : Bytes) :
    crc_matches (data ++ crc16 data) = true ∧
    (4 ≤ (data ++ crc16 data).length → verify_crc (data ++ crc16 data) = true) ∧
    ∀ errors : Bytes, errors.length = (data ++ crc16 data).length → (∃ e ∈ errors, e ≠ 0) →
      Burst errors ∨ Odd (set_bits errors) →
      crc_matches (flip_bits (data ++ crc16 data) errors) = false ∧
        verify_crc (flip_bits (data ++ crc16 data) errors) = false := by
  have hvalid := crc_matches_append data
  refine ⟨hvalid, fun hlen => verify_crc_iff.mpr ⟨hlen, hvalid⟩, ?_⟩
  intro errors hsame hnonzero hpattern
  have htrace : remainder POLYNOMIAL 0#16 (wire_bits errors) ≠ 0#16 := by
    obtain ⟨start, hburst⟩ | hodd := hpattern
    · exact remainder_burst_ne_zero POLYNOMIAL_top (true_mem_wire_bits hnonzero) hburst
    · exact remainder_odd_ne_zero (by omega) POLYNOMIAL_odd hodd
  have hlen : 2 ≤ (data ++ crc16 data).length := by
    rw [List.length_append, crc16_length]
    omega
  have hfails := crc_matches_flip_bits hlen hsame.symm hvalid htrace
  refine ⟨hfails, ?_⟩
  rw [Bool.eq_false_iff, ne_eq, verify_crc_iff, hfails]
  exact fun h => Bool.noConfusion h.2

/-- One flipped bit in the CRC of a response is noticed. -/
theorem crc_detects_errors_one_bit :
    crc_matches (flip_bits ([0x01, 0x03] ++ crc16 [0x01, 0x03]) [0, 0, 0, 0x10]) = false ∧
      verify_crc (flip_bits ([0x01, 0x03] ++ crc16 [0x01, 0x03]) [0, 0, 0, 0x10]) = false := by
  have hlen : ([0, 0, 0, 0x10] : Bytes).length = ([0x01, 0x03] ++ crc16 [0x01, 0x03]).length := by
    rw [List.length_append, crc16_length]
    rfl
  have hodd : Odd (set_bits [0, 0, 0, 0x10]) := by decide +kernel
  obtain ⟨-, -, hdetects⟩ := crc_detects_errors [0x01, 0x03]
  exact hdetects [0, 0, 0, 0x10] hlen ⟨0x10, by simp, by decide⟩ (.inr hodd)

end inverter_bridge.crc
