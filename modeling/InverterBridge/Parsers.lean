import InverterBridge.SrneMap
import InverterBridge.Modbus
import InverterBridge.Lib.Dict
import InverterBridge.Lib.Python
import Mathlib.Data.Nat.Bitwise

open Python
open inverter_bridge.modbus inverter_bridge.srne_map

namespace inverter_bridge.parsers

/-- A decoded block. Readings are exact rationals where the code has floats. -/
structure ParsedBlock where
  block_addr : UInt16
  block_name : String
  slave : UInt8
  regs_raw : List UInt16
  fields : Dict String ℚ

/-- `_s16(v)`: a register word as two's complement. -/
def s16 (v : UInt16) : Int := if v &&& 0x8000 ≠ 0 then v.toNat - 0x10000 else v.toNat

/-- `s16` is the two's complement reading of the word. -/
theorem s16_eq_toInt (v : UInt16) : s16 v = v.toBitVec.toInt := by
  have hv : v.toNat < 65536 := v.toNat_lt
  have hbit : v &&& 0x8000 ≠ 0 ↔ v.toBitVec.msb = true := by
    have hand : (v &&& 0x8000).toNat = (v.toNat.testBit 15).toNat * 2 ^ 15 := by
      rw [UInt16.toNat_and]
      exact Nat.and_two_pow v.toNat 15
    rw [ne_eq, ← UInt16.toNat_inj, hand, BitVec.msb_eq_getLsbD_last, BitVec.getLsbD,
      UInt16.toNat_toBitVec]
    cases v.toNat.testBit 15 <;> decide
  rw [s16, BitVec.toInt_eq_msb_cond]
  by_cases hmsb : v.toBitVec.msb = true
  · rw [if_pos (hbit.mpr hmsb), if_pos hmsb]
    rfl
  · rw [if_neg (mt hbit.mp hmsb), if_neg hmsb]
    rfl

/-- A word is the low 16 bits of its two's complement reading. -/
theorem ofInt_s16 (v : UInt16) : UInt16.ofInt (s16 v) = v := by
  have hv : v.toNat < 65536 := v.toNat_lt
  have : s16 v % 2 ^ 16 = v.toNat := by
    unfold s16
    split <;> omega
  rw [UInt16.ofInt, this]
  simp

/-- The reading a register word is decoded into. -/
def field_value (f : Field) (raw : UInt16) : ℚ :=
  let val : Int := if f.signed then s16 raw else raw.toNat
  py_round (val * f.scale) 4

/-- The assignment loop of `parse_block`. -/
def parse_fields (regs : List UInt16) (fields_out : Dict String ℚ) :
    List Field → Except PyError (Dict String ℚ)
  | [] => .ok fields_out
  | f :: fields =>
    match regs[f.offset]? with
    | none => .error (.IndexError "list index out of range")
    | some raw => parse_fields regs (fields_out.insert f.key (field_value f raw)) fields

/-- `parse_block(block_addr, frame)`. -/
def parse_block (block_addr : UInt16) (frame : ModbusFrame) : Except PyError ParsedBlock :=
  match BLOCKS.find? fun b => b.addr == block_addr with
  | none => .error (.ValueError s!"unknown block 0x{hex_padded 4 block_addr.toNat}")
  | some block =>
    if frame.regs.length ≠ block.count then
      .error (.ValueError
        s!"block 0x{hex_padded 4 block_addr.toNat} expects {block.count} regs, got {frame.regs.length}")
    else
      match parse_fields frame.regs ∅ (fields_for block_addr) with
      | .error e => .error e
      | .ok fields => .ok ⟨block_addr, block.name, frame.slave, frame.regs, fields⟩

/-- What `parse_block` makes of the registers of a block. -/
def decoded_fields (block : Block) (regs : List UInt16) : Dict String ℚ :=
  Dict.assign ∅ ((fields_for block.addr).map fun f => (f.key, field_value f (regs.getD f.offset 0)))

theorem parse_fields_eq {regs : List UInt16} {fields : List Field} (fields_out : Dict String ℚ)
    (hoffset : ∀ f ∈ fields, f.offset < regs.length) :
    parse_fields regs fields_out fields =
      .ok (fields_out.assign (fields.map fun f => (f.key, field_value f (regs.getD f.offset 0)))) := by
  induction fields generalizing fields_out with
  | nil => rfl
  | cons f fields ih =>
    have hf : f.offset < regs.length := hoffset f (by simp)
    have hget : regs.getD f.offset 0 = regs[f.offset] := by simp [hf]
    rw [parse_fields, List.getElem?_eq_getElem hf]
    change parse_fields regs _ fields = _
    rw [ih _ fun g hg => hoffset g (by simp [hg]), List.map_cons, Dict.assign_cons, hget]

/-- A frame of the block's size is always decoded. -/
theorem parse_block_ok {block : Block} (hblock : block ∈ BLOCKS) {frame : ModbusFrame}
    (hcount : frame.regs.length = block.count) :
    parse_block block.addr frame = .ok ⟨block.addr, block.name, frame.slave, frame.regs,
      decoded_fields block frame.regs⟩ := by
  have hoffset : ∀ f ∈ fields_for block.addr, f.offset < frame.regs.length :=
    fun f hf => hcount ▸ field_offset_lt hblock hf
  simp only [parse_block, find?_block_addr hblock, hcount, ne_eq, not_true_eq_false, if_false,
    parse_fields_eq ∅ hoffset, decoded_fields]

/-- `parse_block` succeeds only on a frame of the block's size. -/
theorem parse_block_eq_ok_iff {block : Block} (hblock : block ∈ BLOCKS) {frame : ModbusFrame}
    {parsed : ParsedBlock} :
    parse_block block.addr frame = .ok parsed ↔
      frame.regs.length = block.count ∧ parsed = ⟨block.addr, block.name, frame.slave, frame.regs,
        decoded_fields block frame.regs⟩ := by
  by_cases hcount : frame.regs.length = block.count
  · rw [parse_block_ok hblock hcount]
    simp [hcount, eq_comm]
  · simp [parse_block, find?_block_addr hblock, hcount]

/-- Every field of the block is present in what it is decoded into. -/
theorem lookup_decoded_fields {block : Block} (hblock : block ∈ BLOCKS) {f : Field}
    (hf : f ∈ fields_for block.addr) (regs : List UInt16) :
    (decoded_fields block regs).lookup f.key = some (field_value f (regs.getD f.offset 0)) := by
  apply Dict.lookup_assign_of_mem
  · rw [List.map_map]
    exact field_keys_nodup hblock
  · exact List.mem_map.mpr ⟨f, hf, rfl⟩

/-- A block as the poll loop stores it: the decoding of some frame under the
block's own name. -/
def Decoded (name : String) (parsed : ParsedBlock) : Prop :=
  ∃ block ∈ BLOCKS, block.name = name ∧ ∃ frame, parse_block block.addr frame = .ok parsed

/-- The fields of a decoded block are those of its registers. -/
theorem Decoded.exists_block {name : String} {parsed : ParsedBlock} (h : Decoded name parsed) :
    ∃ block ∈ BLOCKS, block.name = name ∧ parsed.regs_raw.length = block.count ∧
      parsed.fields = decoded_fields block parsed.regs_raw := by
  obtain ⟨block, hblock, hname, frame, hparse⟩ := h
  obtain ⟨hcount, rfl⟩ := (parse_block_eq_ok_iff hblock).mp hparse
  exact ⟨block, hblock, hname, hcount, rfl⟩

/-- A reading of a decoded block is what a field of the register map makes of a register. -/
theorem Decoded.exists_field {name k : String} {b : ParsedBlock} (hdecoded : Decoded name b) {x : ℚ}
    (hx : b.fields.lookup k = some x) :
    ∃ block ∈ BLOCKS, block.name = name ∧ ∃ f ∈ fields_for block.addr, f.key = k ∧
      x = field_value f (b.regs_raw.getD f.offset 0) := by
  obtain ⟨block, hblock, hname, -, hfields⟩ := hdecoded.exists_block
  rw [hfields, decoded_fields] at hx
  cases Dict.lookup_or_mem_of_lookup_assign hx with
  | inl hempty => cases hempty
  | inr hmem =>
    obtain ⟨f, hf, heq⟩ := List.mem_map.mp hmem
    cases heq
    exact ⟨block, hblock, hname, f, hf, rfl, rfl⟩

/-- The register map decodes a field `k` in the block called `name`. -/
def FieldOf (name k : String) : Prop :=
  ∀ block ∈ BLOCKS, block.name = name → k ∈ (fields_for block.addr).map Field.key

instance (name k : String) : Decidable (FieldOf name k) :=
  inferInstanceAs (Decidable (∀ block ∈ BLOCKS, block.name = name →
    k ∈ (fields_for block.addr).map Field.key))

/-- A decoded block has all the fields of its name. -/
theorem Decoded.exists_lookup {name k : String} {b : ParsedBlock} (hdecoded : Decoded name b)
    (hfield : FieldOf name k) : ∃ x, b.fields.lookup k = some x := by
  obtain ⟨block, hblock, hname, -, hfields⟩ := hdecoded.exists_block
  obtain ⟨f, hf, rfl⟩ := List.mem_map.mp (hfield block hblock hname)
  exact ⟨_, by rw [hfields]; exact lookup_decoded_fields hblock hf b.regs_raw⟩

end inverter_bridge.parsers
