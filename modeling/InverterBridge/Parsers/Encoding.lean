import InverterBridge.Parsers

/-! The register a reading was decoded from. -/

open Python
open inverter_bridge.srne_map

namespace inverter_bridge.parsers

/-- The register that a reading of the field stands for. -/
def register_of (f : Field) (x : ℚ) : UInt16 := UInt16.ofInt (x / f.scale).num

theorem scale_decimals {f : Field} (hf : f ∈ FIELDS) : f.scale ≠ 0 ∧ Decimals 4 f.scale := by
  have hall : ∀ f ∈ FIELDS, f.scale ≠ 0 ∧ (f.scale * 10 ^ 4).den = 1 := by decide +kernel
  obtain ⟨hne, hden⟩ := hall f hf
  exact ⟨hne, (f.scale * 10 ^ 4).num, ((Rat.den_eq_one_iff _).mp hden).symm⟩

/-- The number in a register word. -/
def word_value (f : Field) (raw : UInt16) : Int := if f.signed then s16 raw else raw.toNat

theorem ofInt_word_value (f : Field) (raw : UInt16) : UInt16.ofInt (word_value f raw) = raw := by
  have hraw : raw.toNat < 65536 := raw.toNat_lt
  unfold word_value
  split_ifs
  · exact ofInt_s16 raw
  · have hmod : ((raw.toNat : Int) % 2 ^ 16).toNat = raw.toNat := by omega
    rw [UInt16.ofInt, hmod, UInt16.ofNat_toNat]

/-- The rounding of `parse_block` does nothing to a reading. -/
theorem field_value_exact {f : Field} (hf : f ∈ FIELDS) (raw : UInt16) :
    field_value f raw = word_value f raw * f.scale :=
  ((scale_decimals hf).2.intCast_mul _).py_round_eq

/-- A reading determines the register it was decoded from. -/
theorem register_of_field_value {f : Field} (hf : f ∈ FIELDS) (raw : UInt16) :
    register_of f (field_value f raw) = raw := by
  rw [register_of, field_value_exact hf, mul_div_assoc, div_self (scale_decimals hf).1, mul_one,
    Rat.num_intCast, ofInt_word_value]

/-- Every reading of a block of its size is decoded from a register of it. -/
theorem exists_register_of_field {block : Block} (hblock : block ∈ BLOCKS) {regs : List UInt16}
    (hcount : regs.length = block.count) {f : Field} (hf : f ∈ fields_for block.addr) :
    ∃ raw, regs[f.offset]? = some raw ∧
      (decoded_fields block regs).lookup f.key = some (field_value f raw) := by
  have hoffset : f.offset < regs.length := hcount ▸ field_offset_lt hblock hf
  have hraw : regs.getD f.offset 0 = regs[f.offset] := by simp [hoffset]
  refine ⟨regs[f.offset], List.getElem?_eq_getElem hoffset, ?_⟩
  rw [lookup_decoded_fields hblock hf, hraw]

end inverter_bridge.parsers
