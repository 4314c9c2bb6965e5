import InverterBridge.SerialIo.Bus
import InverterBridge.SerialIo.Query
import InverterBridge.SerialIo.Windows

/-! What a query answers stands in the bytes it has received. -/

open inverter_bridge.crc inverter_bridge.modbus

namespace inverter_bridge.serial_io

/-- A complete response of the slave with these registers stands in the bytes. -/
def Received (bytes : Bytes) (slave : SlaveId) (regs : Registers) : Prop :=
  (BusFrame.response slave regs).encode <:+: bytes

/-- The two bytes a word is made of. -/
theorem split_join_bytes (hi lo : UInt8) :
    (((hi.toUInt16 <<< 8) ||| lo.toUInt16) >>> 8).toUInt8 = hi ∧
      ((hi.toUInt16 <<< 8) ||| lo.toUInt16).toUInt8 = lo := by
  have hvalue := join_bytes_toNat hi lo
  have hhi : hi.toNat < 256 := hi.toNat_lt
  have hlo : lo.toNat < 256 := lo.toNat_lt
  constructor <;> apply UInt8.toNat_inj.mp
  · simp only [UInt16.toNat_toUInt8, UInt16.toNat_shiftRight, hvalue, UInt16.reduceToNat,
      Nat.reduceMod, Nat.shiftRight_eq_div_pow, Nat.reducePow]
    omega
  · rw [UInt16.toNat_toUInt8, hvalue]
    omega

/-- Encoding undoes decoding of register words. -/
theorem word_bytes_words {body : Bytes} {n : Nat} (h : body.length = 2 * n) :
    word_bytes (words body) = body := by
  induction n generalizing body with
  | zero =>
    rw [List.length_eq_zero_iff.mp h]
    rfl
  | succ n ih =>
    match body with
    | hi :: lo :: rest =>
      obtain ⟨hhi, hlo⟩ := split_join_bytes hi lo
      rw [List.length_cons, List.length_cons] at h
      rw [words, word_bytes, List.flatMap_cons, hhi, hlo, ← word_bytes, ih (by omega)]
      rfl

/-- A frame whose CRC matches is its body with the CRC of the body. -/
theorem eq_append_crc16_of_crc_matches {frame body tail : Bytes} (hframe : frame = body ++ tail)
    (htail : tail.length = 2) (h : crc_matches frame = true) : frame = body ++ crc16 body := by
  have hlength : frame.length - 2 = body.length := by
    rw [hframe, List.length_append, htail, Nat.add_sub_cancel]
  rw [crc_matches, hlength, hframe, List.take_left, List.drop_left, beq_iff_eq] at h
  rw [hframe, h]

/-- The data bytes a response can carry are those of some registers. -/
theorem exists_registers {bc : UInt8} {data : Bytes} (hbc : 2 ≤ bc ∧ bc ≤ 250 ∧ bc % 2 = 0)
    (hdata : data.length = bc.toNat) :
    ∃ regs : Registers, regs.val = words data ∧ ∀ slave : SlaveId,
      (BusFrame.response slave regs).body = slave.val :: FC_READ_HOLDING :: bc :: data := by
  obtain ⟨hlo, hhi, heven⟩ := hbc
  have hmod : bc.toNat % 2 = 0 := congrArg UInt8.toNat heven
  have hmin : 2 ≤ bc.toNat := hlo
  have hmax : bc.toNat ≤ 250 := hhi
  have htwice : data.length = 2 * (bc.toNat / 2) := by omega
  have hcount := words_length htwice
  have hbytes : (2 * (words data).length).toUInt8 = bc := by
    apply UInt8.toNat_inj.mp
    rw [byte_count_toNat ⟨words data, by omega⟩, hcount]
    omega
  refine ⟨⟨words data, by omega⟩, rfl, fun slave => ?_⟩
  rw [BusFrame.body, hbytes, word_bytes_words htwice]

/-- A response window is the encoding of the response that is read there. -/
theorem received_of_window {stream : Bytes} {p : Nat} {bc : UInt8}
    (h : Window stream p (.response bc)) :
    ∃ slave regs, Received stream slave regs ∧
      frame_at_head (stream.drop p) bc = ⟨slave.val, FC_READ_HOLDING, regs.val⟩ := by
  obtain ⟨hwithin, ⟨slave, hslave, hrange⟩, ⟨_, hfunc, rfl, hbc, hlo, hhi, heven⟩, hcrc⟩ := h
  simp only [Kind.size] at hwithin hcrc
  have hdrop := drop_of_header hslave hfunc hbc
  have hdata : ((stream.drop (p + 3)).take bc.toNat).length = bc.toNat := by
    simp only [List.length_take, List.length_drop]
    omega
  obtain ⟨regs, hregs, hbodies⟩ := exists_registers ⟨hlo, hhi, heven⟩ hdata
  have hbody := hbodies ⟨slave, hrange⟩
  have hslice : slice stream p (5 + bc.toNat) =
      (BusFrame.response ⟨slave, hrange⟩ regs).body ++
        ((stream.drop (p + 3)).drop bc.toNat).take 2 := by
    rw [slice, hdrop, hbody, show 5 + bc.toNat = bc.toNat + 2 + 1 + 1 + 1 by omega]
    simp only [List.take_succ_cons, List.cons_append, List.take_add]
  refine ⟨⟨slave, hrange⟩, regs, ⟨stream.take p, stream.drop (p + (5 + bc.toNat)), ?_⟩, ?_⟩
  · have hencode := eq_append_crc16_of_crc_matches hslice (by simp; omega) hcrc
    rw [BusFrame.encode, ← hencode, slice, List.append_assoc, ← List.drop_drop,
      List.take_append_drop, List.take_append_drop]
  · rw [frame_at_head, hdrop, hregs]
    rfl

/-- What is selected for a query stands in the bytes. -/
theorem received_of_select_response {stream : Bytes} {slave : SlaveId} {addr : UInt16}
    {count : Nat} {f : ModbusFrame} (h : select_response stream slave addr count = some f) :
    ∃ regs, Received stream slave regs ∧ regs.val.length = count ∧
      f = ⟨slave.val, FC_READ_HOLDING, regs.val⟩ := by
  obtain ⟨⟨p, hp, rfl⟩, hslave, hcount⟩ := match_tiers_spec h
  have hmem : p.1 ∈ (parse_frame_stream_loop stream).1 := by
    rw [← (responses_with_context_loop_frames none none stream).1]
    exact List.mem_map_of_mem hp
  have hheads := @parse_frame_stream_loop_heads stream stream 0 rfl
  obtain ⟨i, hi, hget⟩ := List.getElem_of_mem hmem
  obtain ⟨hwindow, hframe⟩ := hheads.get (hheads.length_eq ▸ hi) hi
  obtain ⟨slave', regs, hreceived, hregs⟩ := received_of_window hwindow
  have hp_eq : p.1 = ⟨slave'.val, FC_READ_HOLDING, regs.val⟩ :=
    hget.symm.trans (hframe.trans hregs)
  rw [hp_eq] at hslave hcount ⊢
  obtain rfl : slave' = slave := Subtype.ext hslave
  exact ⟨regs, hreceived, hcount, rfl⟩

/-- What a read loop answers stands in the bytes of its buffer and its chunks. -/
theorem received_of_query_loop {sent : Bytes} {slave : SlaveId} {addr : UInt16} {count : Nat}
    {buf : Bytes} {crc_errors : Nat} {chunks : List Bytes} {f : ModbusFrame}
    (h : (query_loop sent slave addr count buf crc_errors chunks).outcome = .frame f) :
    ∃ regs, Received (buf ++ chunks.flatten) slave regs ∧ regs.val.length = count ∧
      f = ⟨slave.val, FC_READ_HOLDING, regs.val⟩ := by
  induction chunks generalizing buf crc_errors with
  | nil =>
    rw [query_loop] at h
    split at h <;> cases h
  | cons chunk chunks ih =>
    rw [query_loop] at h
    rw [List.flatten_cons, ← List.append_assoc]
    by_cases hchunk : chunk = []
    · rw [if_pos hchunk] at h
      rw [hchunk, List.append_nil]
      exact ih h
    · rw [if_neg hchunk] at h
      dsimp only at h
      cases hselect : select_response (buf ++ chunk) slave addr count with
      | some frame =>
        rw [hselect] at h
        cases h
        obtain ⟨regs, hreceived, hframe⟩ := received_of_select_response hselect
        exact ⟨regs, hreceived.trans (List.prefix_append _ _).isInfix, hframe⟩
      | none =>
        rw [hselect] at h
        dsimp only at h
        split at h
        · cases h
        · exact ih h

/-- What a query answers stands in the bytes it has received. -/
theorem received_of_query {slave : SlaveId} {addr : UInt16} {count : Nat} {chunks : List Bytes}
    {f : ModbusFrame} (h : (query slave addr count chunks).outcome = .frame f) :
    ∃ regs, Received chunks.flatten slave regs ∧ regs.val.length = count ∧
      f = ⟨slave.val, FC_READ_HOLDING, regs.val⟩ := by
  unfold query at h
  split at h
  · cases h
  · exact received_of_query_loop h

end inverter_bridge.serial_io
