import InverterBridge.Daemon.OnTheWire
import InverterBridge.Parsers.Encoding
import InverterBridge.SerialIo.Chunks

/-! What an inverter answers on a quiet bus arrives, register by register. -/

open Python TransitionSystem GrowingBuffer
open inverter_bridge.crc inverter_bridge.modbus inverter_bridge.parsers inverter_bridge.srne_map
open inverter_bridge.serial_io inverter_bridge.aggregator

namespace inverter_bridge.daemon

section

variable {slave : SlaveId} {regs : Registers}

/-- A response alone is selected for a query of its size, whatever the address. -/
theorem select_response_alone (addr : UInt16) :
    select_response (BusFrame.response slave regs).encode slave addr regs.val.length =
      some ⟨slave.val, FC_READ_HOLDING, regs.val⟩ := by
  have hclear : RequestsUnambiguous [.response slave regs] :=
    (requests_unambiguous_iff _).mp rfl
  have hfound := responses_with_context_encode_all hclear
  rw [encode_all_cons, encode_all_nil, List.append_nil] at hfound
  rw [select_response, hfound]
  simp [match_tiers, paired, context_of, last_read]

/-- No proper prefix of a response answers a query of its size, unless it holds what passes for an
exception. -/
theorem answer_eq_none_within {addr : UInt16} {first : Bytes}
    (hpre : first <+: (BusFrame.response slave regs).encode)
    (hproper : first ≠ (BusFrame.response slave regs).encode)
    (hclear : ¬ ExceptionWindow slave (BusFrame.response slave regs).encode) :
    answer slave addr regs.val.length first = none := by
  rw [answer_eq_none_iff]
  constructor
  · cases hselect : select_response first slave addr regs.val.length with
    | none => rfl
    | some f =>
      obtain ⟨regs', hreceived, hcount, -⟩ := received_of_select_response hselect
      have hle := hreceived.length_le
      have hlt := hpre.length_le.lt_of_ne fun heq => hproper (hpre.eq_of_length heq)
      rw [encode_response_length, byte_count_toNat] at hle hlt
      omega
  · rw [← Option.not_isSome_iff_eq_none, find_exception_isSome_iff]
    rintro ⟨before, code, after, rfl⟩
    obtain ⟨tail, htail⟩ := hpre
    exact hclear ⟨before, code, after ++ tail, by simpa only [List.append_assoc] using htail.symm⟩

/-- However a response is cut into reads, a query of its size ends with it. -/
theorem query_alone (addr : UInt16) {chunks : List Bytes}
    (hchunks : Chunking (BusFrame.response slave regs).encode chunks)
    (hclear : ¬ ExceptionWindow slave (BusFrame.response slave regs).encode) :
    (query slave addr regs.val.length chunks).outcome =
      .frame ⟨slave.val, FC_READ_HOLDING, regs.val⟩ := by
  have hne : (BusFrame.response slave regs).encode ≠ [] := List.cons_ne_nil _ _
  have hwhole : answer slave addr regs.val.length (BusFrame.response slave regs).encode =
      some (.inl ⟨slave.val, FC_READ_HOLDING, regs.val⟩) := by
    rw [answer, select_response_alone]
    rfl
  have hprefixes : ∀ first, first ≠ [] → first <+: (BusFrame.response slave regs).encode →
      first ≠ (BusFrame.response slave regs).encode →
      answer slave addr regs.val.length first = none ∨ answer slave addr regs.val.length first =
        answer slave addr regs.val.length (BusFrame.response slave regs).encode :=
    fun first _ hpre hproper => .inl (answer_eq_none_within hpre hproper hclear)
  have hresult := (result_chunk_independent_iff hne).mpr hprefixes chunks hchunks
  rw [query_eq regs.property hchunks.nonempty, hresult]
  simp [result, looks, hwhole, outcome_of]

end

/-- The attempts for a block time out until one of them reads, cut in some way, the response with
these registers and nothing else. -/
def CleanAnswer (slave : SlaveId) (retry_attempts : Int) (block : Block) (session : Nat → Session)
    (regs : Registers) : Prop :=
  regs.val.length = block.count ∧ ¬ ExceptionWindow slave (BusFrame.response slave regs).encode ∧
    ∃ k chunks, k < retry_attempts.toNat ∧
      (∀ j < k, port_query slave block (session j) = .timeoutError) ∧ session k = .read chunks ∧
      Chunking (BusFrame.response slave regs).encode chunks

theorem settles_of_cleanAnswer {slave : SlaveId} {retry_attempts : Int} {block : Block}
    {session : Nat → Session} {regs : Registers}
    (h : CleanAnswer slave retry_attempts block session regs) :
    Settles (fun k => port_query slave block (session k)) retry_attempts.toNat
      (.frame ⟨slave.val, FC_READ_HOLDING, regs.val⟩) := by
  obtain ⟨hcount, hclear, k, chunks, hk, htimeouts, hread, hchunks⟩ := h
  refine ⟨nofun, k, hk, htimeouts, ?_⟩
  have hquery := query_alone block.addr hchunks hclear
  rw [hcount] at hquery
  simp only [hread, port_query, hquery]

variable {κ δ : Type} [DecidableEq κ] {d : Daemon κ δ} {s : State κ}

/-- What was read of a clean answer is in the slot of the inverter. -/
theorem slot_of_cleanAnswer (hnames : DistinctNames d) {acts : List Action}
    (hrun : run (step d) init acts = some s) {n : Nat} {cycle : Cycle}
    (hcycle : s.log.reverse[n]? = some cycle) {i t : Nat} {sessions : Block → Nat → Session}
    (hreads : Occurred (step d) init acts (Reads d n i cycle.tier t sessions))
    (hcollects : Occurred (step d) init acts (Collects n i t)) :
    ∃ inv polled, d.inverters[i]? = some inv ∧ cycle.per_inverter[i]? = some polled ∧
      ∀ block ∈ BLOCKS, block.tier = cycle.tier → ∀ regs,
        CleanAnswer inv.slave d.retry_attempts block (sessions block) regs →
        polled.blocks.lookup block.name = some ⟨block.addr, block.name, inv.slave.val, regs.val,
          decoded_fields block regs.val⟩ := by
  obtain ⟨task, inv, -, -, -, -, hinv, -⟩ := result_of_reads hrun hreads
  have hmem := List.mem_reverse.mp (List.mem_of_getElem? hcycle)
  have hlength := ((cycleInOrder_of_reachable ⟨acts, hrun⟩).log cycle hmem).length_eq
  have hlt : i < cycle.per_inverter.length :=
    hlength.symm ▸ (List.getElem?_eq_some_iff.mp hinv).1
  have hpolled := List.getElem?_eq_getElem hlt
  refine ⟨inv, cycle.per_inverter[i], hinv, hpolled, fun block hblock htier regs hclean => ?_⟩
  have hslot := (slotsInOrder_of_run hnames hrun).log n cycle hcycle i _ hpolled
  rw [hslot.read inv sessions hinv ⟨t, hreads, hcollects⟩]
  have hparse := @parse_block_ok block hblock ⟨inv.slave.val, FC_READ_HOLDING, regs.val⟩ hclean.1
  exact (lookup_poll_inverter_iff hblock).mpr ⟨htier, _, settles_of_cleanAnswer hclean, hparse⟩

/-- A clean answer is not lost, and nothing of it: in every run, when a poll of the cycle that was in
time has read a clean answer for a block of the tier, whatever went wrong for other blocks and other
inverters, the list that is aggregated has the block in the slot of the inverter, with its registers
and all its readings; and each reading is the register's number in the field's unit, without
rounding, and determines the register. -/
theorem clean_answers_arrive (hnames : DistinctNames d) {acts : List Action}
    (hrun : run (step d) init acts = some s) {n : Nat} {cycle : Cycle}
    (hcycle : s.log.reverse[n]? = some cycle) {i t : Nat} {sessions : Block → Nat → Session}
    (hreads : Occurred (step d) init acts (Reads d n i cycle.tier t sessions))
    (hcollects : Occurred (step d) init acts (Collects n i t)) :
    ∃ inv polled, d.inverters[i]? = some inv ∧ cycle.per_inverter[i]? = some polled ∧
      ∀ block ∈ BLOCKS, block.tier = cycle.tier → ∀ regs,
        CleanAnswer inv.slave d.retry_attempts block (sessions block) regs →
        ∃ b, polled.blocks.lookup block.name = some b ∧ b.slave = inv.slave ∧
          b.regs_raw = regs.val ∧ ∀ f ∈ fields_for block.addr, ∃ raw x,
            regs.val[f.offset]? = some raw ∧ b.fields.lookup f.key = some x ∧
            x = word_value f raw * f.scale ∧ register_of f x = raw := by
  obtain ⟨inv, polled, hinv, hpolled, hslot⟩ :=
    slot_of_cleanAnswer hnames hrun hcycle hreads hcollects
  refine ⟨inv, polled, hinv, hpolled, fun block hblock htier regs hclean => ?_⟩
  refine ⟨_, hslot block hblock htier regs hclean, rfl, rfl, fun f hf => ?_⟩
  obtain ⟨raw, hraw, hread⟩ := exists_register_of_field hblock hclean.1 hf
  have hfield : f ∈ FIELDS := List.mem_of_mem_filter hf
  exact ⟨raw, _, hraw, hread, field_value_exact hfield raw, register_of_field_value hfield raw⟩

/-- The block of the second PV input. -/
def pv2_block : Block := ⟨0x010F, 3, "pv2", .HOT⟩

theorem cleanAnswer_counting : CleanAnswer ⟨1, slave_1_admitted⟩ 3 pv2_block (counting 1 pv2_block)
    ⟨[0, 1, 2], by decide⟩ := by
  refine ⟨rfl, (find_exception_isSome_iff _ _).not.mp (by decide +kernel), 0, _, by decide, nofun,
    rfl, by decide, by decide +kernel⟩

theorem reads_first_answers : Occurred (step two_inverters) init first_answers
    (Reads two_inverters 0 0 .HOT 0 (counting 1)) :=
  ⟨first_answers.take 6, _, _, _, rfl, rfl, rfl, rfl, _, _, rfl, rfl, rfl, rfl, rfl, rfl⟩

theorem collects_first_answers :
    Occurred (step two_inverters) init first_answers (Collects 0 0 0) :=
  ⟨first_answers.take 10, _, _, _, rfl, rfl, rfl, rfl, ⟨_, _, _, rfl⟩, _, _, rfl, rfl⟩

theorem clean_answers_arrive_first_answers :
    ∃ s cycle polled b, run (step two_inverters) init first_answers = some s ∧
      s.log.reverse[0]? = some cycle ∧ cycle.per_inverter[0]? = some polled ∧
      polled.blocks.lookup "pv2" = some b ∧ b.regs_raw = [0, 1, 2] := by
  have hrun : run (step two_inverters) init first_answers = some _ := rfl
  obtain ⟨inv, polled, hinv, hpolled, harrive⟩ := clean_answers_arrive (by decide) hrun (n := 0) rfl
    reads_first_answers collects_first_answers
  cases hinv
  obtain ⟨b, hb, -, hregs, -⟩ :=
    harrive pv2_block (by decide) rfl ⟨[0, 1, 2], by decide⟩ cleanAnswer_counting
  exact ⟨_, _, polled, b, hrun, rfl, hpolled, hb, hregs⟩

end inverter_bridge.daemon
