import InverterBridge.Aggregator.InverterValues
import InverterBridge.Daemon.Attempts
import InverterBridge.Daemon.Freshness
import InverterBridge.SerialIo.Received

/-! What is published for an inverter, traced back to the bytes on its port. -/

open Python TransitionSystem
open inverter_bridge.crc inverter_bridge.modbus inverter_bridge.parsers inverter_bridge.srne_map
open inverter_bridge.serial_io inverter_bridge.aggregator inverter_bridge.config

namespace inverter_bridge.daemon

/-- The block is decoded from a response that stands in the bytes of one of these sessions: the
first of the attempts that did not time out. -/
def DecodedOnWire (slave : SlaveId) (retry_attempts : Int) (block : Block) (session : Nat → Session)
    (b : ParsedBlock) : Prop :=
  ∃ k chunks regs, k < retry_attempts.toNat ∧
    (∀ j < k, port_query slave block (session j) = .timeoutError) ∧
    session k = .read chunks ∧ Received chunks.flatten slave regs ∧
    regs.val.length = block.count ∧
    b = ⟨block.addr, block.name, slave.val, regs.val, decoded_fields block regs.val⟩

section

variable {slave : SlaveId} {retry_attempts : Int} {tier : BlockTier} {block : Block}

/-- A poll has a block of its tier exactly when the attempts for it end with a frame. -/
theorem lookup_poll_inverter_iff {sessions : Block → Nat → Session} (hblock : block ∈ BLOCKS)
    {b : ParsedBlock} :
    (poll_inverter slave retry_attempts tier sessions).out.blocks.lookup block.name = some b ↔
      block.tier = tier ∧ ∃ f, Settles (fun k => port_query slave block (sessions block k))
        retry_attempts.toNat (.frame f) ∧ parse_block block.addr f = .ok b :=
  lookup_poll_blocks_iff hblock b

/-- A query's frame stands in the bytes it has read. -/
theorem received_of_port_query {session : Session} {f : ModbusFrame}
    (h : port_query slave block session = .frame f) :
    ∃ chunks regs, session = .read chunks ∧ Received chunks.flatten slave regs ∧
      regs.val.length = block.count ∧ f = ⟨slave.val, FC_READ_HOLDING, regs.val⟩ := by
  cases session with
  | read chunks =>
    simp only [port_query] at h
    split at h
    case h_1 frame hframe =>
      cases h
      obtain ⟨regs, hreceived, hframe⟩ := received_of_query hframe
      exact ⟨chunks, regs, rfl, hreceived, hframe⟩
    all_goals cases h
  | raised timeout => cases timeout <;> cases h

/-- All a poll has obtained stands on the wire. -/
def OnWire (slave : SlaveId) (retry_attempts : Int) (tier : BlockTier)
    (sessions : Block → Nat → Session) (blocks : Blocks) : Prop :=
  ∀ name b, blocks.lookup name = some b → ∃ block ∈ BLOCKS, block.name = name ∧
    block.tier = tier ∧ DecodedOnWire slave retry_attempts block (sessions block) b

theorem onWire_poll_inverter (slave : SlaveId) (retry_attempts : Int) (tier : BlockTier)
    (sessions : Block → Nat → Session) :
    OnWire slave retry_attempts tier sessions
      (poll_inverter slave retry_attempts tier sessions).out.blocks := by
  intro name b hb
  obtain ⟨block, hblock, rfl, -⟩ := PolledBlocks.decoded _ name b hb
  obtain ⟨htier, f, ⟨-, k, hk, htimeouts, hquery⟩, hparse⟩ := (lookup_poll_inverter_iff hblock).mp hb
  obtain ⟨chunks, regs, hread, hreceived, hcount, rfl⟩ := received_of_port_query hquery
  obtain ⟨-, rfl⟩ := (parse_block_eq_ok_iff hblock).mp hparse
  exact ⟨block, hblock, rfl, htier, k, chunks, regs, hk, htimeouts, hread, hreceived, hcount, rfl⟩

end

variable {κ δ : Type} [DecidableEq κ] {d : Daemon κ δ} {s : State κ}

/-- What a slot holds was read by a poll in time, or is nothing. -/
theorem SlotOf.read_or_empty {acts : List Action} (hrun : run (step d) init acts = some s)
    {n i : Nat} {tier : BlockTier} {out : PolledBlocks} (h : SlotOf d acts n i tier out) :
    out = .empty ∨ ∃ inv t sessions, d.inverters[i]? = some inv ∧
      Occurred (step d) init acts (Reads d n i tier t sessions) ∧
      Occurred (step d) init acts (Collects n i t) ∧
      out = (poll_inverter inv.slave d.retry_attempts tier sessions).out := by
  by_cases hin : ∃ sessions, InTime d acts n i tier sessions
  · obtain ⟨sessions, t, hreads, hcollects⟩ := hin
    obtain ⟨task, inv, -, -, -, -, hinv, -⟩ := result_of_reads hrun hreads
    have hread := h.read inv sessions hinv ⟨t, hreads, hcollects⟩
    exact .inr ⟨inv, t, sessions, hinv, hreads, hcollects, hread⟩
  · exact .inl (h.empty fun sessions hsessions => hin ⟨sessions, hsessions⟩)

/-- What the slot of the inverter at `i` is filled with in cycle `n`: nothing, or what stands in the
bytes received by a poll of this cycle that was in time. -/
def FilledFromWire (d : Daemon κ δ) (acts : List Action) (n i : Nat) (tier : BlockTier)
    (blocks : Blocks) : Prop :=
  ∃ inv, d.inverters[i]? = some inv ∧ (blocks = ∅ ∨ ∃ t sessions,
    Occurred (step d) init acts (Reads d n i tier t sessions) ∧
    Occurred (step d) init acts (Collects n i t) ∧
    OnWire inv.slave d.retry_attempts tier sessions blocks)

theorem filledFromWire_of_run (hnames : DistinctNames d) {acts : List Action}
    (hrun : run (step d) init acts = some s) {n : Nat} {cycle : Cycle}
    (hcycle : s.log.reverse[n]? = some cycle) {i : Nat} {polled : PolledBlocks}
    (hpolled : cycle.per_inverter[i]? = some polled) :
    FilledFromWire d acts n i cycle.tier polled.blocks := by
  have hmem := List.mem_reverse.mp (List.mem_of_getElem? hcycle)
  have hlength := ((cycleInOrder_of_reachable ⟨acts, hrun⟩).log cycle hmem).length_eq
  have hlt : i < d.inverters.length := hlength ▸ (List.getElem?_eq_some_iff.mp hpolled).1
  refine ⟨d.inverters[i], List.getElem?_eq_getElem hlt, ?_⟩
  have hslot := (slotsInOrder_of_run hnames hrun).log n cycle hcycle i polled hpolled
  obtain rfl | ⟨inv, t, sessions, hinv, hreads, hcollects, rfl⟩ := hslot.read_or_empty hrun
  · exact .inl rfl
  · obtain rfl := Option.some.inj ((List.getElem?_eq_getElem hlt).symm.trans hinv)
    exact .inr ⟨t, sessions, hreads, hcollects, onWire_poll_inverter _ _ _ _⟩

/-- From the wire to the published dict: in every run, each list that is aggregated has for each
inverter nothing, or decodings of complete responses of its slave, with the size of the block, that
stand in the bytes received on its port by a poll of the same cycle and tier, collected in time; it
can be aggregated, and what is published for the inverter number `m` is computed from that
inverter's blocks alone. -/
theorem readings_on_the_wire (hnames : DistinctNames d) {acts : List Action}
    (hrun : run (step d) init acts = some s) {n : Nat} {cycle : Cycle}
    (hcycle : s.log.reverse[n]? = some cycle) :
    (∀ i polled, cycle.per_inverter[i]? = some polled →
      FilledFromWire d acts n i cycle.tier polled.blocks) ∧
    ∃ out, aggregate_inverters (cycle.per_inverter.map PolledBlocks.blocks) = .ok out ∧
      ∀ m k v, out.lookup (inverter_key m k) = some v →
        ∃ i polled, m = i + 1 ∧ cycle.per_inverter[i]? = some polled ∧
          last_value (inverter_values polled.blocks) k = some v := by
  refine ⟨fun i polled hpolled => filledFromWire_of_run hnames hrun hcycle hpolled, ?_⟩
  obtain ⟨out, hout⟩ := aggregate_inverters_ok cycle.per_inverter
  obtain ⟨stages⟩ := Stages.of_ok hout
  refine ⟨out, hout, fun m k v hv => ?_⟩
  rw [stages.lookup_inverter_key, Option.bind_eq_some_iff] at hv
  obtain ⟨blocks, hblocks, hv⟩ := hv
  obtain ⟨hm, hslot⟩ := Option.ite_none_right_eq_some.mp hblocks
  rw [List.getElem?_map, Option.map_eq_some_iff] at hslot
  obtain ⟨polled, hpolled, rfl⟩ := hslot
  exact ⟨m - 1, polled, by omega, hpolled, hv⟩

/-- A cycle in which the second inverter does not answer. -/
def first_answers : List Action :=
  [.begin .HOT, .submit, .submit, .submit, .start 0, .start 1, .settle 0 (counting 1),
    .settle 1 fun _ _ => .read [], .finish 0, .finish 1, .collect, .collect, .snapshot]

/-- The block of the battery has come through. -/
theorem first_answers_battery :
    ((run (step two_inverters) init first_answers).bind fun s =>
      s.log.reverse[0]?.bind fun cycle => cycle.per_inverter[0]?).any
        (fun polled => "battery" ∈ polled.blocks) = true := by
  decide +kernel

theorem readings_on_the_wire_first_answers :
    ∃ s cycle polled, run (step two_inverters) init first_answers = some s ∧
      s.log.reverse[0]? = some cycle ∧ cycle.per_inverter[0]? = some polled ∧
      "battery" ∈ polled.blocks ∧
      FilledFromWire two_inverters first_answers 0 0 cycle.tier polled.blocks := by
  obtain ⟨polled, hpolled, hbattery⟩ := (Option.any_eq_true _ _).mp first_answers_battery
  obtain ⟨s, hrun, hpolled⟩ := Option.bind_eq_some_iff.mp hpolled
  obtain ⟨cycle, hcycle, hpolled⟩ := Option.bind_eq_some_iff.mp hpolled
  exact ⟨s, cycle, polled, hrun, hcycle, hpolled, of_decide_eq_true hbattery,
    (readings_on_the_wire (by decide) hrun hcycle).1 0 polled hpolled⟩

/-! ## Blocks of one size each -/

/-- No two blocks are of one size. -/
theorem eq_of_count_eq {block block' : Block} (hblock : block ∈ BLOCKS) (hblock' : block' ∈ BLOCKS)
    (hcount : block.count = block'.count) : block = block' :=
  List.inj_on_of_nodup_map (by decide) hblock hblock' hcount

/-- The responses of the slave that stand in what the poll reads are answers for some block each,
whoever asked. -/
def AnswersBlocks (slave : SlaveId) (answered : Block → Registers → Prop)
    (sessions : Block → Nat → Session) : Prop :=
  ∀ block ∈ BLOCKS, ∀ k chunks regs, sessions block k = .read chunks →
    Received chunks.flatten slave regs →
    ∃ asked ∈ BLOCKS, regs.val.length = asked.count ∧ answered asked regs

/-- The sizes keep the blocks apart: as long as no one on the bus asks an inverter for anything but
the blocks the daemon polls, what is taken for a block in any cycle of any run is what the inverter
has answered for this very block. -/
theorem blocks_not_confused (hnames : DistinctNames d) {acts : List Action}
    (hrun : run (step d) init acts = some s) {n : Nat} {cycle : Cycle}
    (hcycle : s.log.reverse[n]? = some cycle) (answered : Nat → Block → Registers → Prop)
    (hbus : ∀ i inv t sessions, d.inverters[i]? = some inv →
      Occurred (step d) init acts (Reads d n i cycle.tier t sessions) →
      AnswersBlocks inv.slave (answered i) sessions) {i : Nat} {polled : PolledBlocks}
    (hpolled : cycle.per_inverter[i]? = some polled) {name : String} {b : ParsedBlock}
    (hb : polled.blocks.lookup name = some b) :
    ∃ block ∈ BLOCKS, ∃ regs, block.name = name ∧ block.tier = cycle.tier ∧ answered i block regs ∧
      b.regs_raw = regs.val ∧ b.fields = decoded_fields block regs.val := by
  obtain ⟨inv, hinv, hempty | ⟨t, sessions, hreads, -, honwire⟩⟩ :=
    filledFromWire_of_run hnames hrun hcycle hpolled
  · rw [hempty, AList.lookup_empty] at hb
    cases hb
  · obtain ⟨block, hblock, hname, htier, k, chunks, regs, -, -, hread, hreceived, hcount, rfl⟩ :=
      honwire name b hb
    obtain ⟨asked, hasked, hsize, hanswered⟩ :=
      hbus i inv t sessions hinv hreads block hblock k chunks regs hread hreceived
    obtain rfl := eq_of_count_eq hasked hblock (hsize.symm.trans hcount)
    exact ⟨asked, hasked, regs, hname, htier, hanswered, rfl, rfl⟩

/-- The registers that `counting` answers with. -/
def counted (block : Block) (regs : Registers) : Prop :=
  regs.val = (List.range block.count).map Nat.toUInt16

theorem answersBlocks_counting {slave : SlaveId} (hslave : slave.val ∈ ([1, 2] : Bytes)) :
    AnswersBlocks slave counted (counting 1) := by
  have hheaders : ∀ block ∈ BLOCKS, block.count ≤ 125 ∧ ∀ slave ∈ ([1, 2] : Bytes),
      let body := 0x01 :: FC_READ_HOLDING :: (2 * block.count).toUInt8 ::
        word_bytes ((List.range block.count).map Nat.toUInt16)
      let bytes := body ++ crc16 body
      ∀ p ∈ List.range bytes.length,
        bytes[p]? = some slave → bytes[p + 1]? = some FC_READ_HOLDING → p = 0 := by
    decide +kernel
  intro block hblock k chunks regs hread hreceived
  cases hread
  rw [List.flatten_singleton] at hreceived
  obtain ⟨before, after, heq⟩ := hreceived
  obtain ⟨hmax, hheaders⟩ := hheaders block hblock
  have hbefore : before.length = 0 := by
    apply hheaders slave.val hslave
    · rw [← heq, List.mem_range]
      simp [BusFrame.encode, BusFrame.body]
    · rw [← heq]
      simp [BusFrame.encode, BusFrame.body]
    · rw [← heq]
      simp [BusFrame.encode, BusFrame.body]
  rw [List.length_eq_zero_iff.mp hbefore] at heq
  simp only [BusFrame.encode, BusFrame.body, List.nil_append, List.cons_append, List.cons.injEq,
    List.append_assoc] at heq
  obtain ⟨-, -, hbytes, hwords⟩ := heq
  have hcount : regs.val.length = block.count := by
    have hvalue := congrArg UInt8.toNat hbytes
    rw [byte_count_toNat, Nat.toUInt8, UInt8.toNat_ofNat', Nat.mod_eq_of_lt (by omega)] at hvalue
    omega
  have hregs := List.append_inj_left hwords (by simp [hcount])
  exact ⟨block, hblock, hcount, by rw [counted, ← words_word_bytes regs.val, hregs, words_word_bytes]⟩

/-- Every response that the polls of the run read is an answer for a block. -/
theorem answersBlocks_first_answers {i t : Nat} {inv : config.InverterCfg Nat Nat} {tier : BlockTier}
    {sessions : Block → Nat → Session} (hinv : two_inverters.inverters[i]? = some inv)
    (hreads : Occurred (step two_inverters) init first_answers
      (Reads two_inverters 0 i tier t sessions)) : AnswersBlocks inv.slave counted sessions := by
  obtain ⟨before, a, after, s, hacts, -, rfl, -⟩ := hreads
  have hslave : inv.slave.val ∈ ([1, 2] : Bytes) := by
    have hslaves : ∀ inv ∈ two_inverters.inverters, inv.slave.val ∈ ([1, 2] : Bytes) := by decide
    exact hslaves inv (List.mem_of_getElem? hinv)
  have hsettle : Action.settle t sessions ∈ first_answers := by
    rw [hacts]
    exact List.mem_append_right _ List.mem_cons_self
  simp only [first_answers, List.mem_cons, List.not_mem_nil, reduceCtorEq, Action.settle.injEq,
    false_or, or_false] at hsettle
  obtain ⟨-, rfl⟩ | ⟨-, rfl⟩ := hsettle
  · exact answersBlocks_counting hslave
  · rintro block - k chunks regs ⟨⟩ hreceived
    cases List.infix_nil.mp hreceived

theorem blocks_not_confused_first_answers :
    ∃ s cycle polled b, run (step two_inverters) init first_answers = some s ∧
      s.log.reverse[0]? = some cycle ∧ cycle.per_inverter[0]? = some polled ∧
      polled.blocks.lookup "battery" = some b ∧
      ∃ block ∈ BLOCKS, block.name = "battery" ∧
        b.regs_raw = (List.range block.count).map Nat.toUInt16 := by
  obtain ⟨polled, hpolled, hbattery⟩ := (Option.any_eq_true _ _).mp first_answers_battery
  obtain ⟨s, hrun, hpolled⟩ := Option.bind_eq_some_iff.mp hpolled
  obtain ⟨cycle, hcycle, hpolled⟩ := Option.bind_eq_some_iff.mp hpolled
  obtain ⟨b, hb⟩ := Dict.mem_iff_lookup.mp (of_decide_eq_true hbattery)
  obtain ⟨block, hblock, regs, hname, -, hcounted, hregs, -⟩ :=
    blocks_not_confused (by decide) hrun hcycle (fun _ => counted)
      (fun _ _ _ _ hinv hreads => answersBlocks_first_answers hinv hreads) hpolled hb
  exact ⟨s, cycle, polled, b, hrun, hcycle, hpolled, hb, block, hblock, hname,
    hregs.trans hcounted⟩

end inverter_bridge.daemon
