import InverterBridge.Daemon.Effects
import InverterBridge.Daemon.Poll

open Python Std.Do
open inverter_bridge.crc inverter_bridge.modbus inverter_bridge.parsers inverter_bridge.srne_map
open inverter_bridge.serial_io inverter_bridge.aggregator inverter_bridge.energy_integrator

namespace inverter_bridge.daemon

/-- What one inverter contributes to a cycle: what `_poll_inverter` made of the bytes its
queries received, or nothing, when its poll was skipped, timed out or crashed. -/
def PollOutcome (tier : BlockTier) (blocks : Blocks) : Prop :=
  blocks = ∅ ∨ ∃ slave retry_attempts sessions,
    blocks = (poll_inverter slave retry_attempts tier sessions).out.blocks

theorem PollOutcome.exists_polled {tier : BlockTier} {blocks : Blocks}
    (h : PollOutcome tier blocks) : ∃ polled : PolledBlocks, polled.blocks = blocks := by
  obtain rfl | ⟨slave, retry_attempts, sessions, rfl⟩ := h
  · exact ⟨.empty, rfl⟩
  · exact ⟨_, rfl⟩

/-- The polls of this world return what the inverters contributed. -/
def World.Polls {N : Nat} (w : World N) : Prop :=
  ∀ k tier result, w.poll k tier = .ok result → ∀ blocks ∈ result.per_inverter,
    PollOutcome tier blocks

/-- A frame selected for a block is decoded into all of the block's fields. -/
theorem parse_block_of_select_response {block : Block} (hblock : block ∈ BLOCKS) {stream : Bytes}
    {slave : UInt8} {frame : ModbusFrame}
    (hselect : select_response stream slave block.addr block.count = some frame) :
    ∃ parsed, parse_block block.addr frame = .ok parsed ∧
      ∀ f ∈ fields_for block.addr, f.key ∈ parsed.fields := by
  have hcount := (select_response_spec hselect).2
  refine ⟨_, parse_block_ok hblock hcount, fun f hf => ?_⟩
  rw [Dict.mem_iff_lookup]
  exact ⟨_, lookup_decoded_fields hblock hf frame.regs⟩

/-- A frame the attempts for a block end with can be decoded. -/
theorem parse_block_of_query_attempts {block : Block} (hblock : block ∈ BLOCKS) {slave : SlaveId}
    {session : Nat → Session} {attempt remaining : Nat} {frame : ModbusFrame}
    (hframe : (query_attempts slave block session attempt remaining).frame = some frame) :
    ∃ parsed, parse_block block.addr frame = .ok parsed := by
  obtain ⟨k, hquery⟩ := query_attempts_frame hframe
  obtain ⟨stream, hselect⟩ := port_query_frame hquery
  obtain ⟨parsed, hparse, -⟩ := parse_block_of_select_response hblock hselect
  exact ⟨parsed, hparse⟩

/-- What the inverters contribute can be aggregated. -/
theorem aggregate_inverters_of_polls {tier : BlockTier} {per_inverter : List Blocks}
    (hpolls : ∀ blocks ∈ per_inverter, PollOutcome tier blocks) :
    ∃ out, aggregate_inverters per_inverter = .ok out := by
  obtain ⟨polled, rfl⟩ := exists_polled_list fun blocks hblocks =>
    (hpolls blocks hblocks).exists_polled
  exact aggregate_inverters_ok polled

/-- An exception of a poll itself or of the MQTT client. -/
def World.RaisesOutside {N : Nat} (w : World N) (e : Raised) : Prop :=
  (∃ k tier, w.poll k tier = .error e) ∨ ∃ k, w.publish k = some e

theorem World.Polls.raisesOutside {N : Nat} {w : World N} (hpolls : w.Polls) {e : Raised}
    (hraises : w.Raises e) : w.RaisesOutside e := by
  cases hraises with
  | poll hpoll => exact .inl ⟨_, _, hpoll⟩
  | publish hpublish => exact .inr ⟨_, hpublish⟩
  | aggregate hpoll herror =>
    obtain ⟨out, hout⟩ := aggregate_inverters_of_polls (hpolls _ _ _ hpoll)
    cases hout.symm.trans herror

/-- An exception a cycle ends with came from outside. -/
theorem World.Polls.raisesOutside_of_spec {N : Nat} {w : World N} (hpolls : w.Polls)
    {cycle : Program Unit} {s : LoopState} {e : Raised}
    (hspec : ∀ s₀, ⦃fun s => ⌜Ran w s₀ s⌝⦄ cycle
      ⦃post⟨fun _ s => ⌜Ran w s₀ s⌝, fun e s => ⌜Ran w s₀ s ∧ w.Raises e⌝⟩⦄)
    (herror : (cycle.run.run s).1 = .error e) : w.RaisesOutside e := by
  have houtcome := outcome_of_spec (hspec s) Relation.ReflTransGen.refl
  cases hresult : cycle.run.run s with
  | mk r s' =>
    rw [hresult] at houtcome herror
    cases r with
    | ok _ => cases herror
    | error e' =>
      cases herror
      exact hpolls.raisesOutside houtcome.2

/-- The pipeline cannot fail on register contents. A frame selected for a block is decoded
into all of its fields, so the parse-error branch of the poll is unreachable; whatever the
inverters contribute can be aggregated; and a cycle raises nothing of its own. -/
theorem pipeline_cannot_fail {N : Nat} (w : World N) (hpolls : w.Polls) (self : MainLoop)
    (s : LoopState) :
    (∀ block ∈ BLOCKS, ∀ stream slave frame,
      select_response stream slave block.addr block.count = some frame →
        ∃ parsed, parse_block block.addr frame = .ok parsed ∧
          ∀ f ∈ fields_for block.addr, f.key ∈ parsed.fields) ∧
    (∀ block ∈ BLOCKS, ∀ slave session attempt remaining frame,
      (query_attempts slave block session attempt remaining).frame = some frame →
        ∃ parsed, parse_block block.addr frame = .ok parsed) ∧
    (∀ tier (per_inverter : List Blocks), (∀ blocks ∈ per_inverter, PollOutcome tier blocks) →
      ∃ out, aggregate_inverters per_inverter = .ok out) ∧
    (∀ e, ((self.run_one_hot_cycle w).run.run s).1 = .error e → w.RaisesOutside e) ∧
    ∀ e, ((run_one_cold_cycle w).run.run s).1 = .error e → w.RaisesOutside e := by
  refine ⟨?_, ?_, ?_, ?_, ?_⟩
  · exact fun _ hblock _ _ _ => parse_block_of_select_response hblock
  · exact fun _ hblock _ _ _ _ _ => parse_block_of_query_attempts hblock
  · exact fun _ _ => aggregate_inverters_of_polls
  · exact fun _ => hpolls.raisesOutside_of_spec fun s₀ => run_one_hot_cycle_spec s₀ self
  · exact fun _ => hpolls.raisesOutside_of_spec run_one_cold_cycle_spec

/-- An inverter that answers every query with registers of all ones. -/
def saturated (block : Block) (_attempt : Nat) : Session :=
  let frame := [0x01, 0x03, (2 * block.count).toUInt8] ++ List.replicate (2 * block.count) 0xFF
  .read [frame ++ crc16 frame]

theorem length_no_fails : ([0] : List Nat).length = 1 := rfl

def saturated_world : World 1 where
  monotonic k := k
  poll _ tier := .ok ⟨[(poll_inverter ⟨1, slave_1_admitted⟩ 3 tier saturated).out.blocks], [0],
    "\x7b\x7d", rfl, length_no_fails⟩
  publish _ := none
  crc_fails_total _ := 0

theorem saturated_world_polls : saturated_world.Polls := by
  intro k tier result hpoll blocks hblocks
  cases hpoll
  rw [List.mem_singleton.mp hblocks]
  exact .inr ⟨_, _, _, rfl⟩

theorem pipeline_cannot_fail_saturated :
    ∃ out, aggregate_inverters
      [(poll_inverter ⟨1, by decide⟩ 3 .HOT saturated).out.blocks, ∅] = .ok out := by
  apply (pipeline_cannot_fail saturated_world saturated_world_polls ⟨.finite 600, 0⟩
    (.start .zero)).2.2.1 .HOT
  rw [List.forall_mem_cons, List.forall_mem_singleton]
  exact ⟨.inr ⟨_, _, _, rfl⟩, .inl rfl⟩

end inverter_bridge.daemon
