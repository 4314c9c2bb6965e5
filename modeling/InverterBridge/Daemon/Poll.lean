import InverterBridge.Aggregator.Decoded
import InverterBridge.SerialIo.Query

open Python
open inverter_bridge.crc inverter_bridge.modbus inverter_bridge.parsers inverter_bridge.srne_map
open inverter_bridge.serial_io inverter_bridge.aggregator

namespace inverter_bridge.daemon

/-- What the serial side does during one query: `read` returns these chunks before
the deadline, or pyserial raises (a `TimeoutError`, or another exception). -/
inductive Session where
  | read (chunks : List Bytes)
  | raised (timeout : Bool)

/-- How `port.query` ends for the poll loop. -/
inductive QueryResult where
  | frame (f : ModbusFrame)
  | modbusException (e : ModbusException)
  | timeoutError
  | unexpected
  deriving DecidableEq

/-- `port.query(slave=inv.slave, addr=block.addr, count=block.count)`. -/
def port_query (slave : SlaveId) (block : Block) : Session → QueryResult
  | .read chunks =>
    match (query slave block.addr block.count chunks).outcome with
    | .frame f => .frame f
    | .modbusException e => .modbusException e
    | .timeoutError _ _ => .timeoutError
    | .valueError _ => .unexpected
  | .raised timeout => if timeout then .timeoutError else .unexpected

/-- The attempts made for one block, and the frame they ended with. -/
structure BlockRun where
  results : List QueryResult
  frame : Option ModbusFrame

/-- `for attempt in range(retry_attempts)`, from `attempt` on with `remaining` to go, given how the
calls of `port.query` end. -/
def attempts_of (results : Nat → QueryResult) (attempt : Nat) : Nat → BlockRun
  | 0 => ⟨[], none⟩
  | remaining + 1 =>
    match results attempt with
    | .frame f => ⟨[.frame f], some f⟩
    -- exceptions are deterministic: no retry
    | .modbusException e => ⟨[.modbusException e], none⟩
    | .timeoutError =>
      let rest := attempts_of results (attempt + 1) remaining
      ⟨.timeoutError :: rest.results, rest.frame⟩
    | .unexpected => ⟨[.unexpected], none⟩

/-- The attempts for a block over these sessions. -/
def query_attempts (slave : SlaveId) (block : Block) (session : Nat → Session) (attempt : Nat) :
    Nat → BlockRun :=
  attempts_of (fun k => port_query slave block (session k)) attempt

/-- The local state of `_poll_inverter`, with the queries it has made. -/
structure PollRun where
  out : PolledBlocks
  any_success : Bool
  queries : List (Block × List QueryResult)

/-- What the poll keeps of the attempts for a block: a frame that can be parsed. -/
def store_block (run : PollRun) : { block // block ∈ BLOCKS } → BlockRun → PollRun
  | ⟨block, hblock⟩, attempts =>
    let queries := run.queries ++ [(block, attempts.results)]
    match attempts.frame with
    | none => ⟨run.out, run.any_success, queries⟩
    | some frame =>
      match hparse : parse_block block.addr frame with
      | .ok parsed => ⟨run.out.store block hblock frame parsed hparse, true, queries⟩
      | .error _ => ⟨run.out, run.any_success, queries⟩

/-- The body of the loop over `BLOCKS`. -/
def poll_block (retry_attempts : Int) (tier : BlockTier) (results : Block → Nat → QueryResult)
    (run : PollRun) (block : { block // block ∈ BLOCKS }) : PollRun :=
  if block.1.tier ≠ tier then run
  else store_block run block (attempts_of (results block.1) 0 retry_attempts.toNat)

/-- The loop over `BLOCKS`, given how the calls of `port.query` end. -/
def poll_blocks (retry_attempts : Int) (tier : BlockTier) (results : Block → Nat → QueryResult) :
    PollRun :=
  BLOCKS.attach.foldl (poll_block retry_attempts tier results) ⟨.empty, false, []⟩

/-- `Daemon._poll_inverter(inv, tier)` over these sessions, when none of its pauses raises, up to
the update of the fail count, which it makes from `any_success`. -/
def poll_inverter (slave : SlaveId) (retry_attempts : Int) (tier : BlockTier)
    (sessions : Block → Nat → Session) : PollRun :=
  poll_blocks retry_attempts tier fun block k => port_query slave block (sessions block k)

/-- A poll got at least one block. -/
def got_block (out : PolledBlocks) : Bool := !out.blocks.entries.isEmpty

/-- All blocks of a poll are of one tier. -/
def OfTier (tier : BlockTier) (out : PolledBlocks) : Prop :=
  ∀ name ∈ out.blocks, ∃ block ∈ BLOCKS, block.name = name ∧ block.tier = tier

/-- What `out` holds was parsed from frames that the queries of these sessions got. -/
def ReadFrom (slave : SlaveId) (tier : BlockTier) (sessions : Block → Nat → Session)
    (out : PolledBlocks) : Prop :=
  ∀ name b, out.blocks.lookup name = some b → ∃ block ∈ BLOCKS, block.name = name ∧
    block.tier = tier ∧ ∃ attempt frame, port_query slave block (sessions block attempt) =
      .frame frame ∧ parse_block block.addr frame = .ok b

theorem got_block_empty : got_block .empty = false := rfl

theorem got_block_store (out : PolledBlocks) {block : Block} (hblock : block ∈ BLOCKS)
    {frame : ModbusFrame} {parsed : ParsedBlock}
    (hparse : parse_block block.addr frame = .ok parsed) :
    got_block (out.store block hblock frame parsed hparse) = true := by
  simp [got_block, PolledBlocks.store, AList.entries_insert]

theorem ofTier_empty (tier : BlockTier) : OfTier tier .empty :=
  fun name hname => absurd hname (AList.notMem_empty name)

theorem readFrom_empty (slave : SlaveId) (tier : BlockTier) (sessions : Block → Nat → Session) :
    ReadFrom slave tier sessions .empty := by
  intro name b h
  rw [PolledBlocks.empty, AList.lookup_empty] at h
  cases h

/-- A query's frame was selected from the bytes read, for the block. -/
theorem port_query_frame {slave : SlaveId} {block : Block} {session : Session} {f : ModbusFrame}
    (h : port_query slave block session = .frame f) :
    ∃ stream, select_response stream slave block.addr block.count = some f := by
  cases session with
  | read chunks =>
    simp only [port_query] at h
    split at h
    case h_1 frame hframe =>
      cases h
      exact query_frame hframe
    all_goals cases h
  | raised timeout => cases timeout <;> cases h

/-- The frame the attempts end with is what one of them brought. -/
theorem attempts_of_frame {results : Nat → QueryResult} {attempt remaining : Nat} {f : ModbusFrame}
    (h : (attempts_of results attempt remaining).frame = some f) : ∃ k, results k = .frame f := by
  induction remaining generalizing attempt with
  | zero => cases h
  | succ remaining ih =>
    rw [attempts_of] at h
    split at h
    case h_1 frame hframe =>
      cases h
      exact ⟨attempt, hframe⟩
    case h_3 => exact ih h
    all_goals cases h

/-- The frame the attempts end with is the answer to one of them. -/
theorem query_attempts_frame {slave : SlaveId} {block : Block} {session : Nat → Session}
    {attempt remaining : Nat} {f : ModbusFrame}
    (h : (query_attempts slave block session attempt remaining).frame = some f) :
    ∃ k, port_query slave block (session k) = .frame f :=
  attempts_of_frame h

/-- Storing a block keeps `any_success` in step with the dict, and the dict of its tier. -/
theorem store_block_preserves {tier : BlockTier} {run : PollRun}
    {block : { block // block ∈ BLOCKS }} (htier : block.1.tier = tier) (attempts : BlockRun)
    (hrun : run.any_success = got_block run.out ∧ OfTier tier run.out) :
    (store_block run block attempts).any_success = got_block (store_block run block attempts).out ∧
      OfTier tier (store_block run block attempts).out := by
  obtain ⟨block, hblock⟩ := block
  unfold store_block
  dsimp only
  split
  case h_1 => exact hrun
  case h_2 frame _ =>
    split
    case h_1 parsed hparse =>
      refine ⟨(got_block_store run.out hblock hparse).symm, fun name hname => ?_⟩
      cases (AList.mem_insert _).mp hname with
      | inl heq => exact ⟨block, hblock, heq.symm, htier⟩
      | inr hold => exact hrun.2 name hold
    case h_2 => exact hrun

theorem poll_block_preserves {retry_attempts : Int} {tier : BlockTier}
    {results : Block → Nat → QueryResult} {run : PollRun} (block : { block // block ∈ BLOCKS })
    (hrun : run.any_success = got_block run.out ∧ OfTier tier run.out) :
    (poll_block retry_attempts tier results run block).any_success =
        got_block (poll_block retry_attempts tier results run block).out ∧
      OfTier tier (poll_block retry_attempts tier results run block).out := by
  unfold poll_block
  by_cases htier : block.1.tier ≠ tier
  · rw [if_pos htier]
    exact hrun
  · rw [if_neg htier]
    exact store_block_preserves (not_not.mp htier) _ hrun

/-- The loop stores what its queries got. -/
theorem poll_block_readFrom {slave : SlaveId} {retry_attempts : Int} {tier : BlockTier}
    {sessions : Block → Nat → Session} {run : PollRun} (block : { block // block ∈ BLOCKS })
    (hrun : ReadFrom slave tier sessions run.out) :
    ReadFrom slave tier sessions (poll_block retry_attempts tier
      (fun block k => port_query slave block (sessions block k)) run block).out := by
  unfold poll_block
  by_cases htier : block.1.tier ≠ tier
  · rw [if_pos htier]
    exact hrun
  · rw [if_neg htier]
    obtain ⟨block, hblock⟩ := block
    unfold store_block
    dsimp only
    split
    case h_1 => exact hrun
    case h_2 frame hframe =>
      split
      case h_1 parsed hparse =>
        intro name b hb
        by_cases hname : name = block.name
        · rw [hname, PolledBlocks.store, AList.lookup_insert, Option.some.injEq] at hb
          obtain ⟨attempt, hquery⟩ := attempts_of_frame hframe
          exact ⟨block, hblock, hname.symm, not_not.mp htier, attempt, frame, hquery, hb ▸ hparse⟩
        · rw [PolledBlocks.store, AList.lookup_insert_ne hname] at hb
          exact hrun name b hb
      case h_2 => exact hrun

theorem poll_inverter_readFrom (slave : SlaveId) (retry_attempts : Int) (tier : BlockTier)
    (sessions : Block → Nat → Session) :
    ReadFrom slave tier sessions (poll_inverter slave retry_attempts tier sessions).out := by
  unfold poll_inverter poll_blocks
  refine List.foldlRecOn (motive := fun run : PollRun => ReadFrom slave tier sessions run.out)
    BLOCKS.attach _ (readFrom_empty slave tier sessions) ?_
  intro run hrun block _
  exact poll_block_readFrom block hrun

/-- What a poll reads comes from the inverter's slave. -/
theorem ReadFrom.slave_eq {slave : SlaveId} {tier : BlockTier} {sessions : Block → Nat → Session}
    {out : PolledBlocks} (h : ReadFrom slave tier sessions out) {name : String} {b : ParsedBlock}
    (hb : out.blocks.lookup name = some b) : b.slave = slave := by
  obtain ⟨block, hblock, -, -, attempt, frame, hquery, hparse⟩ := h name b hb
  obtain ⟨stream, hselect⟩ := port_query_frame hquery
  obtain ⟨-, rfl⟩ := (parse_block_eq_ok_iff hblock).mp hparse
  exact (select_response_spec hselect).1

theorem poll_inverter_spec (slave : SlaveId) (retry_attempts : Int) (tier : BlockTier)
    (sessions : Block → Nat → Session) :
    (poll_inverter slave retry_attempts tier sessions).any_success =
        got_block (poll_inverter slave retry_attempts tier sessions).out ∧
      OfTier tier (poll_inverter slave retry_attempts tier sessions).out := by
  unfold poll_inverter poll_blocks
  refine List.foldlRecOn (motive := fun run : PollRun =>
    run.any_success = got_block run.out ∧ OfTier tier run.out) BLOCKS.attach _ ?_ ?_
  · exact ⟨rfl, ofTier_empty tier⟩
  · intro run hrun block _
    exact poll_block_preserves block hrun

end inverter_bridge.daemon
