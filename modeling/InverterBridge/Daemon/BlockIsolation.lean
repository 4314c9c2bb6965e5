import InverterBridge.Daemon.TimedPoll

open Python
open inverter_bridge.modbus inverter_bridge.parsers inverter_bridge.srne_map
open inverter_bridge.serial_io inverter_bridge.aggregator inverter_bridge.config

namespace inverter_bridge.daemon

/-- How the calls of `port.query` end. -/
def outcomes (calls : Block → Nat → QueryCall) (block : Block) (attempt : Nat) : QueryResult :=
  (calls block attempt).result

/-- The pauses that come up in a poll with these calls can be made: the one behind each attempt
of a block that has only timed out so far and is tried again, and the one behind each block. -/
structure PausesPossible (longest : ℚ) (polling : PollingCfg) (tier : BlockTier)
    (calls : Block → Nat → QueryCall) : Prop where
  retry_backoff_s : ∀ block ∈ BLOCKS, block.tier = tier → ∀ attempt : Nat,
    (attempt : Int) + 1 < polling.retry_attempts →
    (∀ k ≤ attempt, outcomes calls block k = .timeoutError) →
    CanPause longest polling.retry_backoff_s attempt
  inter_query_delay_s : CanSleep longest polling.inter_query_delay_s

/-- All pauses that can come up in some poll can be made. -/
structure EveryPausePossible (longest : ℚ) (polling : PollingCfg) : Prop where
  retry_backoff_s : ∀ attempt : Nat, (attempt : Int) + 1 < polling.retry_attempts →
    CanPause longest polling.retry_backoff_s attempt
  inter_query_delay_s : CanSleep longest polling.inter_query_delay_s

section

variable {longest : ℚ} {polling : PollingCfg} {tier : BlockTier}
  {calls : Block → Nat → QueryCall} {run : TimedPoll}

theorem EveryPausePossible.pausesPossible (h : EveryPausePossible longest polling) :
    PausesPossible longest polling tier calls :=
  ⟨fun _ _ _ attempt hattempt _ => h.retry_backoff_s attempt hattempt, h.inter_query_delay_s⟩

theorem exists_block_of_tier (tier : BlockTier) : ∃ block ∈ BLOCKS, block.tier = tier := by
  cases tier <;> decide

/-- A poll returns exactly when the pauses that come up can be made. -/
theorem timed_poll_inverter_returns_iff :
    (∃ run, timed_poll_inverter longest polling tier calls = .ok run) ↔
      PausesPossible longest polling tier calls := by
  have hattempts (block : Block) : (∃ attempts, timed_attempts longest polling.retry_backoff_s
      (calls block) 0 polling.retry_attempts.toNat = .ok attempts) ↔
      ∀ attempt : Nat, (attempt : Int) + 1 < polling.retry_attempts →
        (∀ k ≤ attempt, outcomes calls block k = .timeoutError) →
        CanPause longest polling.retry_backoff_s attempt := by
    rw [timed_attempts_returns_iff]
    refine forall_congr' fun attempt => imp_congr (by omega) ?_
    simp only [Nat.zero_add, outcomes]
  rw [timed_poll_inverter, timed_poll_blocks_returns_iff]
  constructor
  · intro hblocks
    obtain ⟨block, hblock, htier⟩ := exists_block_of_tier tier
    refine ⟨fun block hblock htier => ?_, (hblocks ⟨block, hblock⟩ (List.mem_attach _ _) htier).1⟩
    exact (hattempts block).mp (hblocks ⟨block, hblock⟩ (List.mem_attach _ _) htier).2
  · rintro ⟨hbackoffs, hdelay⟩ block - htier
    exact ⟨hdelay, (hattempts block.1).mpr (hbackoffs block.1 block.2 htier)⟩

/-- What a poll returns is made of the outcomes of its own queries, block by block. -/
theorem isolatesBlocks_timed_poll_inverter (hretry : 1 ≤ polling.retry_attempts)
    (hrun : timed_poll_inverter longest polling tier calls = .ok run) :
    IsolatesBlocks polling.retry_attempts tier (outcomes calls) run.toPollRun := by
  rw [toPollRun_timed_poll_inverter hrun]
  exact isolatesBlocks_poll_blocks hretry tier _

/-- Other outcomes for one block change nothing for another. -/
theorem IsolatesBlocks.lookup_eq {retry_attempts : Int}
    {results results' : Block → Nat → QueryResult} {run run' : PollRun}
    (h : IsolatesBlocks retry_attempts tier results run)
    (h' : IsolatesBlocks retry_attempts tier results' run') {block : Block}
    (hblock : block ∈ BLOCKS) (hsame : results' block = results block) :
    run'.out.blocks.lookup block.name = run.out.blocks.lookup block.name := by
  refine Option.ext fun b => ?_
  rw [h'.decoded block hblock, h.decoded block hblock, DecodedFrom, DecodedFrom,
    hsame]

end

/-- Block isolation and bounded retries, with the pauses of the code: a poll with any outcomes of
its queries returns, tries each block of its tier at least once and at most `retry_attempts` times,
and holds exactly the blocks whose first outcome that is no timeout is a frame `parse_block`
accepts, whatever the other blocks got, exactly when the pauses that come up can be made. It does so
with all outcomes exactly when every pause that can come up can be made. -/
theorem poll_isolates_blocks_iff (longest : ℚ) (polling : PollingCfg) (tier : BlockTier)
    (hretry : 1 ≤ polling.retry_attempts) :
    (∀ calls, (∃ run, timed_poll_inverter longest polling tier calls = .ok run ∧
        IsolatesBlocks polling.retry_attempts tier (outcomes calls) run.toPollRun ∧
        ∀ calls' run', timed_poll_inverter longest polling tier calls' = .ok run' →
          ∀ block ∈ BLOCKS, outcomes calls' block = outcomes calls block →
            run'.out.blocks.lookup block.name = run.out.blocks.lookup block.name) ↔
      PausesPossible longest polling tier calls) ∧
    ((∀ calls, ∃ run, timed_poll_inverter longest polling tier calls = .ok run ∧
        IsolatesBlocks polling.retry_attempts tier (outcomes calls) run.toPollRun ∧
        ∀ calls', ∃ run', timed_poll_inverter longest polling tier calls' = .ok run' ∧
          ∀ block ∈ BLOCKS, outcomes calls' block = outcomes calls block →
            run'.out.blocks.lookup block.name = run.out.blocks.lookup block.name) ↔
      EveryPausePossible longest polling) := by
  constructor
  · intro calls
    rw [← timed_poll_inverter_returns_iff]
    constructor
    · rintro ⟨run, hrun, -⟩
      exact ⟨run, hrun⟩
    · rintro ⟨run, hrun⟩
      have hisolates := isolatesBlocks_timed_poll_inverter hretry hrun
      refine ⟨run, hrun, hisolates, fun calls' run' hrun' block hblock hsame => ?_⟩
      exact hisolates.lookup_eq (isolatesBlocks_timed_poll_inverter hretry hrun') hblock hsame
  · constructor
    · intro hreturns
      -- a poll without an answer makes all the pauses there are
      obtain ⟨run, hrun, -⟩ := hreturns fun _ _ => ⟨.timeoutError, 0⟩
      obtain ⟨hbackoffs, hdelay⟩ := timed_poll_inverter_returns_iff.mp ⟨run, hrun⟩
      obtain ⟨block, hblock, htier⟩ := exists_block_of_tier tier
      exact ⟨fun attempt hattempt => hbackoffs block hblock htier attempt hattempt fun _ _ => rfl,
        hdelay⟩
    · intro hpauses calls
      obtain ⟨run, hrun⟩ := timed_poll_inverter_returns_iff.mpr hpauses.pausesPossible
      have hisolates := isolatesBlocks_timed_poll_inverter hretry hrun
      refine ⟨run, hrun, hisolates, fun calls' => ?_⟩
      obtain ⟨run', hrun'⟩ := timed_poll_inverter_returns_iff.mpr hpauses.pausesPossible
      refine ⟨run', hrun', fun block hblock hsame => ?_⟩
      exact hisolates.lookup_eq (isolatesBlocks_timed_poll_inverter hretry hrun') hblock hsame

/-- Every first query times out, every second one brings a frame of zeros. -/
def second_attempt (block : Block) (attempt : Nat) : QueryCall :=
  if attempt = 0 then ⟨.timeoutError, 3 / 2⟩
  else ⟨.frame ⟨1, FC_READ_HOLDING, List.replicate block.count 0⟩, 1 / 10⟩

theorem everyPausePossible_default : EveryPausePossible 9000000000 {} := by
  refine ⟨fun attempt hattempt => ?_, by decide +kernel, by decide +kernel⟩
  change (attempt : Int) + 1 < 3 at hattempt
  obtain rfl | rfl : attempt = 0 ∨ attempt = 1 := by omega
  · exact ⟨by decide, by decide +kernel, by decide +kernel⟩
  · exact ⟨by decide, by decide +kernel, by decide +kernel⟩

theorem poll_isolates_blocks_iff_second_attempt :
    ∃ run, timed_poll_inverter 9000000000 {} .HOT second_attempt = .ok run ∧
      IsolatesBlocks 3 .HOT (outcomes second_attempt) run.toPollRun ∧
      ∀ calls', ∃ run', timed_poll_inverter 9000000000 {} .HOT calls' = .ok run' ∧
        ∀ block ∈ BLOCKS, outcomes calls' block = outcomes second_attempt block →
          run'.out.blocks.lookup block.name = run.out.blocks.lookup block.name :=
  (poll_isolates_blocks_iff 9000000000 {} .HOT (by decide)).2.mpr everyPausePossible_default
    second_attempt

/-- With 1100 attempts and no backoff `2 ** attempt` is at last too large for a float: the
`OverflowError` leaves the poll of an inverter that does not answer. -/
theorem poll_without_answer_raises :
    ¬ ∃ longest : ℚ, ∀ (polling : PollingCfg) (tier : BlockTier) (calls : Block → Nat → QueryCall),
      1 ≤ polling.retry_attempts → .finite 0 ≤ polling.retry_backoff_s →
      .finite 0 ≤ polling.inter_query_delay_s →
      ∃ run, timed_poll_inverter longest polling tier calls = .ok run ∧
        IsolatesBlocks polling.retry_attempts tier (outcomes calls) run.toPollRun := by
  rintro ⟨longest, hall⟩
  let polling : PollingCfg := { retry_attempts := 1100, retry_backoff_s := .finite 0 }
  obtain ⟨run, hrun, -⟩ := hall polling .HOT (fun _ _ => ⟨.timeoutError, 1 / 2⟩) (by decide)
    (by decide +kernel) (by decide +kernel)
  obtain ⟨hbackoffs, -⟩ := timed_poll_inverter_returns_iff.mp ⟨run, hrun⟩
  obtain ⟨block, hblock, htier⟩ := exists_block_of_tier .HOT
  exact absurd (hbackoffs block hblock htier 1024 (by decide) fun _ _ => rfl).1 (by decide)

end inverter_bridge.daemon
