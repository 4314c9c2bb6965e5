import InverterBridge.Config
import InverterBridge.Daemon.Attempts
import InverterBridge.Lib.PyFloat

open Python
open inverter_bridge.modbus inverter_bridge.parsers inverter_bridge.srne_map
open inverter_bridge.aggregator inverter_bridge.config

namespace inverter_bridge.daemon

/-- A call of `port.query`: how it ends, and the seconds it takes. -/
structure QueryCall where
  result : QueryResult
  duration : ℚ

/-- `time.sleep(secs)`: the seconds that pass. The platform's clock takes at most `longest`. -/
def time_sleep (longest : ℚ) : PyFloat → Except PyError ℚ
  | .finite secs =>
    if longest < |secs| then .error (.OverflowError "timestamp out of range for platform time_t")
    else if secs < 0 then .error (.ValueError "sleep length must be non-negative")
    else .ok secs
  | .nan => .error (.ValueError "Invalid value NaN (not a number)")
  | .inf | .neg_inf => .error (.OverflowError "timestamp out of range for platform time_t")

/-- `time.sleep(retry_backoff_s * (2 ** attempt))`: the integer is made a float first. -/
def sleep_backoff (longest : ℚ) (retry_backoff_s : PyFloat) (attempt : Nat) : Except PyError ℚ := do
  time_sleep longest (retry_backoff_s.times (← float_of_int (2 ^ attempt)))

/-- The attempts made for one block, and the seconds they took. -/
structure TimedRun extends BlockRun where
  elapsed : ℚ

/-- `for attempt in range(retry_attempts)`, from `attempt` on with `remaining` to go, whatever
the calls of `port.query` end with. -/
def timed_attempts (longest : ℚ) (retry_backoff_s : PyFloat) (calls : Nat → QueryCall)
    (attempt : Nat) : Nat → Except PyError TimedRun
  | 0 => .ok ⟨⟨[], none⟩, 0⟩
  | remaining + 1 =>
    let duration := (calls attempt).duration
    match (calls attempt).result with
    | .frame f => .ok ⟨⟨[.frame f], some f⟩, duration⟩
    -- exceptions are deterministic: no retry
    | .modbusException e => .ok ⟨⟨[.modbusException e], none⟩, duration⟩
    | .timeoutError =>
      -- the last attempt falls through without a pause
      if remaining = 0 then .ok ⟨⟨[.timeoutError], none⟩, duration⟩
      else do
        -- nothing in `_poll_inverter` catches what the pause raises
        let pause ← sleep_backoff longest retry_backoff_s attempt
        let rest ← timed_attempts longest retry_backoff_s calls (attempt + 1) remaining
        return ⟨⟨.timeoutError :: rest.results, rest.frame⟩, duration + pause + rest.elapsed⟩
    | .unexpected => .ok ⟨⟨[.unexpected], none⟩, duration⟩

/-- The local state of `_poll_inverter`, and the seconds since it was called. -/
structure TimedPoll extends PollRun where
  elapsed : ℚ

/-- The body of the loop over `BLOCKS`, with its pauses. -/
def timed_poll_block (longest : ℚ) (polling : PollingCfg) (tier : BlockTier)
    (calls : Block → Nat → QueryCall) (run : TimedPoll) (block : { block // block ∈ BLOCKS }) :
    Except PyError TimedPoll :=
  if block.1.tier ≠ tier then .ok run
  else do
    let attempts ← timed_attempts longest polling.retry_backoff_s (calls block.1) 0
      polling.retry_attempts.toNat
    let pause ← time_sleep longest polling.inter_query_delay_s
    return ⟨store_block run.toPollRun block attempts.toBlockRun,
      run.elapsed + attempts.elapsed + pause⟩

/-- `Daemon._poll_inverter(inv, tier)` with its pauses, up to the update of the fail count. -/
def timed_poll_inverter (longest : ℚ) (polling : PollingCfg) (tier : BlockTier)
    (calls : Block → Nat → QueryCall) : Except PyError TimedPoll :=
  BLOCKS.attach.foldlM (timed_poll_block longest polling tier calls) ⟨⟨.empty, false, []⟩, 0⟩

/-! ## The pauses -/

/-- `time.sleep` takes this number of seconds. -/
def CanSleep (longest : ℚ) (secs : PyFloat) : Prop := .finite 0 ≤ secs ∧ secs ≤ .finite longest

/-- The pause behind this attempt can be made: its power of two is a float, and `time.sleep`
takes the product. -/
def CanPause (longest : ℚ) (retry_backoff_s : PyFloat) (attempt : Nat) : Prop :=
  attempt < 1024 ∧ CanSleep longest (retry_backoff_s.times (2 ^ attempt))

theorem time_sleep_eq_ok_iff {longest : ℚ} {secs : PyFloat} {pause : ℚ} :
    time_sleep longest secs = .ok pause ↔ CanSleep longest secs ∧ pause = secs.value := by
  cases secs with
  | finite secs =>
    have hsleep : CanSleep longest (.finite secs) ↔ 0 ≤ secs ∧ secs ≤ longest :=
      and_congr decide_eq_true_iff decide_eq_true_iff
    rw [time_sleep, hsleep]
    split_ifs with hlong hneg
    · refine iff_of_false nofun fun h => ?_
      rw [abs_of_nonneg h.1.1] at hlong
      exact absurd h.1.2 (not_le.mpr hlong)
    · exact iff_of_false nofun fun h => absurd h.1.1 (not_le.mpr hneg)
    · rw [not_lt] at hlong hneg
      rw [Except.ok.injEq]
      exact ⟨fun heq => ⟨⟨hneg, (le_abs_self secs).trans hlong⟩, heq.symm⟩, fun h => h.2.symm⟩
  | inf => exact iff_of_false nofun fun h => absurd h.1.2 nofun
  | neg_inf => exact iff_of_false nofun fun h => absurd h.1.1 nofun
  | nan => exact iff_of_false nofun fun h => absurd h.1.1 nofun

theorem sleep_backoff_eq_ok_iff {longest : ℚ} {retry_backoff_s : PyFloat} {attempt : Nat}
    {pause : ℚ} :
    sleep_backoff longest retry_backoff_s attempt = .ok pause ↔
      CanPause longest retry_backoff_s attempt ∧ pause = retry_backoff_s.value * 2 ^ attempt := by
  rw [sleep_backoff, PyFloat.float_of_int_two_pow, CanPause]
  split_ifs with hattempt
  · rw [← PyFloat.value_times, and_iff_right hattempt]
    exact time_sleep_eq_ok_iff
  · exact iff_of_false nofun fun h => hattempt h.1.1

section attempts

variable {longest : ℚ} {retry_backoff_s : PyFloat} {calls : Nat → QueryCall}
  {attempt remaining : Nat} {run : TimedRun}

/-- An attempt that settles the block, or is the last one. -/
theorem timed_attempts_last
    (hlast : (calls attempt).result ≠ .timeoutError ∨ remaining = 0) :
    timed_attempts longest retry_backoff_s calls attempt (remaining + 1) =
      .ok ⟨⟨[(calls attempt).result], (calls attempt).result.frame?⟩,
        (calls attempt).duration⟩ := by
  rw [timed_attempts]
  cases hresult : (calls attempt).result with
  | timeoutError =>
    rw [hresult] at hlast
    simp [hlast.resolve_left (not_not.mpr rfl), QueryResult.frame?]
  | frame f | modbusException e | unexpected => rfl

/-- An attempt that is followed by others: the pause is made, and they return. -/
theorem timed_attempts_retry (hresult : (calls attempt).result = .timeoutError)
    (hremaining : 0 < remaining) :
    timed_attempts longest retry_backoff_s calls attempt (remaining + 1) = .ok run ↔
      CanPause longest retry_backoff_s attempt ∧ ∃ rest,
        timed_attempts longest retry_backoff_s calls (attempt + 1) remaining = .ok rest ∧
        run = ⟨⟨.timeoutError :: rest.results, rest.frame⟩,
          (calls attempt).duration + retry_backoff_s.value * 2 ^ attempt + rest.elapsed⟩ := by
  simp only [timed_attempts, hresult, hremaining.ne', if_false]
  constructor
  · intro hrun
    obtain ⟨pause, hpause, hrun⟩ := bind_eq_ok_iff.mp hrun
    obtain ⟨rest, hrest, hrun⟩ := bind_eq_ok_iff.mp hrun
    obtain ⟨hcan, rfl⟩ := sleep_backoff_eq_ok_iff.mp hpause
    cases hrun
    exact ⟨hcan, rest, hrest, rfl⟩
  · rintro ⟨hcan, rest, hrest, rfl⟩
    exact bind_eq_ok_iff.mpr ⟨_, sleep_backoff_eq_ok_iff.mpr ⟨hcan, rfl⟩,
      bind_eq_ok_iff.mpr ⟨rest, hrest, rfl⟩⟩

/-- The attempts' own induction: none, the last one, and one in front of others. -/
theorem timed_attempts_induction {motive : Nat → Nat → TimedRun → Prop}
    (none : ∀ attempt, motive attempt 0 ⟨⟨[], none⟩, 0⟩)
    (last : ∀ attempt remaining,
      (calls attempt).result ≠ .timeoutError ∨ remaining = 0 → motive attempt (remaining + 1)
        ⟨⟨[(calls attempt).result], (calls attempt).result.frame?⟩, (calls attempt).duration⟩)
    (retry : ∀ attempt remaining rest, (calls attempt).result = .timeoutError → 0 < remaining →
      motive (attempt + 1) remaining rest → motive attempt (remaining + 1)
        ⟨⟨.timeoutError :: rest.results, rest.frame⟩,
          (calls attempt).duration + retry_backoff_s.value * 2 ^ attempt + rest.elapsed⟩)
    (hrun : timed_attempts longest retry_backoff_s calls attempt remaining = .ok run) :
    motive attempt remaining run := by
  induction remaining generalizing attempt run with
  | zero =>
    cases hrun
    exact none attempt
  | succ remaining ih =>
    by_cases hlast : (calls attempt).result ≠ .timeoutError ∨ remaining = 0
    · rw [timed_attempts_last hlast] at hrun
      cases hrun
      exact last attempt remaining hlast
    · rw [not_or, not_not] at hlast
      have hremaining := Nat.pos_of_ne_zero hlast.2
      obtain ⟨-, rest, hrest, rfl⟩ := (timed_attempts_retry hlast.1 hremaining).mp hrun
      exact retry attempt remaining rest hlast.1 hremaining (ih hrest)

/-- The attempts return exactly when each pause that comes up can be made. -/
theorem timed_attempts_returns_iff :
    (∃ run, timed_attempts longest retry_backoff_s calls attempt remaining = .ok run) ↔
      ∀ k, k + 1 < remaining → (∀ j ≤ k, (calls (attempt + j)).result = .timeoutError) →
        CanPause longest retry_backoff_s (attempt + k) := by
  induction remaining generalizing attempt with
  | zero => exact iff_of_true ⟨_, rfl⟩ nofun
  | succ remaining ih =>
    by_cases hlast : (calls attempt).result ≠ .timeoutError ∨ remaining = 0
    · refine iff_of_true ⟨_, timed_attempts_last hlast⟩ fun k hk htimeouts => ?_
      obtain hresult | rfl := hlast
      · exact absurd (htimeouts 0 (Nat.zero_le k)) hresult
      · omega
    · rw [not_or, not_not] at hlast
      obtain ⟨hresult, hremaining⟩ := hlast
      rw [← ne_eq, ← Nat.pos_iff_ne_zero] at hremaining
      have hshift : ∀ j, attempt + 1 + j = attempt + (j + 1) := by omega
      have hrests := @ih (attempt + 1)
      simp only [hshift] at hrests
      constructor
      · rintro ⟨run, hrun⟩ k hk htimeouts
        obtain ⟨hcan, rest, hrest, -⟩ := (timed_attempts_retry hresult hremaining).mp hrun
        cases k with
        | zero => exact hcan
        | succ k =>
          exact hrests.mp ⟨rest, hrest⟩ k (by omega) fun j hj => htimeouts (j + 1) (by omega)
      · intro hpauses
        have hcan : CanPause longest retry_backoff_s attempt := by
          refine hpauses 0 (by omega) fun j hj => ?_
          rw [Nat.le_zero.mp hj]
          exact hresult
        obtain ⟨rest, hrest⟩ := hrests.mpr fun k hk htimeouts =>
          hpauses (k + 1) (by omega) fun j hj => by
            cases j with
            | zero => exact hresult
            | succ j => exact htimeouts j (by omega)
        exact ⟨_, (timed_attempts_retry hresult hremaining).mpr ⟨hcan, rest, hrest, rfl⟩⟩

/-- What the attempts bring does not depend on the time they take. -/
theorem toBlockRun_timed_attempts
    (hrun : timed_attempts longest retry_backoff_s calls attempt remaining = .ok run) :
    run.toBlockRun = attempts_of (fun k => (calls k).result) attempt remaining := by
  refine timed_attempts_induction (motive := fun attempt remaining run =>
    run.toBlockRun = attempts_of (fun k => (calls k).result) attempt remaining) ?_ ?_ ?_ hrun
  · exact fun attempt => rfl
  · intro attempt remaining hlast
    rw [attempts_of_succ]
    split_ifs with hresult
    · obtain rfl := hlast.resolve_left (not_not.mpr hresult)
      rw [hresult]
      rfl
    · rfl
  · intro attempt remaining rest hresult _ ih
    rw [attempts_of_succ, if_pos hresult, ← ih]

end attempts

/-! ## The poll -/

section polls

variable {longest : ℚ} {polling : PollingCfg} {tier : BlockTier} {calls : Block → Nat → QueryCall}
  {run final : TimedPoll} {block : { block // block ∈ BLOCKS }}
  {blocks : List { block // block ∈ BLOCKS }}

theorem timed_poll_block_of_ne (htier : block.1.tier ≠ tier) :
    timed_poll_block longest polling tier calls run block = .ok run := by
  rw [timed_poll_block, if_pos htier]

/-- The loop body for a block of the tier: its attempts, what is stored of them, and the pause
behind them. -/
theorem timed_poll_block_of_tier (htier : block.1.tier = tier) :
    timed_poll_block longest polling tier calls run block = .ok final ↔
      CanSleep longest polling.inter_query_delay_s ∧ ∃ attempts,
        timed_attempts longest polling.retry_backoff_s (calls block.1) 0
          polling.retry_attempts.toNat = .ok attempts ∧
        final = ⟨store_block run.toPollRun block attempts.toBlockRun,
          run.elapsed + attempts.elapsed + polling.inter_query_delay_s.value⟩ := by
  rw [timed_poll_block, if_neg (not_not.mpr htier)]
  constructor
  · intro hblock
    obtain ⟨attempts, hattempts, hblock⟩ := bind_eq_ok_iff.mp hblock
    obtain ⟨pause, hpause, hblock⟩ := bind_eq_ok_iff.mp hblock
    obtain ⟨hcan, rfl⟩ := time_sleep_eq_ok_iff.mp hpause
    cases hblock
    exact ⟨hcan, attempts, hattempts, rfl⟩
  · rintro ⟨hcan, attempts, hattempts, rfl⟩
    exact bind_eq_ok_iff.mpr ⟨attempts, hattempts,
      bind_eq_ok_iff.mpr ⟨_, time_sleep_eq_ok_iff.mpr ⟨hcan, rfl⟩, rfl⟩⟩

/-- The loop's own induction: at the end, past a block of another tier, past one of its own. -/
theorem timed_poll_blocks_induction
    {motive : List { block // block ∈ BLOCKS } → TimedPoll → TimedPoll → Prop}
    (nil : ∀ run, motive [] run run)
    (other : ∀ block blocks run final, block.1.tier ≠ tier → motive blocks run final →
      motive (block :: blocks) run final)
    (own : ∀ block blocks run attempts final, block.1.tier = tier →
      timed_attempts longest polling.retry_backoff_s (calls block.1) 0
        polling.retry_attempts.toNat = .ok attempts →
      motive blocks ⟨store_block run.toPollRun block attempts.toBlockRun,
        run.elapsed + attempts.elapsed + polling.inter_query_delay_s.value⟩ final →
      motive (block :: blocks) run final)
    (hfinal : blocks.foldlM (timed_poll_block longest polling tier calls) run = .ok final) :
    motive blocks run final := by
  induction blocks generalizing run with
  | nil =>
    cases hfinal
    exact nil _
  | cons block blocks ih =>
    rw [List.foldlM_cons] at hfinal
    by_cases htier : block.1.tier = tier
    · obtain ⟨next, hnext, hfinal⟩ := bind_eq_ok_iff.mp hfinal
      obtain ⟨-, attempts, hattempts, rfl⟩ := (timed_poll_block_of_tier htier).mp hnext
      exact own block blocks run attempts final htier hattempts (ih hfinal)
    · rw [timed_poll_block_of_ne htier] at hfinal
      exact other block blocks run final htier (ih hfinal)

/-- The loop over some blocks returns exactly when the attempts for each one of the tier do, and
the pause behind it can be made. -/
theorem timed_poll_blocks_returns_iff :
    (∃ final, blocks.foldlM (timed_poll_block longest polling tier calls) run = .ok final) ↔
      ∀ block ∈ blocks, block.1.tier = tier →
        CanSleep longest polling.inter_query_delay_s ∧ ∃ attempts,
          timed_attempts longest polling.retry_backoff_s (calls block.1) 0
            polling.retry_attempts.toNat = .ok attempts := by
  induction blocks generalizing run with
  | nil => exact iff_of_true ⟨run, rfl⟩ nofun
  | cons block blocks ih =>
    rw [List.foldlM_cons, List.forall_mem_cons]
    by_cases htier : block.1.tier = tier
    · constructor
      · rintro ⟨final, hfinal⟩
        obtain ⟨next, hnext, hfinal⟩ := bind_eq_ok_iff.mp hfinal
        obtain ⟨hcan, attempts, hattempts, -⟩ := (timed_poll_block_of_tier htier).mp hnext
        exact ⟨fun _ => ⟨hcan, attempts, hattempts⟩, ih.mp ⟨final, hfinal⟩⟩
      · rintro ⟨hblock, hblocks⟩
        obtain ⟨hcan, attempts, hattempts⟩ := hblock htier
        rw [(timed_poll_block_of_tier htier).mpr ⟨hcan, attempts, hattempts, rfl⟩]
        exact ih.mpr hblocks
    · rw [timed_poll_block_of_ne htier, and_iff_right fun h => absurd h htier]
      exact ih

/-- What a poll returns does not depend on the time it takes. -/
theorem toPollRun_timed_poll_inverter
    (hrun : timed_poll_inverter longest polling tier calls = .ok run) :
    run.toPollRun =
      poll_blocks polling.retry_attempts tier fun block k => (calls block k).result := by
  refine timed_poll_blocks_induction (motive := fun blocks run final => final.toPollRun =
    blocks.foldl (poll_block polling.retry_attempts tier fun block k => (calls block k).result)
      run.toPollRun) ?_ ?_ ?_ hrun
  · exact fun run => rfl
  · intro block blocks run final htier ih
    rw [List.foldl_cons, poll_block_of_ne htier]
    exact ih
  · intro block blocks run attempts final htier hattempts ih
    rw [List.foldl_cons, poll_block_of_tier htier, ← toBlockRun_timed_attempts hattempts]
    exact ih

end polls

end inverter_bridge.daemon
