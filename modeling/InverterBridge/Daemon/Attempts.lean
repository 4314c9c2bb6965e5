import InverterBridge.Daemon.Poll

/-! What one poll makes of the outcomes of its queries. -/

open Python
open inverter_bridge.modbus inverter_bridge.parsers inverter_bridge.srne_map
open inverter_bridge.aggregator

namespace inverter_bridge.daemon

/-! ## The attempts for one block -/

/-- The attempts end with `r`: the first of `n` outcomes that is no timeout. -/
def Settles (results : Nat → QueryResult) (n : Nat) (r : QueryResult) : Prop :=
  r ≠ .timeoutError ∧ ∃ k < n, (∀ j < k, results j = .timeoutError) ∧ results k = r

theorem settles_succ {results : Nat → QueryResult} {n : Nat} {r : QueryResult} :
    Settles results (n + 1) r ↔ r ≠ .timeoutError ∧
      (results 0 = r ∨ results 0 = .timeoutError ∧ Settles (fun k => results (k + 1)) n r) := by
  constructor
  · rintro ⟨hr, k, hk, htimeouts, hresult⟩
    refine ⟨hr, ?_⟩
    cases k with
    | zero => exact .inl hresult
    | succ k =>
      refine .inr ⟨htimeouts 0 (Nat.succ_pos k), hr, k, Nat.lt_of_succ_lt_succ hk, ?_, hresult⟩
      exact fun j hj => htimeouts (j + 1) (Nat.succ_lt_succ hj)
  · rintro ⟨hr, hresult | ⟨hzero, -, k, hk, htimeouts, hresult⟩⟩
    · exact ⟨hr, 0, Nat.succ_pos n, nofun, hresult⟩
    · refine ⟨hr, k + 1, Nat.succ_lt_succ hk, fun j hj => ?_, hresult⟩
      cases j with
      | zero => exact hzero
      | succ j => exact htimeouts j (Nat.lt_of_succ_lt_succ hj)

/-- The frame a query brought. -/
def QueryResult.frame? : QueryResult → Option ModbusFrame
  | .frame f => some f
  | _ => none

theorem QueryResult.frame?_eq_some {r : QueryResult} {f : ModbusFrame} :
    r.frame? = some f ↔ r = .frame f := by
  cases r <;> simp [frame?]

section attempts

variable {results : Nat → QueryResult}

/-- What an attempt does: it settles the block, or the others follow. -/
theorem attempts_of_succ (attempt remaining : Nat) :
    attempts_of results attempt (remaining + 1) =
      if results attempt = .timeoutError then
        ⟨.timeoutError :: (attempts_of results (attempt + 1) remaining).results,
          (attempts_of results (attempt + 1) remaining).frame⟩
      else ⟨[results attempt], (results attempt).frame?⟩ := by
  rw [attempts_of]
  cases hresult : results attempt with
  | timeoutError => rw [if_pos rfl]
  | frame f | modbusException e | unexpected => simp [QueryResult.frame?]

/-- The frame the attempts end with is the first outcome that is no timeout. -/
theorem attempts_of_frame_iff {attempt remaining : Nat} (f : ModbusFrame) :
    (attempts_of results attempt remaining).frame = some f ↔
      Settles (fun k => results (attempt + k)) remaining (.frame f) := by
  induction remaining generalizing attempt with
  | zero =>
    refine iff_of_false nofun ?_
    rintro ⟨-, k, hk, -⟩
    exact absurd hk (Nat.not_lt_zero k)
  | succ remaining ih =>
    have hshift : ∀ k, attempt + 1 + k = attempt + (k + 1) := by omega
    rw [attempts_of_succ, settles_succ, Nat.add_zero]
    split_ifs with hresult
    · rw [ih]
      simp only [hshift]
      refine ⟨fun hsettles => ⟨nofun, .inr ⟨hresult, hsettles⟩⟩, ?_⟩
      rintro ⟨-, hframe | ⟨-, hsettles⟩⟩
      · exact absurd (hresult.symm.trans hframe) nofun
      · exact hsettles
    · rw [QueryResult.frame?_eq_some]
      refine ⟨fun hframe => ⟨nofun, .inl hframe⟩, ?_⟩
      rintro ⟨-, hframe | ⟨htimeout, -⟩⟩
      · exact hframe
      · exact absurd htimeout hresult

/-- There is at least one attempt when there may be, and there are no more than allowed, with
the outcomes of the calls in order. -/
theorem attempts_of_results (attempt remaining : Nat) :
    min 1 remaining ≤ (attempts_of results attempt remaining).results.length ∧
      (attempts_of results attempt remaining).results.length ≤ remaining ∧
      (attempts_of results attempt remaining).results =
        (List.range (attempts_of results attempt remaining).results.length).map
          fun k => results (attempt + k) := by
  induction remaining generalizing attempt with
  | zero => exact ⟨Nat.le_refl 0, Nat.le_refl 0, rfl⟩
  | succ remaining ih =>
    rw [attempts_of_succ]
    split_ifs with hresult
    · obtain ⟨-, hle, hrest⟩ := ih (attempt + 1)
      have hshift : ∀ k, attempt + 1 + k = attempt + (k + 1) := by omega
      refine ⟨by rw [List.length_cons]; omega, by rw [List.length_cons]; omega, ?_⟩
      simp only [hshift] at hrest
      rw [List.length_cons, List.range_succ_eq_map, List.map_cons, List.map_map]
      exact congrArg₂ List.cons hresult.symm hrest
    · exact ⟨Nat.min_le_left _ _, Nat.le_add_left 1 remaining, rfl⟩

end attempts

/-! ## The loop over the blocks -/

@[simp]
theorem queries_store_block (run : PollRun) (block : { block // block ∈ BLOCKS })
    (attempts : BlockRun) :
    (store_block run block attempts).queries = run.queries ++ [(block.1, attempts.results)] := by
  obtain ⟨block, hblock⟩ := block
  unfold store_block
  dsimp only
  split
  · rfl
  · split <;> rfl

/-- Storing a block touches no other name. -/
theorem lookup_store_block_ne (run : PollRun) {block : { block // block ∈ BLOCKS }}
    (attempts : BlockRun) {name : String} (hname : name ≠ block.1.name) :
    (store_block run block attempts).out.blocks.lookup name = run.out.blocks.lookup name := by
  obtain ⟨block, hblock⟩ := block
  unfold store_block
  dsimp only
  split
  · rfl
  · split
    · exact AList.lookup_insert_ne hname
    · rfl

/-- What is stored under a name that was free is what the attempts' frame is decoded to. -/
theorem lookup_store_block_self {run : PollRun} {block : { block // block ∈ BLOCKS }}
    (attempts : BlockRun) (hfree : run.out.blocks.lookup block.1.name = none) (b : ParsedBlock) :
    (store_block run block attempts).out.blocks.lookup block.1.name = some b ↔
      ∃ frame, attempts.frame = some frame ∧ parse_block block.1.addr frame = .ok b := by
  obtain ⟨block, hblock⟩ := block
  unfold store_block
  dsimp only
  split
  case h_1 hframe =>
    rw [hfree, hframe]
    exact iff_of_false nofun nofun
  case h_2 frame hframe =>
    split
    case h_1 parsed hparse =>
      rw [PolledBlocks.store, AList.lookup_insert, Option.some.injEq]
      constructor
      · rintro rfl
        exact ⟨frame, hframe, hparse⟩
      · rintro ⟨frame', hframe', hparse'⟩
        rw [hframe, Option.some.injEq] at hframe'
        rw [← hframe', hparse, Except.ok.injEq] at hparse'
        exact hparse'
    case h_2 e hparse =>
      rw [hfree]
      refine iff_of_false nofun ?_
      rintro ⟨frame', hframe', hparse'⟩
      rw [hframe, Option.some.injEq] at hframe'
      rw [← hframe', hparse] at hparse'
      cases hparse'

section polls

variable {retry_attempts : Int} {tier : BlockTier} {results : Block → Nat → QueryResult}
  {run : PollRun} {block : { block // block ∈ BLOCKS }} {blocks : List { block // block ∈ BLOCKS }}

theorem poll_block_of_ne (htier : block.1.tier ≠ tier) :
    poll_block retry_attempts tier results run block = run := by
  rw [poll_block, if_pos htier]

theorem poll_block_of_tier (htier : block.1.tier = tier) :
    poll_block retry_attempts tier results run block =
      store_block run block (attempts_of (results block.1) 0 retry_attempts.toNat) := by
  rw [poll_block, if_neg (not_not.mpr htier)]

/-- Every block of the tier is queried, in order, and no other. -/
theorem queried_blocks :
    (blocks.foldl (poll_block retry_attempts tier results) run).queries.map Prod.fst =
      run.queries.map Prod.fst ++ (blocks.map Subtype.val).filter fun b => b.tier = tier := by
  induction blocks generalizing run with
  | nil => simp
  | cons block blocks ih =>
    rw [List.foldl_cons, ih, List.map_cons]
    by_cases htier : block.1.tier = tier
    · rw [poll_block_of_tier htier, queries_store_block, List.map_append, List.append_assoc,
        List.filter_cons_of_pos (by simpa using htier)]
      rfl
    · rw [poll_block_of_ne htier, List.filter_cons_of_neg (by simpa using htier)]

/-- The queries of a block are its own calls, from the first on, and no more than allowed. -/
def OwnQueries (retry_attempts : Int) (results : Block → Nat → QueryResult)
    (query : Block × List QueryResult) : Prop :=
  min 1 retry_attempts.toNat ≤ query.2.length ∧ query.2.length ≤ retry_attempts.toNat ∧
    query.2 = (List.range query.2.length).map (results query.1)

theorem own_queries_poll_block (hrun : ∀ query ∈ run.queries, OwnQueries retry_attempts results query) :
    ∀ query ∈ (poll_block retry_attempts tier results run block).queries,
      OwnQueries retry_attempts results query := by
  by_cases htier : block.1.tier = tier
  · rw [poll_block_of_tier htier, queries_store_block]
    intro query hquery
    rw [List.mem_append, List.mem_singleton] at hquery
    obtain hquery | rfl := hquery
    · exact hrun query hquery
    · have hresults := @attempts_of_results (results block.1) 0 retry_attempts.toNat
      simp only [Nat.zero_add] at hresults
      exact hresults
  · rw [poll_block_of_ne htier]
    exact hrun

/-- The loop leaves the names of other blocks alone. -/
theorem lookup_other_name {name : String} (hname : ∀ block ∈ blocks, name ≠ block.1.name) :
    (blocks.foldl (poll_block retry_attempts tier results) run).out.blocks.lookup name =
      run.out.blocks.lookup name := by
  induction blocks generalizing run with
  | nil => rfl
  | cons block blocks ih =>
    rw [List.forall_mem_cons] at hname
    rw [List.foldl_cons, ih hname.2]
    by_cases htier : block.1.tier = tier
    · rw [poll_block_of_tier htier]
      exact lookup_store_block_ne _ _ hname.1
    · rw [poll_block_of_ne htier]

/-- The block is decoded to `b`, from the frame its own attempts end with. -/
def DecodedFrom (retry_attempts : Int) (results : Block → Nat → QueryResult) (block : Block)
    (b : ParsedBlock) : Prop :=
  ∃ frame, Settles (results block) retry_attempts.toNat (.frame frame) ∧
    parse_block block.addr frame = .ok b

/-- A block is in the dict, decoded from its own attempts, exactly when it is of the tier and
they end with a frame that can be parsed. -/
theorem lookup_own_name (hnames : (blocks.map fun block => block.1.name).Nodup)
    (hfree : ∀ block ∈ blocks, run.out.blocks.lookup block.1.name = none) :
    ∀ block ∈ blocks, ∀ b,
      (blocks.foldl (poll_block retry_attempts tier results) run).out.blocks.lookup block.1.name =
          some b ↔
        block.1.tier = tier ∧ DecodedFrom retry_attempts results block.1 b := by
  induction blocks generalizing run with
  | nil => exact fun block hblock => absurd hblock List.not_mem_nil
  | cons head blocks ih =>
    rw [List.map_cons, List.nodup_cons] at hnames
    rw [List.forall_mem_cons] at hfree
    have hother : ∀ block ∈ blocks, head.1.name ≠ block.1.name := fun block hblock heq =>
      hnames.1 (List.mem_map.mpr ⟨block, hblock, heq.symm⟩)
    rw [List.foldl_cons]
    by_cases htier : head.1.tier = tier
    · rw [poll_block_of_tier htier]
      have hframe := @attempts_of_frame_iff (results head.1) 0 retry_attempts.toNat
      simp only [Nat.zero_add] at hframe
      have hfree' : ∀ block ∈ blocks, (store_block run head
          (attempts_of (results head.1) 0 retry_attempts.toNat)).out.blocks.lookup block.1.name =
            none := by
        intro block hblock
        rw [lookup_store_block_ne _ _ (hother block hblock).symm]
        exact hfree.2 block hblock
      refine List.forall_mem_cons.mpr ⟨fun b => ?_, ih hnames.2 hfree'⟩
      rw [lookup_other_name hother, lookup_store_block_self _ hfree.1]
      simp only [hframe]
      exact (and_iff_right htier).symm
    · rw [poll_block_of_ne htier]
      refine List.forall_mem_cons.mpr ⟨fun b => ?_, ih hnames.2 hfree.2⟩
      rw [lookup_other_name hother, hfree.1]
      exact iff_of_false nofun fun h => htier h.1

end polls

/-- A poll whose queries end like this holds what each block of the tier made of its own. -/
structure IsolatesBlocks (retry_attempts : Int) (tier : BlockTier)
    (results : Block → Nat → QueryResult) (run : PollRun) : Prop where
  blocks : run.queries.map Prod.fst = BLOCKS.filter fun block => block.tier = tier
  queries : ∀ query ∈ run.queries, 1 ≤ query.2.length ∧
    (query.2.length : Int) ≤ retry_attempts ∧
    query.2 = (List.range query.2.length).map (results query.1)
  names : ∀ name ∈ run.out.blocks, ∃ block ∈ BLOCKS, block.name = name
  decoded : ∀ block ∈ BLOCKS, ∀ b, run.out.blocks.lookup block.name = some b ↔
    block.tier = tier ∧ DecodedFrom retry_attempts results block b

theorem lookup_poll_blocks_iff {retry_attempts : Int} {tier : BlockTier}
    {results : Block → Nat → QueryResult} {block : Block} (hblock : block ∈ BLOCKS)
    (b : ParsedBlock) :
    (poll_blocks retry_attempts tier results).out.blocks.lookup block.name = some b ↔
      block.tier = tier ∧ DecodedFrom retry_attempts results block b :=
  lookup_own_name (by decide) (fun _ _ => rfl) ⟨block, hblock⟩ (List.mem_attach _ _) b

/-- The loop isolates the blocks, whatever their queries end with. -/
theorem isolatesBlocks_poll_blocks {retry_attempts : Int} (hretry : 1 ≤ retry_attempts)
    (tier : BlockTier) (results : Block → Nat → QueryResult) :
    IsolatesBlocks retry_attempts tier results (poll_blocks retry_attempts tier results) := by
  refine ⟨?_, ?_, ?_, fun block hblock => lookup_poll_blocks_iff hblock⟩
  · rw [poll_blocks, queried_blocks, List.attach_map_subtype_val]
    rfl
  · intro query hquery
    have hown := List.foldlRecOn (motive := fun run : PollRun =>
      ∀ query ∈ run.queries, OwnQueries retry_attempts results query) BLOCKS.attach
      (poll_block retry_attempts tier results) (b := ⟨.empty, false, []⟩) nofun
      fun run hrun block _ => own_queries_poll_block hrun
    obtain ⟨hmin, hmax, heq⟩ := hown query hquery
    exact ⟨by omega, by omega, heq⟩
  · intro name hname
    by_contra hno
    rw [Dict.mem_iff_lookup] at hname
    obtain ⟨b, hb⟩ := hname
    rw [poll_blocks, lookup_other_name fun block _ heq => hno ⟨block.1, block.2, heq.symm⟩] at hb
    cases hb

end inverter_bridge.daemon
