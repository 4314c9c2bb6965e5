import InverterBridge.Daemon.Executor
import InverterBridge.Daemon.History

open Python TransitionSystem
open inverter_bridge.config inverter_bridge.crc inverter_bridge.modbus inverter_bridge.parsers
open inverter_bridge.srne_map inverter_bridge.serial_io inverter_bridge.aggregator

namespace inverter_bridge.daemon

variable {κ δ : Type} [DecidableEq κ] {d : Daemon κ δ} {s s' : State κ} {a : Action}

/-- The worker of the inverter at `i` read these sessions and was done in time, in cycle
`n`. -/
def InTime (d : Daemon κ δ) (acts : List Action) (n i : Nat) (tier : BlockTier)
    (sessions : Block → Nat → Session) : Prop :=
  ∃ t, Occurred (step d) init acts (Reads d n i tier t sessions) ∧
    Occurred (step d) init acts (Collects n i t)

/-! ## The slots of the returned list -/

theorem InTime.append {acts : List Action} (hrun : run (step d) init acts = some s) {n i : Nat}
    {tier : BlockTier} {sessions : Block → Nat → Session} (h : InTime d acts n i tier sessions) :
    InTime d (acts ++ [a]) n i tier sessions := by
  obtain ⟨t, hreads, hcollects⟩ := h
  exact ⟨t, (occurred_append_singleton_iff hrun).mpr (.inl hreads),
    (occurred_append_singleton_iff hrun).mpr (.inl hcollects)⟩

/-- A poll that was in time was so before the last step, or was collected by it: after it
is collected a worker reads nothing more. -/
theorem InTime.of_append {acts : List Action} (hrun : run (step d) init acts = some s)
    (hstep : step d s a = some s') {n i : Nat} {tier : BlockTier}
    {sessions : Block → Nat → Session} (h : InTime d (acts ++ [a]) n i tier sessions) :
    InTime d acts n i tier sessions ∨ ∃ t, Collects n i t s a ∧
      Occurred (step d) init (acts ++ [a]) (Reads d n i tier t sessions) := by
  obtain ⟨t, hreads, hcollects⟩ := h
  cases (occurred_append_singleton_iff hrun).mp hcollects with
  | inr hnow => exact .inr ⟨t, hnow, hreads⟩
  | inl hcollected =>
    cases (occurred_append_singleton_iff hrun).mp hreads with
    | inl hread => exact .inl ⟨t, hread, hcollected⟩
    | inr hnow =>
      obtain ⟨mid, b, mid', rest, ⟨-, -, -, task, out, htask, hdone⟩, -, hmid, hrest⟩ :=
        hcollected.exists_run hrun
      obtain ⟨phase, hphase, hresult⟩ := task_run (show run (step d) mid (b :: rest) = some s by
        rw [run_cons, hmid, Option.bind_some, hrest]) htask
      have hout := hresult out (by rw [hdone]; rfl)
      obtain ⟨rfl, -⟩ := hnow
      cases step_eq_some_iff.mp hstep with
      | settle hother hrunning hinv =>
        rw [hphase, Option.some.injEq] at hother
        rw [← hother] at hrunning
        dsimp only at hrunning
        rw [hrunning] at hout
        cases hout

/-- Slot `i` of cycle `n` holds what the poll in time has read, or nothing. -/
structure SlotOf (d : Daemon κ δ) (acts : List Action) (n i : Nat) (tier : BlockTier)
    (out : PolledBlocks) : Prop where
  read : ∀ inv sessions, d.inverters[i]? = some inv → InTime d acts n i tier sessions →
    out = (poll_inverter inv.slave d.retry_attempts tier sessions).out
  empty : (∀ sessions, ¬ InTime d acts n i tier sessions) → out = .empty

theorem SlotOf.append {acts : List Action} (hrun : run (step d) init acts = some s)
    (hstep : step d s a = some s') {n i : Nat} {tier : BlockTier} {out : PolledBlocks}
    (hnot : ∀ t, ¬ Collects n i t s a) (h : SlotOf d acts n i tier out) :
    SlotOf d (acts ++ [a]) n i tier out where
  read inv sessions hinv hin := by
    obtain hold | ⟨t, hnow, -⟩ := hin.of_append hrun hstep
    · exact h.read inv sessions hinv hold
    · exact absurd hnow (hnot t)
  empty hnone := h.empty fun sessions hin => hnone sessions (hin.append hrun)

/-- A slot whose future was not collected stays empty. -/
theorem SlotOf.of_not_collected {acts : List Action} {n i : Nat} {tier : BlockTier}
    (hnot : ∀ t, ¬ Occurred (step d) init acts (Collects n i t)) :
    SlotOf d acts n i tier .empty where
  read inv sessions hinv hin := by
    obtain ⟨t, -, hcollects⟩ := hin
    exact absurd hcollects (hnot t)
  empty _ := rfl

/-- The future for slot `i` has not been waited for in the current cycle. -/
def Pc.open_at (i : Nat) : Pc → Prop
  | .collecting _ futures _ => i ∈ futures.map Prod.fst
  | _ => True

/-- The list under way and the lists returned hold what was read for them. -/
structure SlotsInOrder (d : Daemon κ δ) (acts : List Action) (s : State κ) : Prop where
  pending : ∀ i, s.pc.open_at i →
    ∀ t, ¬ Occurred (step d) init acts (Collects s.log.length i t)
  current : ∀ tier futures per_inverter, s.pc = .collecting tier futures per_inverter →
    ∀ i out, per_inverter[i]? = some out → SlotOf d acts s.log.length i tier out
  log : ∀ n cycle, s.log.reverse[n]? = some cycle →
    ∀ i out, cycle.per_inverter[i]? = some out → SlotOf d acts n i cycle.tier out

theorem slotsInOrder_init : SlotsInOrder d [] init where
  pending _ _ _ := not_occurred_nil
  current tier futures per_inverter h := by cases h
  log n cycle h := by cases h

theorem collects_le {acts : List Action} (hrun : run (step d) init acts = some s) {n i t : Nat}
    (h : Occurred (step d) init acts (Collects n i t)) : n ≤ s.log.length := by
  obtain ⟨mid, b, mid', rest, ⟨-, rfl, -⟩, -, hmid, hrest⟩ := h.exists_run hrun
  exact log_run (show run (step d) mid (b :: rest) = some s by
    rw [run_cons, hmid, Option.bind_some, hrest])

omit [DecidableEq κ] in
theorem log_lt {n : Nat} {cycle : Cycle} (hcycle : s.log.reverse[n]? = some cycle) :
    n < s.log.length := by
  have hlt := (List.getElem?_eq_some_iff.mp hcycle).1
  rwa [List.length_reverse] at hlt

/-- A step that collects nothing and leaves the lists alone. -/
theorem SlotsInOrder.keep {acts : List Action} (hrun : run (step d) init acts = some s)
    (h : SlotsInOrder d acts s) (hstep : step d s a = some s')
    (hnot : ∀ n i t, ¬ Collects n i t s a) (hlog : s'.log = s.log)
    (hopen : ∀ i, s'.pc.open_at i → s.pc.open_at i)
    (hcurrent : ∀ tier futures per_inverter, s'.pc = .collecting tier futures per_inverter →
      ∀ i out, per_inverter[i]? = some out → SlotOf d acts s.log.length i tier out) :
    SlotsInOrder d (acts ++ [a]) s' where
  pending i hi t hcollects := by
    rw [hlog] at hcollects
    cases (occurred_append_singleton_iff hrun).mp hcollects with
    | inl hold => exact h.pending i (hopen i hi) t hold
    | inr hnow => exact hnot _ _ _ hnow
  current tier futures per_inverter hpc i out hout := by
    rw [hlog]
    exact (hcurrent tier futures per_inverter hpc i out hout).append hrun hstep (hnot _ i)
  log n cycle hcycle i out hout := by
    rw [hlog] at hcycle
    exact (h.log n cycle hcycle i out hout).append hrun hstep (hnot n i)

/-- A future that is given up leaves its slot empty. -/
theorem SlotsInOrder.give_up {acts : List Action} (hrun : run (step d) init acts = some s)
    (h : SlotsInOrder d acts s) {tier : BlockTier} {idx t : Nat} {futures : List (Nat × Nat)}
    {per_inverter : List PolledBlocks}
    (hpc : s.pc = .collecting tier ((idx, t) :: futures) per_inverter)
    (hstep : step d s a =
      some { s with pc := .collecting tier futures (per_inverter.set idx .empty) })
    (hnot : ∀ n i t, ¬ Collects n i t s a) :
    SlotsInOrder d (acts ++ [a])
      { s with pc := .collecting tier futures (per_inverter.set idx .empty) } := by
  refine h.keep hrun hstep hnot rfl (fun i hi => ?_) ?_
  · rw [hpc]
    exact List.mem_cons_of_mem _ hi
  · intro tier' futures' per_inverter' heq i out hout
    cases heq
    rw [List.getElem?_set] at hout
    split_ifs at hout with hidx hlt
    · rw [Option.some.injEq] at hout
      subst hidx hout
      apply SlotOf.of_not_collected
      apply h.pending
      rw [hpc]
      exact List.mem_cons_self
    · exact h.current tier _ per_inverter hpc i out hout

omit [DecidableEq κ] in
/-- The collected future is the first one of the list. -/
theorem Collects.eq_head {tier : BlockTier} {idx t : Nat} {futures : List (Nat × Nat)}
    {per_inverter : List PolledBlocks}
    (hpc : s.pc = .collecting tier ((idx, t) :: futures) per_inverter) {n i u : Nat}
    (h : Collects n i u s a) : n = s.log.length ∧ i = idx ∧ u = t := by
  obtain ⟨-, hn, ⟨tier', futures', per_inverter', hpc'⟩, -⟩ := h
  rw [hpc] at hpc'
  cases hpc'
  exact ⟨hn.symm, rfl, rfl⟩

section

variable {acts : List Action} {tier : BlockTier} {idx t : Nat} {futures : List (Nat × Nat)}
  {per_inverter : List PolledBlocks} {task : Task} {out : PolledBlocks}

/-- A collected result is what its worker has read in time. -/
theorem SlotsInOrder.slotOf_collect (hnames : DistinctNames d)
    (hrun : run (step d) init acts = some s) (h : SlotsInOrder d acts s)
    (hpc : s.pc = .collecting tier ((idx, t) :: futures) per_inverter)
    (htask : s.tasks[t]? = some task) (hphase : task.phase = .done out) :
    SlotOf d (acts ++ [.collect]) s.log.length idx tier out := by
  have hstep := step_eq_some_iff.mpr (Transition.collect (d := d) hpc htask hphase)
  have hresult : task.phase.result = some out := by rw [hphase]; rfl
  have hmem : (idx, t) ∈ s.pc.futures := by
    rw [hpc]
    exact List.mem_cons_self
  have hopen : s.pc.open_at idx := by
    rw [hpc]
    exact List.mem_cons_self
  constructor
  · intro inv sessions hinv hin
    obtain ⟨u, -, hcollected⟩ | ⟨u, hnow, hreads⟩ := hin.of_append hrun hstep
    · exact absurd hcollected (h.pending idx hopen u)
    · rw [(hnow.eq_head hpc).2.2] at hreads
      obtain ⟨task', inv', htask', -, -, -, hinv', hread⟩ :=
        result_of_reads (by rw [run_append_of_eq hrun, run_cons, hstep]; rfl) hreads
      rw [htask, Option.some.injEq] at htask'
      rw [← htask', hresult, Option.some.injEq] at hread
      rw [hinv, Option.some.injEq] at hinv'
      rw [hread, hinv']
  · intro hnone
    obtain ⟨asked, hasked, hcycle⟩ := (futuresFresh_of_reachable ⟨acts, hrun⟩).asked idx t hmem
    obtain ⟨asked', hasked', hpos, htier⟩ :=
      (cycleInOrder_of_reachable ⟨acts, hrun⟩).asked idx t hmem
    rw [htask, Option.some.injEq] at hasked hasked'
    subst hasked hasked'
    rw [hpc, Pc.tier, Option.some.injEq] at htier
    obtain ⟨sessions, inv, -, -, hreads⟩ :=
      reads_of_settledBy hnames hrun hcycle (settledBy_of_result hrun htask hresult)
    rw [hpos, ← htier] at hreads
    have hnow : Collects s.log.length idx t s .collect :=
      ⟨rfl, rfl, ⟨tier, futures, per_inverter, hpc⟩, task, out, htask, hphase⟩
    exact absurd ⟨t, (occurred_append_singleton_iff hrun).mpr (.inl hreads),
      (occurred_append_singleton_iff hrun).mpr (.inr hnow)⟩ (hnone sessions)

/-- A future that is collected fills its slot with what its worker has read. -/
theorem SlotsInOrder.collect (hnames : DistinctNames d)
    (hrun : run (step d) init acts = some s) (h : SlotsInOrder d acts s)
    (hpc : s.pc = .collecting tier ((idx, t) :: futures) per_inverter)
    (htask : s.tasks[t]? = some task) (hphase : task.phase = .done out) :
    SlotsInOrder d (acts ++ [.collect])
      { s with pc := .collecting tier futures (per_inverter.set idx out) } := by
  have hstep := step_eq_some_iff.mpr (Transition.collect (d := d) hpc htask hphase)
  have hslot := h.slotOf_collect hnames hrun hpc htask hphase
  constructor
  · intro i hi u hcollects
    cases (occurred_append_singleton_iff hrun).mp hcollects with
    | inl hold =>
      refine h.pending i ?_ u hold
      rw [hpc]
      exact List.mem_cons_of_mem _ hi
    | inr hnow =>
      have hnodup := (cycleInOrder_of_reachable ⟨acts, hrun⟩).nodup
      rw [hpc] at hnodup
      exact (List.nodup_cons.mp hnodup).1 ((hnow.eq_head hpc).2.1 ▸ hi)
  · intro tier' futures' per_inverter' heq i out' hout'
    cases heq
    rw [List.getElem?_set] at hout'
    split_ifs at hout' with hidx hlt
    · rw [Option.some.injEq] at hout'
      subst hidx hout'
      exact hslot
    · refine (h.current tier _ per_inverter hpc i out' hout').append hrun hstep fun u hu => ?_
      exact hidx (hu.eq_head hpc).2.1.symm
  · intro n cycle hcycle i out' hout'
    refine (h.log n cycle hcycle i out' hout').append hrun hstep fun u hu => ?_
    exact Nat.ne_of_lt (log_lt hcycle) (hu.eq_head hpc).1

end

/-- A cycle of a longer log is the new one, or an old one in its place. -/
theorem log_cons_cases {log : List Cycle} {newest cycle : Cycle} {n : Nat}
    (h : (newest :: log).reverse[n]? = some cycle) :
    log.reverse[n]? = some cycle ∨ n = log.length ∧ cycle = newest := by
  rw [List.reverse_cons] at h
  by_cases hlt : n < log.reverse.length
  · rw [List.getElem?_append_left hlt] at h
    exact .inl h
  · rw [List.getElem?_append_right (Nat.le_of_not_lt hlt), List.getElem?_singleton] at h
    split_ifs at h with hzero
    rw [List.length_reverse] at hlt hzero
    rw [Option.some.injEq] at h
    exact .inr ⟨by omega, h.symm⟩

theorem slotsInOrder_step (hnames : DistinctNames d) {acts : List Action}
    (hrun : run (step d) init acts = some s) (h : SlotsInOrder d acts s)
    (hstep : step d s a = some s') : SlotsInOrder d (acts ++ [a]) s' := by
  have hne : a ≠ .collect → ∀ n i t, ¬ Collects n i t s a := fun hne n i t hc => hne hc.1
  cases step_eq_some_iff.mp hstep with
  | begin hpc =>
    exact h.keep hrun hstep (hne nofun) rfl (fun i _ => by rw [hpc]; trivial) nofun
  | all_submitted hpc hend =>
    refine h.keep hrun hstep (hne nofun) rfl (fun i _ => by rw [hpc]; trivial) ?_
    intro tier' futures' per_inverter heq i out hout
    cases heq
    rw [List.eq_of_mem_replicate (List.mem_of_getElem? hout)]
    apply SlotOf.of_not_collected
    apply h.pending
    rw [hpc]
    trivial
  | skip hpc hinv hrunning | submit hpc hinv hrunning | count_skip hpc hinv =>
    exact h.keep hrun hstep (hne nofun) rfl (fun i _ => by rw [hpc]; trivial) nofun
  | start | settle | finish | crash =>
    exact h.keep hrun hstep (hne nofun) rfl (fun i hi => hi) h.current
  | collect hpc htask hphase => exact h.collect hnames hrun hpc htask hphase
  | collect_crashed hpc htask hphase =>
    refine h.give_up hrun hpc hstep ?_
    intro n i u hcollects
    obtain ⟨-, -, rfl⟩ := hcollects.eq_head hpc
    obtain ⟨-, -, -, task', out, htask', hdone⟩ := hcollects
    rw [htask, Option.some.injEq] at htask'
    rw [← htask', hphase] at hdone
    cases hdone
  | timeout hpc hrunning => exact h.give_up hrun hpc hstep (hne nofun)
  | @snapshot tier per_inverter hpc =>
    constructor
    · intro i _ t hcollects
      cases (occurred_append_singleton_iff hrun).mp hcollects with
      | inl hold => exact Nat.not_succ_le_self _ (collects_le hrun hold)
      | inr hnow => exact hne nofun _ _ _ hnow
    · nofun
    · intro n cycle hcycle i out hout
      obtain hold | ⟨rfl, rfl⟩ := log_cons_cases hcycle
      · exact (h.log n cycle hold i out hout).append hrun hstep (hne nofun n i)
      · exact (h.current tier [] per_inverter hpc i out hout).append hrun hstep (hne nofun _ i)

theorem slotsInOrder_of_run (hnames : DistinctNames d) {acts : List Action}
    (hrun : run (step d) init acts = some s) : SlotsInOrder d acts s :=
  run_preserves_history slotsInOrder_init
    (fun _ _ _ _ hacts h hstep => slotsInOrder_step hnames hacts h hstep) hrun

/-! ## Attribution and freshness -/

/-- A block of the returned list comes from the poll in time for its slot. -/
theorem SlotOf.exists_inTime {acts : List Action} {n i : Nat} {tier : BlockTier}
    {out : PolledBlocks} (h : SlotOf d acts n i tier out) {name : String} {b : ParsedBlock}
    (hb : out.blocks.lookup name = some b) : ∃ sessions, InTime d acts n i tier sessions := by
  by_contra hnone
  rw [h.empty fun sessions hin => hnone ⟨sessions, hin⟩, PolledBlocks.empty, AList.lookup_empty] at hb
  cases hb

/-- The list a cycle returns is determined by what the polls in time have read. -/
theorem per_inverter_eq (hnames : DistinctNames d) {acts acts' : List Action}
    (hrun : run (step d) init acts = some s) (hrun' : run (step d) init acts' = some s')
    {n n' : Nat} {cycle cycle' : Cycle} (hcycle : s.log.reverse[n]? = some cycle)
    (hcycle' : s'.log.reverse[n']? = some cycle') (htier : cycle'.tier = cycle.tier)
    (hsame : ∀ i sessions, InTime d acts n i cycle.tier sessions ↔
      InTime d acts' n' i cycle.tier sessions) : cycle'.per_inverter = cycle.per_inverter := by
  have hmem := List.mem_reverse.mp (List.mem_of_getElem? hcycle)
  have hmem' := List.mem_reverse.mp (List.mem_of_getElem? hcycle')
  have hlength := ((cycleInOrder_of_reachable ⟨acts, hrun⟩).log cycle hmem).length_eq
  have hlength' := ((cycleInOrder_of_reachable ⟨acts', hrun'⟩).log cycle' hmem').length_eq
  apply List.ext_getElem (hlength'.trans hlength.symm)
  intro i hi' hi
  have hslot := (slotsInOrder_of_run hnames hrun).log n cycle hcycle i _
    (List.getElem?_eq_getElem hi)
  have hslot' := (slotsInOrder_of_run hnames hrun').log n' cycle' hcycle' i _
    (List.getElem?_eq_getElem hi')
  rw [htier] at hslot'
  have hinv := List.getElem?_eq_getElem (hlength ▸ hi)
  by_cases hin : ∃ sessions, InTime d acts n i cycle.tier sessions
  · obtain ⟨sessions, hin⟩ := hin
    rw [hslot.read _ sessions hinv hin, hslot'.read _ sessions hinv ((hsame i sessions).mp hin)]
  · rw [hslot.empty fun sessions h => hin ⟨sessions, h⟩,
      hslot'.empty fun sessions h => hin ⟨sessions, (hsame i sessions).mpr h⟩]

/-- Attribution and freshness: a block in slot `i` of the list of cycle `n` was read in
that cycle and tier by a poll submitted in it, through the port of the inverter at `i`
and from its slave. A poll whose wait timed out is never used, and the list depends only
on what the polls in time have read, not on their order. -/
theorem readings_attributed_and_fresh (hnames : DistinctNames d) {acts : List Action}
    (hrun : run (step d) init acts = some s) {n : Nat} {cycle : Cycle}
    (hcycle : s.log.reverse[n]? = some cycle) :
    (∀ i out name b, cycle.per_inverter[i]? = some out → out.blocks.lookup name = some b →
      ∃ inv t sessions, d.inverters[i]? = some inv ∧
        Occurred (step d) init acts (Reads d n i cycle.tier t sessions) ∧
        Occurred (step d) init acts (Collects n i t) ∧
        out = (poll_inverter inv.slave d.retry_attempts cycle.tier sessions).out ∧
        ReadFrom inv.slave cycle.tier sessions out ∧ b.slave = inv.slave) ∧
    (∀ m i t, Occurred (step d) init acts (TimesOut m i t) →
      ∀ j, ¬ Occurred (step d) init acts (Collects n j t)) ∧
    ∀ acts' s' n' cycle', run (step d) init acts' = some s' →
      s'.log.reverse[n']? = some cycle' → cycle'.tier = cycle.tier →
      (∀ i sessions, InTime d acts n i cycle.tier sessions ↔
        InTime d acts' n' i cycle.tier sessions) →
      cycle'.per_inverter = cycle.per_inverter := by
  refine ⟨fun i out name b hout hb => ?_, fun m i t htimeout j => not_collects_of_timesOut hrun htimeout,
    fun acts' s' n' cycle' hrun' hcycle' htier hsame =>
      per_inverter_eq hnames hrun hrun' hcycle hcycle' htier hsame⟩
  have hslot := (slotsInOrder_of_run hnames hrun).log n cycle hcycle i out hout
  obtain ⟨sessions, t, hreads, hcollects⟩ := hslot.exists_inTime hb
  obtain ⟨task, inv, -, -, -, -, hinv, -⟩ := result_of_reads hrun hreads
  have hread := hslot.read inv sessions hinv ⟨t, hreads, hcollects⟩
  have hfrom : ReadFrom inv.slave cycle.tier sessions out :=
    hread ▸ poll_inverter_readFrom inv.slave d.retry_attempts cycle.tier sessions
  exact ⟨inv, t, sessions, hinv, hreads, hcollects, hread, hfrom, hfrom.slave_eq hb⟩

/-- An inverter that answers each query with registers that hold their number. -/
def counting (slave : UInt8) (block : Block) (_attempt : Nat) : Session :=
  let body := slave :: FC_READ_HOLDING :: (2 * block.count).toUInt8 ::
    word_bytes ((List.range block.count).map Nat.toUInt16)
  .read [body ++ crc16 body]

/-- The first inverter answers in time; the poll of the second one times out, and has its result
only after the cycle. In the next cycle the second inverter is silent. -/
def late_result : List Action :=
  [.begin .HOT, .submit, .submit, .submit, .start 0, .start 1, .settle 0 (counting 1), .finish 0,
    .collect] ++ .timeout :: [.snapshot, .settle 1 (counting 2), .finish 1,
    .begin .HOT, .submit, .submit, .submit, .start 2, .start 3, .settle 2 (counting 1),
    .settle 3 fun _ _ => .read [], .finish 2, .finish 3, .collect, .collect, .snapshot]

/-- The battery of the first inverter has come through in both cycles, that of the second in
neither. -/
theorem late_result_batteries :
    (run (step two_inverters) init late_result).any (fun s =>
      s.log.reverse.map (fun cycle =>
        cycle.per_inverter.map fun polled => decide ("battery" ∈ polled.blocks)) =
        [[true, false], [true, false]]) = true := by
  decide +kernel

/-- What was collected has the inverter's own slave, and the late result is not used in the next
cycle. -/
theorem readings_attributed_and_fresh_timeout :
    ∃ s cycle later polled b, run (step two_inverters) init late_result = some s ∧
      s.log.reverse = [cycle, later] ∧ cycle.per_inverter[0]? = some polled ∧
      polled.blocks.lookup "battery" = some b ∧ b.slave = 1 ∧
      ∀ j, ¬ Occurred (step two_inverters) init late_result (Collects 1 j 1) := by
  obtain ⟨s, hrun, hbatteries⟩ := (Option.any_eq_true _ _).mp late_result_batteries
  obtain ⟨cycle, _, hlog, hslots, hrest⟩ := List.map_eq_cons_iff.mp (of_decide_eq_true hbatteries)
  obtain ⟨later, _, rfl, -, hnone⟩ := List.map_eq_cons_iff.mp hrest
  obtain rfl := List.map_eq_nil_iff.mp hnone
  obtain ⟨polled, _, hpolled, hbattery, -⟩ := List.map_eq_cons_iff.mp hslots
  obtain ⟨b, hb⟩ := Dict.mem_iff_lookup.mp (of_decide_eq_true hbattery)
  have hfirst : s.log.reverse[0]? = some cycle := by rw [hlog]; rfl
  have hslot : cycle.per_inverter[0]? = some polled := by rw [hpolled]; rfl
  have hclaim := readings_attributed_and_fresh (by decide) hrun hfirst
  obtain ⟨inv, -, -, hinv, -, -, -, -, hslave⟩ := hclaim.1 0 polled "battery" b hslot hb
  cases hinv
  refine ⟨s, cycle, later, polled, b, hrun, hlog, hslot, hb, hslave, ?_⟩
  have hsecond : s.log.reverse[1]? = some later := by rw [hlog]; rfl
  exact (readings_attributed_and_fresh (by decide) hrun hsecond).2.1 0 1 1
    ⟨_, _, _, _, rfl, rfl, rfl, rfl, _, _, _, rfl⟩

end inverter_bridge.daemon
