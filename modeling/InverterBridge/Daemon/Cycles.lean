import InverterBridge.Daemon.Invariant

open TransitionSystem
open inverter_bridge.config inverter_bridge.srne_map inverter_bridge.aggregator

namespace inverter_bridge.daemon

variable {κ δ : Type} {d : Daemon κ δ} {s s' : State κ} {a : Action}

/-- The futures the current cycle still has to collect. -/
def Pc.futures : Pc → List (Nat × Nat)
  | .idle => []
  | .submitting _ _ futures | .skipping _ _ futures | .collecting _ futures _ => futures

/-- How many of the `n` inverters the current cycle has asked or skipped. -/
def Pc.reached (n : Nat) : Pc → Nat
  | .idle => 0
  | .submitting _ next _ | .skipping _ next _ => next
  | .collecting _ _ _ => n

def Pc.tier : Pc → Option BlockTier
  | .idle => none
  | .submitting tier _ _ | .skipping tier _ _ | .collecting tier _ _ => some tier

/-- What a poll has returned, if it has. -/
def Phase.result : Phase → Option PolledBlocks
  | .settled out | .done out => some out
  | _ => none

/-- The list a cycle returns: one slot for each inverter, with blocks of its tier. -/
structure ResultsOf (d : Daemon κ δ) (tier : BlockTier) (per_inverter : List PolledBlocks) :
    Prop where
  length_eq : per_inverter.length = d.inverters.length
  ofTier : ∀ out ∈ per_inverter, OfTier tier out

/-- The bookkeeping of `_poll_all_parallel`, whatever the names are. -/
structure CycleInOrder (d : Daemon κ δ) (s : State κ) : Prop where
  nodup : (s.pc.futures.map Prod.fst).Nodup
  reached : ∀ idx t, (idx, t) ∈ s.pc.futures → idx < s.pc.reached d.inverters.length
  reached_le : s.pc.reached d.inverters.length ≤ d.inverters.length
  asked : ∀ idx t, (idx, t) ∈ s.pc.futures →
    ∃ task, s.tasks[t]? = some task ∧ task.pos = idx ∧ s.pc.tier = some task.tier
  tasks : ∀ task ∈ s.tasks, ∀ out, task.phase.result = some out → OfTier task.tier out
  collected : ∀ tier futures per_inverter, s.pc = .collecting tier futures per_inverter →
    ResultsOf d tier per_inverter
  log : ∀ cycle ∈ s.log, ResultsOf d cycle.tier cycle.per_inverter

theorem cycleInOrder_init : CycleInOrder d init where
  nodup := List.nodup_nil
  reached idx t h := by cases h
  reached_le := Nat.zero_le _
  asked idx t h := by cases h
  tasks task h := by cases h
  collected tier futures per_inverter h := by cases h
  log cycle h := by cases h

theorem ResultsOf.empty (tier : BlockTier) :
    ResultsOf d tier (List.replicate d.inverters.length .empty) where
  length_eq := List.length_replicate
  ofTier out hout := by
    rw [List.eq_of_mem_replicate hout]
    exact ofTier_empty tier

theorem ResultsOf.set {tier : BlockTier} {per_inverter : List PolledBlocks}
    (h : ResultsOf d tier per_inverter) (idx : Nat) {out : PolledBlocks} (hout : OfTier tier out) :
    ResultsOf d tier (per_inverter.set idx out) where
  length_eq := by rw [List.length_set, h.length_eq]
  ofTier other hother := by
    cases List.mem_or_eq_of_mem_set hother with
    | inl hold => exact h.ofTier other hold
    | inr heq => exact heq ▸ hout

theorem CycleInOrder.set_phase (h : CycleInOrder d s) {t : Nat} {task : Task} {phase : Phase}
    (htask : s.tasks[t]? = some task)
    (hresult : ∀ out, phase.result = some out → OfTier task.tier out) :
    CycleInOrder d (s.set_phase t task phase) where
  nodup := h.nodup
  reached := h.reached
  reached_le := h.reached_le
  asked idx u hu := by
    obtain ⟨other, hother, hpos, htier⟩ := h.asked idx u hu
    rw [tasks_set_phase phase htask]
    split_ifs with hut
    · subst hut
      rw [htask, Option.some.injEq] at hother
      subst hother
      exact ⟨_, rfl, hpos, htier⟩
    · exact ⟨other, hother, hpos, htier⟩
  tasks other hother out hout := by
    cases List.mem_or_eq_of_mem_set hother with
    | inl hold => exact h.tasks other hold out hout
    | inr heq =>
      subst heq
      exact hresult out hout
  collected := h.collected
  log := h.log

/-- Taking one future off the list, with its result. -/
theorem CycleInOrder.collect (h : CycleInOrder d s) {tier : BlockTier} {idx t : Nat}
    {futures : List (Nat × Nat)} {per_inverter : List PolledBlocks} {out : PolledBlocks}
    (hpc : s.pc = .collecting tier ((idx, t) :: futures) per_inverter) (hout : OfTier tier out) :
    CycleInOrder d { s with pc := .collecting tier futures (per_inverter.set idx out) } where
  nodup := by
    have hnodup := h.nodup
    rw [hpc] at hnodup
    exact (List.nodup_cons.mp hnodup).2
  reached i u hu := by
    have hreached := h.reached i u
    rw [hpc] at hreached
    exact hreached (List.mem_cons_of_mem _ hu)
  reached_le := Nat.le_refl _
  asked i u hu := by
    have hasked := h.asked i u
    rw [hpc] at hasked
    exact hasked (List.mem_cons_of_mem _ hu)
  tasks := h.tasks
  collected tier' futures' per_inverter' heq := by
    cases heq
    exact (h.collected tier _ per_inverter hpc).set idx hout
  log := h.log

variable [DecidableEq κ]

/-- A submit adds a future for the next inverter, with the task that it asks. -/
theorem CycleInOrder.submit (h : CycleInOrder d s) {tier : BlockTier} {next : Nat}
    {futures : List (Nat × Nat)} {inv : InverterCfg κ δ}
    (hpc : s.pc = .submitting tier next futures) (hinv : d.inverters[next]? = some inv) :
    CycleInOrder d { s with
      tasks := s.tasks ++ [⟨next, tier, s.log.length, .queued⟩]
      inflight := Function.update s.inflight inv.name (some s.tasks.length)
      pc := .submitting tier (next + 1) (futures ++ [(next, s.tasks.length)]) } := by
  obtain ⟨hnodup, hreached, -, hasked, htasks, -, hlog⟩ := h
  rw [hpc] at hnodup hreached hasked
  refine ⟨?_, ?_, (List.getElem?_eq_some_iff.mp hinv).1, ?_, ?_, nofun, hlog⟩
  · have hnew : next ∉ futures.map Prod.fst := by
      intro hmem
      obtain ⟨⟨idx, t⟩, ht, rfl⟩ := List.mem_map.mp hmem
      exact Nat.lt_irrefl _ (hreached idx t ht)
    simp only [Pc.futures, List.map_append, List.map_cons, List.map_nil]
    rw [← List.concat_eq_append]
    exact hnodup.concat hnew
  · intro idx t ht
    cases List.mem_append.mp ht with
    | inl hold => exact Nat.lt_succ_of_lt (hreached idx t hold)
    | inr hnew =>
      cases List.mem_singleton.mp hnew
      exact Nat.lt_succ_self _
  · intro idx t ht
    cases List.mem_append.mp ht with
    | inl hold =>
      obtain ⟨task, htask, hpos, htier⟩ := hasked idx t hold
      have hlt : t < s.tasks.length := (List.getElem?_eq_some_iff.mp htask).1
      exact ⟨task, by rw [List.getElem?_append_left hlt, htask], hpos, htier⟩
    | inr hnew =>
      cases List.mem_singleton.mp hnew
      exact ⟨_, List.getElem?_concat_length, rfl, rfl⟩
  · intro task htask out hout
    cases List.mem_append.mp htask with
    | inl hold => exact htasks task hold out hout
    | inr hnew =>
      cases List.mem_singleton.mp hnew
      cases hout

theorem cycleInOrder_step (h : CycleInOrder d s) (hstep : step d s a = some s') :
    CycleInOrder d s' := by
  cases step_eq_some_iff.mp hstep with
  | begin hpc =>
    exact ⟨List.nodup_nil, nofun, Nat.zero_le _, nofun, h.tasks, nofun, h.log⟩
  | @all_submitted tier next futures hpc hend =>
    obtain ⟨hnodup, hreached, hle, hasked, htasks, -, hlog⟩ := h
    rw [hpc] at hnodup hreached hle hasked
    refine ⟨hnodup, fun idx t ht => Nat.lt_of_lt_of_le (hreached idx t ht) hle, Nat.le_refl _,
      hasked, htasks, ?_, hlog⟩
    intro tier' futures' per_inverter heq
    cases heq
    exact .empty _
  | @skip tier next futures inv hpc hinv hrunning =>
    obtain ⟨hnodup, hreached, hle, hasked, htasks, -, hlog⟩ := h
    rw [hpc] at hnodup hreached hle hasked
    exact ⟨hnodup, hreached, hle, hasked, htasks, nofun, hlog⟩
  | @count_skip tier next futures inv hpc hinv =>
    obtain ⟨hnodup, hreached, hle, hasked, htasks, -, hlog⟩ := h
    rw [hpc] at hnodup hreached hle hasked
    exact ⟨hnodup, fun idx t ht => Nat.lt_succ_of_lt (hreached idx t ht),
      (List.getElem?_eq_some_iff.mp hinv).1, hasked, htasks, nofun, hlog⟩
  | submit hpc hinv hrunning => exact h.submit hpc hinv
  | @collect tier idx t futures per_inverter task out hpc htask hphase =>
    have hout := h.tasks task (List.mem_of_getElem? htask) out (by rw [hphase]; rfl)
    obtain ⟨asked, hasked, -, htier⟩ := h.asked idx t (by rw [hpc]; exact List.mem_cons_self)
    rw [htask, Option.some.injEq] at hasked
    rw [hpc, Pc.tier, Option.some.injEq, ← hasked] at htier
    exact h.collect hpc (htier ▸ hout)
  | collect_crashed hpc htask hphase => exact h.collect hpc (ofTier_empty _)
  | timeout hpc hrunning => exact h.collect hpc (ofTier_empty _)
  | @snapshot tier per_inverter hpc =>
    refine ⟨List.nodup_nil, nofun, Nat.zero_le _, nofun, h.tasks, nofun, ?_⟩
    intro cycle hcycle
    cases List.mem_cons.mp hcycle with
    | inl heq =>
      subst heq
      exact h.collected tier [] per_inverter hpc
    | inr hold => exact h.log cycle hold
  | start hworker hfirst htask => exact h.set_phase htask nofun
  | @settle t sessions task inv htask hphase hinv =>
    have hset : CycleInOrder d (s.set_phase t task
        (.settled (poll_inverter inv.slave d.retry_attempts task.tier sessions).out)) := by
      refine h.set_phase htask fun out hout => ?_
      cases hout
      exact (poll_inverter_spec _ _ _ _).2
    exact ⟨hset.nodup, hset.reached, hset.reached_le, hset.asked, hset.tasks, hset.collected,
      hset.log⟩
  | finish htask hphase =>
    refine h.set_phase htask fun out hout => ?_
    exact h.tasks _ (List.mem_of_getElem? htask) out (by rw [hphase]; exact hout)
  | crash htask hphase => exact h.set_phase htask nofun

theorem cycleInOrder_of_reachable (hreach : Reachable (step d) init s) : CycleInOrder d s :=
  hreach.invariant cycleInOrder_init fun _ _ _ h hstep => cycleInOrder_step h hstep

end inverter_bridge.daemon
