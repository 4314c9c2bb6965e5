import InverterBridge.Daemon.Transition
import InverterBridge.Lib.Mutex

open Python Mutex TransitionSystem
open inverter_bridge.config inverter_bridge.srne_map inverter_bridge.aggregator

namespace inverter_bridge.daemon

/-! ## The sections under `_fail_count_lock` -/

/-- What `_fail_count_lock` protects. -/
structure Counts (κ : Type) where
  fail_count : κ → Nat
  crc_fails_total : Nat

/-- `Daemon.__init__`: the counts that are not there yet are zero. -/
def Counts.zero {κ : Type} : Counts κ := ⟨fun _ => 0, 0⟩

/-- What a thread has loaded: the value that it counts up, its `fails` and its
`fails_snapshot`. -/
structure CountLocals (κ : Type) where
  value : Nat
  fails : Nat
  fails_snapshot : List (κ × Nat)

/-- The sections: `_count_crc_error`, the skip guard and the snapshot of `_poll_all_parallel`,
and the end of `_poll_inverter`. -/
inductive CountOp (κ : Type) where
  | count_crc_error
  | skip (name : κ)
  | settle (name : κ) (any_success : Bool)
  | snapshot (names : List κ)
  deriving DecidableEq

section

variable {κ : Type} [DecidableEq κ]

/-- `self._fail_count[name] += 1`. -/
def count_fail (name : κ) : List (Instr (Counts κ) (CountLocals κ)) :=
  [.load fun s locals => { locals with value := s.fail_count name },
    .store fun locals s =>
      { s with fail_count := Function.update s.fail_count name (locals.value + 1) }]

/-- `fails = self._fail_count[name]`. -/
def load_fails (name : κ) : Instr (Counts κ) (CountLocals κ) :=
  .load fun s locals => { locals with fails := s.fail_count name }

def CountOp.body : CountOp κ → List (Instr (Counts κ) (CountLocals κ))
  | .count_crc_error =>
    [.load fun s locals => { locals with value := s.crc_fails_total },
      .store fun locals s => { s with crc_fails_total := locals.value + 1 }]
  | .skip name => count_fail name
  | .settle name true =>
    [.store fun _ s => { s with fail_count := Function.update s.fail_count name 0 },
      .load fun _ locals => { locals with fails := 0 }]
  | .settle name false => count_fail name ++ [load_fails name]
  | .snapshot names =>
    names.map fun name => .load fun s locals =>
      { locals with fails_snapshot := locals.fails_snapshot ++ [(name, s.fail_count name)] }

/-- The sections of all threads; each begins with new locals. -/
def locked_sections : Sections (CountOp κ) (Counts κ) (CountLocals κ) :=
  ⟨CountOp.body, fun _ => ⟨0, 0, []⟩⟩

/-! ## The operations as single steps -/

/-- The section counts a failure of `name`. -/
def CountOp.counts (name : κ) (op : CountOp κ) : Bool := op = .skip name || op = .settle name false

/-- What an operation does to the counts. -/
def CountOp.update (op : CountOp κ) (s : Counts κ) : Counts κ where
  fail_count name :=
    if op = .settle name true then 0
    else if op.counts name then s.fail_count name + 1 else s.fail_count name
  crc_fails_total :=
    if op = .count_crc_error then s.crc_fails_total + 1 else s.crc_fails_total

omit [DecidableEq κ] in
/-- A snapshot is read entry by entry. -/
theorem execAll_snapshot (names : List κ) (s : Counts κ) (locals : CountLocals κ) :
    execAll (names.map fun name => Instr.load fun s locals =>
        { locals with fails_snapshot := locals.fails_snapshot ++ [(name, s.fail_count name)] })
      (s, locals) =
      (s, { locals with
        fails_snapshot := locals.fails_snapshot ++ names.map fun name => (name, s.fail_count name) }) := by
  induction names generalizing locals with
  | nil => simp [execAll]
  | cons name names ih =>
    rw [List.map_cons, execAll, List.foldl_cons, ← execAll, Instr.exec, ih]
    simp

omit [DecidableEq κ] in
@[ext] theorem Counts.ext {s s' : Counts κ} (hfails : ∀ name, s.fail_count name = s'.fail_count name)
    (hcrc : s.crc_fails_total = s'.crc_fails_total) : s = s' := by
  cases s
  cases s'
  cases funext hfails
  cases hcrc
  rfl

theorem apply_fst (op : CountOp κ) (s : Counts κ) : (locked_sections.apply op s).1 = op.update s := by
  cases op with
  | count_crc_error => rfl
  | snapshot names =>
    exact congrArg Prod.fst (execAll_snapshot names s _)
  | skip name =>
    ext other
    · by_cases heq : other = name
      · subst heq
        simp [Sections.apply, locked_sections, CountOp.body, count_fail, execAll, Instr.exec,
          CountOp.update, CountOp.counts]
      · simp [Sections.apply, locked_sections, CountOp.body, count_fail, execAll, Instr.exec,
          CountOp.update, CountOp.counts, Function.update_of_ne heq, Ne.symm heq]
    · rfl
  | settle name any_success =>
    ext other
    · by_cases heq : other = name
      · subst heq
        cases any_success <;>
          simp [Sections.apply, locked_sections, CountOp.body, count_fail, load_fails, execAll,
            Instr.exec, CountOp.update, CountOp.counts]
      · cases any_success <;>
          simp [Sections.apply, locked_sections, CountOp.body, count_fail, load_fails, execAll,
            Instr.exec, CountOp.update, CountOp.counts, Function.update_of_ne heq, Ne.symm heq]
    · cases any_success <;> rfl

/-- The failures of `name` since its last successful poll. -/
def consecutive_fails (ops : List (CountOp κ)) (name : κ) : Nat :=
  (ops.reverse.takeWhile fun op => op ≠ .settle name true).countP (CountOp.counts name)

theorem consecutive_fails_append (ops : List (CountOp κ)) (op : CountOp κ) (name : κ) :
    consecutive_fails (ops ++ [op]) name =
      if op = .settle name true then 0
      else if op.counts name then consecutive_fails ops name + 1 else consecutive_fails ops name := by
  rw [consecutive_fails, List.reverse_append, List.reverse_singleton, List.singleton_append,
    List.takeWhile_cons]
  by_cases hreset : op = .settle name true
  · simp [hreset]
  · rw [if_neg hreset, if_pos (decide_eq_true hreset), List.countP_cons]
    split_ifs <;> rfl

/-- One after the other the operations leave the consecutive failures, and the number of CRC
errors. -/
theorem replay_eq (ops : List (CountOp κ)) :
    locked_sections.replay .zero ops =
      ⟨consecutive_fails ops, ops.count .count_crc_error⟩ := by
  induction ops using List.reverseRecOn with
  | nil => rfl
  | append_singleton ops op ih =>
    rw [Sections.replay_append, ih]
    change (locked_sections.apply op _).1 = _
    rw [apply_fst]
    ext name
    · exact (consecutive_fails_append ops op name).symm
    · rw [List.count_append, List.count_singleton, CountOp.update]
      by_cases hop : op = .count_crc_error
      · simp [hop]
      · simp [hop]

/-- Only the callback of the stream scanner touches the number of CRC errors. -/
theorem exec_crc {op : CountOp κ} (hop : op ≠ .count_crc_error) :
    ∀ i ∈ op.body, ∀ c, (i.exec c).1.crc_fails_total = c.1.crc_fails_total := by
  cases op with
  | count_crc_error => exact absurd rfl hop
  | skip name => simp [CountOp.body, count_fail, Instr.exec]
  | settle name any_success =>
    cases any_success <;> simp [CountOp.body, count_fail, load_fails, Instr.exec]
  | snapshot names => simp [CountOp.body, Instr.exec]

omit [DecidableEq κ] in
theorem execAll_crc {instrs : List (Instr (Counts κ) (CountLocals κ))}
    (hinstrs : ∀ i ∈ instrs, ∀ c, (i.exec c).1.crc_fails_total = c.1.crc_fails_total)
    (c : Counts κ × CountLocals κ) : (execAll instrs c).1.crc_fails_total = c.1.crc_fails_total := by
  induction instrs generalizing c with
  | nil => rfl
  | cons i instrs ih =>
    rw [List.forall_mem_cons] at hinstrs
    exact (ih hinstrs.2 (i.exec c)).trans (hinstrs.1 c)

/-- No instruction lowers the number of CRC errors. -/
theorem crc_ascends : (locked_sections (κ := κ)).Ascends fun s s' =>
    s.crc_fails_total ≤ s'.crc_fails_total := by
  intro op done i rest s hbody
  by_cases hop : op = .count_crc_error
  · subst hop
    change [_, _] = done ++ i :: rest at hbody
    obtain ⟨rfl, hrest⟩ | ⟨done', rfl, hrest⟩ := List.cons_eq_append_iff.mp hbody
    · cases hrest
      exact le_rfl
    · obtain ⟨rfl, hlast⟩ | ⟨done'', rfl, hlast⟩ := List.cons_eq_append_iff.mp hrest
      · cases hlast
        exact Nat.le_succ _
      · simp at hlast
  · have hinstrs := exec_crc hop
    change ∀ i ∈ locked_sections.body op, _ at hinstrs
    rw [hbody] at hinstrs
    rw [execAll_crc fun j hj => hinstrs j (List.mem_append_left _ hj)]
    rw [execAll_crc fun j hj => hinstrs j ?_]
    rw [List.mem_append, List.mem_singleton] at hj
    rw [List.mem_append, List.mem_cons]
    tauto

/-- The counts of an operation that has released the lock are those of one moment: the moment
of its snapshot, or the one after its poll was counted. -/
def CountedAtOnce {ι : Type} (before : List (Commit ι (CountOp κ) (CountLocals κ)))
    (c : Commit ι (CountOp κ) (CountLocals κ)) : Prop :=
  (∀ names, c.op = .snapshot names → c.locals.fails_snapshot =
    names.map fun name => (name, consecutive_fails (Sections.ops before) name)) ∧
  ∀ name any_success, c.op = .settle name any_success →
    c.locals.fails = consecutive_fails (Sections.ops before ++ [c.op]) name

theorem countedAtOnce_of_apply {ι : Type} {before : List (Commit ι (CountOp κ) (CountLocals κ))}
    {c : Commit ι (CountOp κ) (CountLocals κ)}
    (h : c.locals = (locked_sections.apply c.op
      (locked_sections.replay .zero (Sections.ops before))).2) : CountedAtOnce before c := by
  obtain ⟨thread, op, locals⟩ := c
  rw [replay_eq] at h
  constructor
  · rintro names rfl
    exact (congrArg CountLocals.fails_snapshot h).trans
      (congrArg (fun c => c.2.fails_snapshot) (execAll_snapshot names _ _))
  · rintro name any_success rfl
    rw [consecutive_fails_append]
    refine (congrArg CountLocals.fails h).trans ?_
    cases any_success <;>
      simp [Sections.apply, locked_sections, CountOp.body, count_fail, load_fails, execAll,
        Instr.exec, CountOp.counts]

/-- Whenever the lock is free, all that was counted is in the counts. -/
theorem shared_eq_of_free {ι : Type} [DecidableEq ι] {acts : List (Act ι (CountOp κ))}
    {s : Mutex.State ι (CountOp κ) (Counts κ) (CountLocals κ)}
    (hrun : run locked_sections.step (.init .zero) acts = some s) (hfree : s.holder = none) :
    s.shared = ⟨consecutive_fails (Sections.ops s.committed),
      (Sections.ops s.committed).count .count_crc_error⟩ :=
  ((Sections.run_serial hrun).free hfree).trans (replay_eq _)

/-- However the instructions of the main thread and of the workers are interleaved, no update
of the counts is lost: whenever the lock is free, the fail count of each inverter is the number
of its failures since its last success, in the order in which they were counted, and the number
of CRC errors that of the calls of the callback. A snapshot shows the fail counts of one moment,
and what is published of the CRC errors, which is read without the lock, never drops. -/
theorem counts_serialized {ι : Type} [DecidableEq ι] {acts : List (Act ι (CountOp κ))}
    {s : Mutex.State ι (CountOp κ) (Counts κ) (CountLocals κ)}
    (hrun : run locked_sections.step (.init .zero) acts = some s) :
    (s.holder = none → s.shared = ⟨consecutive_fails (Sections.ops s.committed),
      (Sections.ops s.committed).count .count_crc_error⟩) ∧
    Trace.EachAt CountedAtOnce s.committed ∧
    (s.observed.map Counts.crc_fails_total).Pairwise (· ≤ ·) ∧
    ∀ total ∈ s.observed.map Counts.crc_fails_total, total ≤ s.shared.crc_fails_total := by
  obtain ⟨hpairwise, hbelow⟩ :=
    Sections.run_observed (r := fun s s' => s.crc_fails_total ≤ s'.crc_fails_total)
      (fun _ => le_rfl) le_trans crc_ascends hrun
  refine ⟨shared_eq_of_free hrun, ?_, ?_, ?_⟩
  · intro before c later heq
    exact countedAtOnce_of_apply ((Sections.run_serial hrun).results before c later heq)
  · exact List.pairwise_map.mpr hpairwise
  · exact List.forall_mem_map.mpr hbelow

/-- Two workers count a failure each, and one of them a CRC error; each loads before the other
one has stored, but for the lock. -/
def two_workers : List (Act (Fin 2) (CountOp Bool)) :=
  [.call 0 (.settle true false), .call 1 .count_crc_error, .acquire 0, .exec 0, .observe, .exec 0,
    .exec 0, .release 0, .call 0 (.skip true), .acquire 1, .exec 1, .exec 1, .observe, .release 1,
    .acquire 0, .exec 0, .exec 0, .release 0]

theorem counts_serialized_two_workers :
    ∃ s, run locked_sections.step (.init .zero) two_workers = some s ∧
      s.shared.fail_count true = 2 ∧ s.shared.crc_fails_total = 1 := by
  refine ⟨_, rfl, ?_⟩
  have hcounts := (@counts_serialized _ _ _ _ two_workers _ rfl).1 rfl
  rw [hcounts]
  decide

end

/-! ## The steps of the daemon -/

section

variable {κ δ : Type} [DecidableEq κ] {d : Daemon κ δ} {s s' : State κ} {a : Action}

/-- The section that a step of the daemon stands for. -/
def Action.count_op (d : Daemon κ δ) (s : State κ) : Action → Option (CountOp κ)
  | .count_skip =>
    match s.pc with
    | .skipping _ next _ => (d.inverters[next]?).map fun inv => .skip inv.name
    | _ => none
  | .settle t sessions =>
    (s.tasks[t]?).bind fun task => (d.inverters[task.pos]?).map fun inv =>
      .settle inv.name (poll_inverter inv.slave d.retry_attempts task.tier sessions).any_success
  | .snapshot => some (.snapshot (d.inverters.map fun inv => inv.name))
  | _ => none

/-- Counting a failure, or resetting the failures, of one inverter. -/
theorem CountOp.fail_count_update (op : CountOp κ) (s : Counts κ) (inv : κ) {fails : Nat}
    (hother : ∀ name ≠ inv, op ≠ .settle name true ∧ op.counts name = false)
    (hinv : fails = if op = .settle inv true then 0
      else if op.counts inv then s.fail_count inv + 1 else s.fail_count inv) :
    Function.update s.fail_count inv fails = (op.update s).fail_count := by
  funext name
  by_cases heq : name = inv
  · subst heq
    rw [Function.update_self, hinv]
    rfl
  · rw [Function.update_of_ne heq]
    simp [CountOp.update, hother name heq]

/-- A step of the daemon does to the fail counts what its section does, and nothing else. -/
theorem fail_count_of_step (hstep : step d s a = some s') (crc_fails_total : Nat) :
    s'.fail_count = ((a.count_op d s).elim ⟨s.fail_count, crc_fails_total⟩ fun op =>
      op.update ⟨s.fail_count, crc_fails_total⟩).fail_count := by
  cases transition_of_step hstep with
  | @count_skip _ _ _ inv hpc hinv =>
    simp only [Action.count_op, hpc, hinv, Option.map_some, Option.elim_some]
    refine CountOp.fail_count_update (.skip inv.name) ⟨s.fail_count, _⟩ inv.name
      (fun name hne => ?_) ?_
    · simp [CountOp.counts, Ne.symm hne]
    · simp [CountOp.counts]
  | @settle t sessions task inv htask hphase hinv =>
    simp only [Action.count_op, htask, hinv, Option.bind_some, Option.map_some, Option.elim_some]
    refine CountOp.fail_count_update (.settle inv.name _) ⟨s.fail_count, _⟩ inv.name
      (fun name hne => ?_) ?_
    · simp [CountOp.counts, Ne.symm hne]
    · cases (poll_inverter inv.slave d.retry_attempts task.tier sessions).any_success <;>
        simp [CountOp.counts]
  | snapshot hpc => rfl
  | _ => rfl

/-- The sections that a run of the daemon stands for, in order. -/
def count_ops (d : Daemon κ δ) : State κ → List Action → List (CountOp κ)
  | _, [] => []
  | s, a :: acts =>
    match step d s a with
    | some s' => (a.count_op d s).toList ++ count_ops d s' acts
    | none => []

theorem fail_count_of_run {acts : List Action} (hrun : run (step d) s acts = some s')
    (crc_fails_total : Nat) :
    s'.fail_count =
      (locked_sections.replay ⟨s.fail_count, crc_fails_total⟩ (count_ops d s acts)).fail_count := by
  induction acts generalizing s crc_fails_total with
  | nil =>
    cases hrun
    rfl
  | cons a acts ih =>
    obtain ⟨mid, hmid, hrest⟩ := run_cons_eq_some_iff.mp hrun
    have hfails := fail_count_of_step hmid crc_fails_total
    rw [count_ops, hmid]
    dsimp only
    cases hop : a.count_op d s with
    | none =>
      rw [hop] at hfails
      rw [ih hrest crc_fails_total, hfails]
      rfl
    | some op =>
      rw [hop] at hfails
      rw [Sections.replay_append]
      change _ = (locked_sections.replay (locked_sections.apply op _).1 _).fail_count
      rw [apply_fst, ih hrest (op.update ⟨s.fail_count, crc_fails_total⟩).crc_fails_total, hfails]
      rfl

/-- CRC errors do not touch the fail counts. -/
theorem consecutive_fails_filter (ops : List (CountOp κ)) :
    consecutive_fails (ops.filter fun op => op ≠ .count_crc_error) = consecutive_fails ops := by
  funext name
  induction ops using List.reverseRecOn with
  | nil => rfl
  | append_singleton ops op ih =>
    by_cases hop : op = .count_crc_error
    · rw [List.filter_append, hop, consecutive_fails_append, ← ih]
      simp [CountOp.counts]
    · have hkept : [op].filter (fun op => decide (op ≠ .count_crc_error)) = [op] := by simp [hop]
      rw [List.filter_append, hkept, consecutive_fails_append, consecutive_fails_append, ih]

/-- Threads whose sections release the lock in the order of a run of the daemon leave its fail
counts: the single steps of `step` stand for the sections. -/
theorem locked_fail_count_eq {ι : Type} [DecidableEq ι] {acts : List (Act ι (CountOp κ))}
    {locked : Mutex.State ι (CountOp κ) (Counts κ) (CountLocals κ)} {daemon_acts : List Action}
    (hlocked : run locked_sections.step (.init .zero) acts = some locked)
    (hfree : locked.holder = none) (hrun : run (step d) init daemon_acts = some s)
    (hops : ((Sections.ops locked.committed).filter fun op => op ≠ .count_crc_error) =
      count_ops d init daemon_acts) : locked.shared.fail_count = s.fail_count := by
  rw [shared_eq_of_free hlocked hfree, fail_count_of_run hrun 0, ← hops]
  change _ = (locked_sections.replay .zero _).fail_count
  rw [replay_eq]
  exact (consecutive_fails_filter _).symm

end

end inverter_bridge.daemon
