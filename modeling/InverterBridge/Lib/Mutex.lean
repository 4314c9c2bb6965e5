import InverterBridge.Lib.Trace
import InverterBridge.Lib.TransitionSystem
import Mathlib.Logic.Function.Basic

open TransitionSystem Trace

/-! Threads that read and write a shared state one instruction at a time, in sections under one
lock: each section is atomic, in the order in which the lock was held. -/

namespace Mutex

/-- An instruction of a section: it loads from the shared state into the thread's locals, or
stores into it. -/
inductive Instr (σ ℓ : Type*) where
  | load (f : σ → ℓ → ℓ)
  | store (f : ℓ → σ → σ)

/-- The instructions of the operations that the threads carry out under the lock, and the
locals that each of them begins with. -/
structure Sections (ω σ ℓ : Type*) where
  body : ω → List (Instr σ ℓ)
  locals : ω → ℓ

/-- Where a thread stands. -/
inductive Phase (ω σ ℓ : Type*) where
  | outside
  | waiting (op : ω)
  | inside (op : ω) (rest : List (Instr σ ℓ)) (locals : ℓ)

/-- An operation that has released the lock, with the locals it ended with. -/
structure Commit (ι ω ℓ : Type*) where
  thread : ι
  op : ω
  locals : ℓ

/-- The shared state and the threads, with the operations done so far and what was read of the
shared state without the lock. -/
structure State (ι ω σ ℓ : Type*) where
  shared : σ
  holder : Option ι
  phase : ι → Phase ω σ ℓ
  committed : List (Commit ι ω ℓ)
  observed : List σ

inductive Act (ι ω : Type*) where
  | call (t : ι) (op : ω)
  | acquire (t : ι)
  | exec (t : ι)
  | release (t : ι)
  | observe

variable {ι ω σ ℓ : Type*}

def State.init (shared : σ) : State ι ω σ ℓ := ⟨shared, none, fun _ => .outside, [], []⟩

def Instr.exec : Instr σ ℓ → σ × ℓ → σ × ℓ
  | .load f, (s, locals) => (s, f s locals)
  | .store f, (s, locals) => (f locals s, locals)

/-- What a run of instructions makes of the shared state and the locals. -/
def execAll (instrs : List (Instr σ ℓ)) (c : σ × ℓ) : σ × ℓ := instrs.foldl (fun c i => i.exec c) c

namespace Sections

variable (S : Sections ω σ ℓ)

/-- The operation as one step: the new shared state, and the locals it ends with. -/
def apply (op : ω) (s : σ) : σ × ℓ := execAll (S.body op) (s, S.locals op)

/-- The operations one after the other. -/
def replay (init : σ) (ops : List ω) : σ := ops.foldl (fun s op => (S.apply op s).1) init

/-- One instruction of one thread, or a call, or what the lock does. -/
def step [DecidableEq ι] (s : State ι ω σ ℓ) : Act ι ω → Option (State ι ω σ ℓ)
  | .call t op =>
    match s.phase t with
    | .outside => some { s with phase := Function.update s.phase t (.waiting op) }
    | _ => none
  | .acquire t =>
    match s.phase t, s.holder with
    | .waiting op, none =>
      some { s with
        holder := some t
        phase := Function.update s.phase t (.inside op (S.body op) (S.locals op)) }
    | _, _ => none
  | .exec t =>
    match s.phase t with
    | .inside op (i :: rest) locals =>
      let c := i.exec (s.shared, locals)
      some { s with shared := c.1, phase := Function.update s.phase t (.inside op rest c.2) }
    | _ => none
  | .release t =>
    match s.phase t with
    | .inside op [] locals =>
      some { s with
        holder := none
        phase := Function.update s.phase t .outside
        committed := s.committed ++ [⟨t, op, locals⟩] }
    | _ => none
  | .observe => some { s with observed := s.observed ++ [s.shared] }

/-- The operations done so far. -/
def ops (committed : List (Commit ι ω ℓ)) : List ω := committed.map Commit.op

theorem replay_append (init : σ) (first second : List ω) :
    S.replay init (first ++ second) = S.replay (S.replay init first) second :=
  List.foldl_append

/-- The shared state and the locals are what the instructions so far of the thread that holds
the lock make of the state that the operations done so far leave. -/
structure Serial (init : σ) (s : State ι ω σ ℓ) : Prop where
  free : s.holder = none → s.shared = S.replay init (ops s.committed)
  held : ∀ t op rest locals, s.phase t = .inside op rest locals → s.holder = some t ∧
    ∃ done, S.body op = done ++ rest ∧
      (s.shared, locals) = execAll done (S.replay init (ops s.committed), S.locals op)
  inside : ∀ t, s.holder = some t → ∃ op rest locals, s.phase t = .inside op rest locals
  results : EachAt (fun before c => c.locals = (S.apply c.op (S.replay init (ops before))).2)
    s.committed

variable {S} {init : σ} {s s' : State ι ω σ ℓ} {acts : List (Act ι ω)}

theorem serial_init : S.Serial init (State.init init : State ι ω σ ℓ) :=
  ⟨fun _ => rfl, nofun, nofun, eachAt_nil⟩

theorem execAll_append_singleton (done : List (Instr σ ℓ)) (i : Instr σ ℓ) (c : σ × ℓ) :
    execAll (done ++ [i]) c = i.exec (execAll done c) := by
  simp [execAll]

/-- Nobody but the holder is inside. -/
theorem Serial.eq_of_inside (h : S.Serial init s) {t u : ι} {op op' : ω}
    {rest rest' : List (Instr σ ℓ)} {locals locals' : ℓ} (ht : s.phase t = .inside op rest locals)
    (hu : s.phase u = .inside op' rest' locals') : u = t :=
  Option.some.inj ((h.held u _ _ _ hu).1.symm.trans (h.held t _ _ _ ht).1)

variable [DecidableEq ι]

/-- Where a thread stands when one of them has gone on. -/
theorem update_cases {phase : ι → Phase ω σ ℓ} {t u : ι} {p q : Phase ω σ ℓ}
    (h : Function.update phase t p u = q) : (u = t ∧ p = q) ∨ phase u = q ∧ u ≠ t := by
  by_cases heq : u = t
  · subst heq
    exact .inl ⟨rfl, (Function.update_self u p phase).symm.trans h⟩
  · exact .inr ⟨(Function.update_of_ne heq p phase).symm.trans h, heq⟩

/-- A thread that gets to another place outside the lock. -/
theorem Serial.moved (h : S.Serial init s) {t : ι} {phase : Phase ω σ ℓ}
    (hbefore : ∀ op rest locals, s.phase t ≠ .inside op rest locals)
    (hafter : ∀ op rest locals, phase ≠ .inside op rest locals) :
    S.Serial init { s with phase := Function.update s.phase t phase } := by
  refine ⟨h.free, fun u op rest locals hu => ?_, fun u hu => ?_, h.results⟩
  · obtain ⟨-, hinside⟩ | ⟨hinside, -⟩ := update_cases hu
    · exact absurd hinside (hafter op rest locals)
    · exact h.held u op rest locals hinside
  · obtain ⟨op, rest, locals, hphase⟩ := h.inside u hu
    have hne : u ≠ t := fun heq => hbefore op rest locals (heq ▸ hphase)
    exact ⟨op, rest, locals, (Function.update_of_ne hne _ _).trans hphase⟩

theorem Serial.step (h : S.Serial init s) {act : Act ι ω} (hstep : S.step s act = some s') :
    S.Serial init s' := by
  cases act with
  | call t op =>
    simp only [Sections.step] at hstep
    split at hstep
    case h_2 => cases hstep
    case h_1 hphase =>
      cases hstep
      exact h.moved (by rw [hphase]; nofun) nofun
  | acquire t =>
    simp only [Sections.step] at hstep
    split at hstep
    case h_2 => cases hstep
    case h_1 op hphase hfree =>
      cases hstep
      refine ⟨nofun, fun u op' rest locals hu => ?_, fun u hu => ?_, h.results⟩
      · obtain ⟨rfl, heq⟩ | ⟨hinside, -⟩ := update_cases hu
        · cases heq
          exact ⟨rfl, [], rfl, by rw [← h.free hfree]; rfl⟩
        · have hholder := (h.held u _ _ _ hinside).1
          rw [hfree] at hholder
          cases hholder
      · cases hu
        exact ⟨op, _, _, Function.update_self _ _ _⟩
  | exec t =>
    simp only [Sections.step] at hstep
    split at hstep
    case h_2 => cases hstep
    case h_1 op i rest locals hphase =>
      cases hstep
      obtain ⟨hholder, done, hbody, hdone⟩ := h.held t _ _ _ hphase
      refine ⟨fun hfree => ?_, fun u op' rest' locals' hu => ?_, fun u hu => ?_, h.results⟩
      · rw [hholder] at hfree
        cases hfree
      · obtain ⟨rfl, heq⟩ | ⟨hinside, hne⟩ := update_cases hu
        · cases heq
          refine ⟨hholder, done ++ [i], by rw [hbody, List.append_assoc]; rfl, ?_⟩
          rw [execAll_append_singleton, ← hdone]
        · exact absurd (h.eq_of_inside hphase hinside) hne
      · rw [hholder] at hu
        cases hu
        exact ⟨op, rest, _, Function.update_self _ _ _⟩
  | release t =>
    simp only [Sections.step] at hstep
    split at hstep
    case h_2 => cases hstep
    case h_1 op locals hphase =>
      cases hstep
      obtain ⟨-, done, hbody, hdone⟩ := h.held t _ _ _ hphase
      rw [List.append_nil] at hbody
      rw [← hbody] at hdone
      refine ⟨fun _ => ?_, fun u op' rest' locals' hu => ?_, nofun, ?_⟩
      · rw [ops, List.map_append, replay_append]
        exact congrArg Prod.fst hdone
      · obtain ⟨-, heq⟩ | ⟨hinside, hne⟩ := update_cases hu
        · cases heq
        · exact absurd (h.eq_of_inside hphase hinside) hne
      · exact eachAt_append_singleton.mpr ⟨h.results, congrArg Prod.snd hdone⟩
  | observe =>
    cases hstep
    exact ⟨h.free, h.held, h.inside, h.results⟩

/-- In every run, however the threads' instructions are interleaved, the operations are atomic:
they take effect one after the other, in the order in which they released the lock. -/
theorem run_serial (hrun : run S.step (State.init init) acts = some s) : S.Serial init s :=
  run_preserves (fun _ _ _ h hstep => h.step hstep) serial_init hrun

/-! ## What is read without the lock -/

/-- No instruction of an operation, wherever it begins, leads down in `r`. -/
def Ascends (S : Sections ω σ ℓ) (r : σ → σ → Prop) : Prop :=
  ∀ op done i rest s, S.body op = done ++ i :: rest →
    r (execAll done (s, S.locals op)).1 (execAll (done ++ [i]) (s, S.locals op)).1

omit [DecidableEq ι] in
/-- An instruction of the thread inside leads from the shared state to the next one. -/
theorem Serial.ascends {r : σ → σ → Prop} (h : S.Serial init s) (hascends : S.Ascends r) {t : ι}
    {op : ω} {i : Instr σ ℓ} {rest : List (Instr σ ℓ)} {locals : ℓ}
    (hphase : s.phase t = .inside op (i :: rest) locals) :
    r s.shared (i.exec (s.shared, locals)).1 := by
  obtain ⟨-, done, hbody, hdone⟩ := h.held t _ _ _ hphase
  have hstep := hascends op done i rest (S.replay init (ops s.committed)) hbody
  rw [execAll_append_singleton, ← hdone] at hstep
  exact hstep

/-- What is observed never goes down where no instruction does. -/
theorem run_observed {r : σ → σ → Prop} (hrefl : ∀ s, r s s)
    (htrans : ∀ {a b c}, r a b → r b c → r a c) (hascends : S.Ascends r)
    (hrun : run S.step (State.init init) acts = some s) :
    s.observed.Pairwise r ∧ ∀ value ∈ s.observed, r value s.shared := by
  have hall : S.Serial init s ∧ s.observed.Pairwise r ∧ ∀ value ∈ s.observed, r value s.shared := by
    refine run_preserves (I := fun s => S.Serial init s ∧ s.observed.Pairwise r ∧
      ∀ value ∈ s.observed, r value s.shared) ?_ ⟨serial_init, List.Pairwise.nil, nofun⟩ hrun
    rintro s act s' ⟨hserial, hpairwise, hbelow⟩ hstep
    refine ⟨hserial.step hstep, ?_⟩
    cases act with
    | call t op | acquire t | release t =>
      simp only [Sections.step] at hstep
      split at hstep
      case h_2 => cases hstep
      case h_1 =>
        cases hstep
        exact ⟨hpairwise, hbelow⟩
    | exec t =>
      simp only [Sections.step] at hstep
      split at hstep
      case h_2 => cases hstep
      case h_1 hphase =>
        cases hstep
        exact ⟨hpairwise, fun value hvalue =>
          htrans (hbelow value hvalue) (hserial.ascends hascends hphase)⟩
    | observe =>
      cases hstep
      constructor
      · rw [List.pairwise_append]
        refine ⟨hpairwise, List.pairwise_singleton _ _, fun value hvalue now hnow => ?_⟩
        rw [List.mem_singleton.mp hnow]
        exact hbelow value hvalue
      · intro value hvalue
        obtain hbefore | hnow := List.mem_append.mp hvalue
        · exact hbelow value hbefore
        · rw [List.mem_singleton.mp hnow]
          exact hrefl _
  exact hall.2

end Sections

end Mutex
