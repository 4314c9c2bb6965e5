import InverterBridge.Lib.TransitionSystem

/-! The offline counter of one inverter, apart from the polls and the executor:
what the counter may say about the cycles that got no block. -/

namespace inverter_bridge.daemon

/-- Where the current cycle stands for the inverter. -/
inductive Turn where
  | waiting
  | skipping
  | asked
  | collected (got : Bool)
  deriving DecidableEq

/-- Its latest poll: not yet counted, counted, or over. -/
inductive Worker where
  | pending
  | reported (got : Bool)
  | finished (got : Bool)
  deriving DecidableEq

/-- A poll that is still going to be counted. -/
def Worker.owed : Worker → Nat
  | .pending => 1
  | _ => 0

def Worker.got : Worker → Bool
  | .pending => false
  | .reported got | .finished got => got

/-- The current cycle has been counted, or a poll was started that will be. -/
def Turn.handled : Turn → Nat
  | .waiting | .skipping => 0
  | .asked | .collected _ => 1

/-- The counter with what it depends on. The cycles, newest first, tell whether the
inverter contributed a block and what the counter stood at. -/
structure Monitor where
  fails : Nat
  worker : Worker
  turn : Turn
  cycles : List (Bool × Nat)

namespace Monitor

inductive Event where
  | skip
  | count_skip
  | ask
  | collect
  | timeout
  | snapshot
  | report (got : Bool)
  | finish
  | crash

def step (m : Monitor) : Event → Option Monitor
  | .skip =>
    match m.turn, m.worker with
    | .waiting, .pending | .waiting, .reported _ => some { m with turn := .skipping }
    | _, _ => none
  | .count_skip =>
    match m.turn with
    | .skipping => some { m with fails := m.fails + 1, turn := .collected false }
    | _ => none
  | .ask =>
    match m.turn, m.worker with
    | .waiting, .finished _ => some { m with worker := .pending, turn := .asked }
    | _, _ => none
  | .collect =>
    match m.turn, m.worker with
    | .asked, .finished got => some { m with turn := .collected got }
    | _, _ => none
  | .timeout =>
    match m.turn, m.worker with
    | .asked, .pending | .asked, .reported _ => some { m with turn := .collected false }
    | _, _ => none
  | .snapshot =>
    match m.turn with
    | .collected got => some { m with turn := .waiting, cycles := (got, m.fails) :: m.cycles }
    | _ => none
  | .report got =>
    match m.worker with
    | .pending => some { m with fails := if got then 0 else m.fails + 1, worker := .reported got }
    | _ => none
  | .finish =>
    match m.worker with
    | .reported got => some { m with worker := .finished got }
    | _ => none
  | .crash =>
    match m.worker with
    | .pending => some { m with worker := .finished false }
    | _ => none

def init : Monitor := ⟨0, .finished false, .waiting, []⟩

/-- The number of cycles without a block at the head of the list. -/
def silent_run : List (Bool × Nat) → Nat
  | (false, _) :: older => silent_run older + 1
  | _ => 0

/-! ## The counter never runs ahead -/

/-- A poll that is still to be counted is paid for by a cycle that got nothing, or
by the current one. -/
structure Counted (m : Monitor) : Prop where
  bound : m.fails + m.worker.owed ≤ silent_run m.cycles + m.turn.handled
  asked : m.turn = .asked → m.worker.got = true → m.fails = 0
  collected : m.turn = .collected true → m.fails = 0 ∧ m.worker = .finished true
  snapshots : ∀ got fails older, (got, fails) :: older <:+ m.cycles →
    fails ≤ silent_run ((got, fails) :: older)

theorem counted_init : Counted init where
  bound := by decide
  asked h := by cases h
  collected h := by cases h
  snapshots got fails older h := by
    rw [init, List.suffix_nil] at h
    cases h

theorem counted_step {m m' : Monitor} {e : Event} (h : Counted m) (hstep : step m e = some m') :
    Counted m' := by
  obtain ⟨fails, worker, turn, cycles⟩ := m
  obtain ⟨hbound, hasked, hcollected, hsnapshots⟩ := h
  dsimp only at hbound hasked hcollected hsnapshots
  cases e with
  | skip =>
    simp only [step] at hstep
    split at hstep <;> cases hstep
    all_goals exact ⟨hbound, nofun, nofun, hsnapshots⟩
  | count_skip =>
    simp only [step] at hstep
    split at hstep <;> cases hstep
    simp only [Turn.handled] at hbound
    exact ⟨by simp only [Turn.handled]; omega, nofun, nofun, hsnapshots⟩
  | ask =>
    simp only [step] at hstep
    split at hstep <;> cases hstep
    simp only [Turn.handled, Worker.owed] at hbound
    exact ⟨by simp only [Turn.handled, Worker.owed]; omega, nofun, nofun, hsnapshots⟩
  | collect =>
    simp only [step] at hstep
    split at hstep <;> cases hstep
    case h_1 got =>
      refine ⟨hbound, nofun, ?_, hsnapshots⟩
      rintro ⟨rfl⟩
      exact ⟨hasked rfl rfl, rfl⟩
  | timeout =>
    simp only [step] at hstep
    split at hstep <;> cases hstep
    all_goals exact ⟨hbound, nofun, nofun, hsnapshots⟩
  | snapshot =>
    simp only [step] at hstep
    split at hstep <;> cases hstep
    case h_1 got =>
      have hnow : fails + worker.owed ≤ silent_run ((got, fails) :: cycles) := by
        cases got with
        | false =>
          simp only [Turn.handled] at hbound
          exact hbound
        | true =>
          obtain ⟨rfl, rfl⟩ := hcollected rfl
          exact Nat.le_refl _
      refine ⟨hnow, nofun, nofun, fun got' fails' older hsuffix => ?_⟩
      obtain heq | hold := List.suffix_cons_iff.mp hsuffix
      · cases heq
        exact Nat.le_trans (Nat.le_add_right _ _) hnow
      · exact hsnapshots got' fails' older hold
  | report got =>
    simp only [step] at hstep
    split at hstep <;> cases hstep
    refine ⟨?_, ?_, ?_, hsnapshots⟩
    · simp only [Worker.owed] at hbound ⊢
      split_ifs <;> omega
    · rintro - hgot
      exact if_pos hgot
    · intro hturn
      cases (hcollected hturn).2
  | finish =>
    simp only [step] at hstep
    split at hstep <;> cases hstep
    refine ⟨hbound, hasked, ?_, hsnapshots⟩
    intro hturn
    cases (hcollected hturn).2
  | crash =>
    simp only [step] at hstep
    split at hstep <;> cases hstep
    refine ⟨?_, nofun, ?_, hsnapshots⟩
    · simp only [Worker.owed] at hbound ⊢
      omega
    · intro hturn
      cases (hcollected hturn).2

/-- At every snapshot the counter is at most the number of cycles in a row, up to
that one, that got no block. -/
theorem fails_le_silent_run {m : Monitor} (hreach : TransitionSystem.Reachable step init m)
    {got : Bool} {fails : Nat} {older : List (Bool × Nat)}
    (hcycle : (got, fails) :: older <:+ m.cycles) : fails ≤ silent_run ((got, fails) :: older) :=
  (hreach.invariant counted_init fun _ _ _ h hstep => counted_step h hstep).snapshots
    got fails older hcycle

/-! ## The counter never falls far behind -/

/-- Neither a block for the inverter nor a crash of its worker. -/
def Quiet : Event → Prop
  | .report true | .crash => False
  | _ => True

/-- Since there were `base` cycles, each cycle has been counted or is owed. -/
def KeepsUp (base : Nat) (m : Monitor) : Prop :=
  m.cycles.length + m.turn.handled ≤ base + m.fails + m.worker.owed

theorem keepsUp_step {base : Nat} {m m' : Monitor} {e : Event} (h : KeepsUp base m)
    (hquiet : Quiet e) (hstep : step m e = some m') : KeepsUp base m' := by
  obtain ⟨fails, worker, turn, cycles⟩ := m
  unfold KeepsUp at h ⊢
  cases e with
  | report got =>
    cases got with
    | true => cases hquiet
    | false =>
      simp only [step] at hstep
      split at hstep <;> cases hstep
      simp only [Worker.owed, Bool.false_eq_true, if_false] at h ⊢
      omega
  | crash => cases hquiet
  | snapshot =>
    simp only [step] at hstep
    split at hstep <;> cases hstep
    simp only [Turn.handled, List.length_cons] at h ⊢
    omega
  | ask =>
    simp only [step] at hstep
    split at hstep <;> cases hstep
    simp only [Turn.handled, Worker.owed] at h ⊢
    omega
  | _ =>
    simp only [step] at hstep
    split at hstep <;> cases hstep
    all_goals
      simp only [Turn.handled, Worker.owed] at h ⊢
      omega

/-- Over a quiet run that starts between two turns, all cycles but the one still
owed are in the counter. -/
theorem cycles_le_fails {m m' : Monitor} {es : List Event} (hwaiting : m.turn = .waiting)
    (hquiet : ∀ e ∈ es, Quiet e) (hrun : TransitionSystem.run step m es = some m') :
    m'.cycles.length ≤ m.cycles.length + m'.fails + m'.worker.owed := by
  have hstart : KeepsUp m.cycles.length m := by
    simp only [KeepsUp, hwaiting, Turn.handled]
    omega
  have hkeeps : KeepsUp m.cycles.length m' :=
    TransitionSystem.run_preserves_along (fun _ _ _ h hquiet hstep => keepsUp_step h hquiet hstep)
      hstart (TransitionSystem.along_of_forall fun e he _ => hquiet e he) hrun
  unfold KeepsUp at hkeeps
  omega

end Monitor

end inverter_bridge.daemon
