import InverterBridge.Lib.Trace
import InverterBridge.Lib.TransitionSystem
import Mathlib.Order.Basic

open TransitionSystem Trace

/-! A process that keeps a growing value in memory, saves it to a file from time to time and
starts from what it finds there. It may end at any moment, and a loss of power may bring back a
file that was replaced. -/

namespace Checkpoint

/-- What a save leaves: the file, whether its contents are on the disk, and whether the process
goes on. -/
structure Saved (δ : Type*) where
  file : δ
  synced : Bool
  running : Bool

/-- How the value is loaded, grown and saved, on hosts of which some let a save complete. -/
structure Store (α δ ω κ : Type*) where
  load : δ → Option α
  grow : α → ω → Option α
  save : κ → α → δ → Saved δ
  completes : κ → Bool

inductive Event (α : Type*) where
  | started (a : α)
  /-- A save has completed. -/
  | saved (a : α)
  /-- What is in the file cannot be lost any more. -/
  | settled (a : α)
  | power_lost

/-- The value in memory while the process runs, the file, with whether its contents are on the
disk, and the ones it has replaced that the disk may still hold. -/
structure State (α δ : Type*) where
  memory : Option α
  file : δ
  synced : Bool
  replaced : List δ
  history : List (Event α)

inductive Act (δ ω κ : Type*) where
  | start
  | grow (x : ω)
  | save (host : κ)
  | stop
  | settle
  /-- The disk brings back one of the files that it holds. -/
  | lose_power (k : Nat)
  /-- It brings back anything, of a file whose contents it did not hold. -/
  | tear (found : δ)

variable {α δ ω κ : Type*}

def State.init (file : δ) : State α δ := ⟨none, file, true, [], []⟩

/-- What was loaded or saved since the power was lost. -/
def recent (history : List (Event α)) : List α :=
  (history.reverse.takeWhile fun event =>
    match event with
    | .power_lost => false
    | _ => true).filterMap fun event =>
      match event with
      | .started a | .saved a => some a
      | _ => none

namespace Store

variable (S : Store α δ ω κ)

def step (s : State α δ) : Act δ ω κ → Option (State α δ)
  | .start =>
    match s.memory, S.load s.file with
    | none, some a => some { s with memory := some a, history := s.history ++ [.started a] }
    | _, _ => none
  | .grow x =>
    match s.memory with
    | some a => (S.grow a x).map fun b => { s with memory := some b }
    | none => none
  | .save host =>
    match s.memory with
    | some a =>
      let saved := S.save host a s.file
      some {
        memory := if saved.running then some a else none
        file := saved.file
        synced := saved.synced
        replaced := s.file :: s.replaced
        history := if S.completes host then s.history ++ [.saved a] else s.history }
    | none => none
  | .stop => some { s with memory := none }
  | .settle =>
    match S.load s.file with
    | some a => some { s with replaced := [], history := s.history ++ [.settled a] }
    | none => none
  | .lose_power k =>
    match (s.file :: s.replaced)[k]? with
    | some found =>
      some {
        memory := none
        file := found
        synced := true
        replaced := []
        history := s.history ++ [.power_lost] }
    | none => none
  | .tear found =>
    if s.synced then none
    else
      some {
        memory := none
        file := found
        synced := true
        replaced := []
        history := s.history ++ [.power_lost] }

/-- The saves that a run may rely on: those of values whose file is read back. -/
def Readable (readable : α → Prop) (s : State α δ) : Act δ ω κ → Prop
  | .save _ => ∀ a, s.memory = some a → readable a
  | _ => True

/-- The value only grows, and a save replaces the file by one that is read as the value saved, or
leaves it. -/
structure Lawful [Preorder α] (good readable : α → Prop) : Prop where
  grow_good : ∀ a b x, good a → S.grow a x = some b → good b
  le_grow : ∀ a b x, good a → S.grow a x = some b → a ≤ b
  save_completes : ∀ host a file, good a → readable a → S.completes host = true →
    S.load (S.save host a file).file = some a
  save_cut : ∀ host a file, S.completes host = false → (S.save host a file).file = file
  save_synced : ∀ host a file, (S.save host a file).synced = true

/-- What a start comes to: a value that was in the file at the beginning or was saved before, and
not below what was loaded or saved since the last loss of power, nor below what had settled. -/
def Resumes [LE α] (first : α) (before : List (Event α)) : Event α → Prop
  | .started a => (a = first ∨ .saved a ∈ before) ∧ (∀ b ∈ recent before, b ≤ a) ∧
      ∀ b, .settled b ∈ before → b ≤ a
  | _ => True

/-- Each file that may be found is read as a value that is not below what had settled, and the one
that is there as the last of them. -/
structure Durable [LE α] (good : α → Prop) (first : α) (s : State α δ) (current : α) : Prop where
  file : S.load s.file = some current
  sound : good current
  synced : s.synced = true
  known : current = first ∨ .saved current ∈ s.history
  recent : ∀ b ∈ recent s.history, b ≤ current
  settled : ∀ b, .settled b ∈ s.history → b ≤ current
  replaced : ∀ file ∈ s.replaced, ∃ a, S.load file = some a ∧ good a ∧ a ≤ current ∧
    (a = first ∨ .saved a ∈ s.history) ∧ ∀ b, .settled b ∈ s.history → b ≤ a
  memory : ∀ a, s.memory = some a → good a ∧ current ≤ a
  history : EachAt (Resumes first) s.history

end Store

/-! ## What one step adds to the recent values -/

section

variable {history : List (Event α)} {a b : α}

theorem recent_append_value {event : Event α} (h : event = .started a ∨ event = .saved a) :
    recent (history ++ [event]) = a :: recent history := by
  obtain rfl | rfl := h <;> simp [recent]

theorem recent_append_settled : recent (history ++ [.settled a]) = recent history := by
  simp [recent]

theorem recent_append_power_lost : recent (history ++ [.power_lost]) = [] := by
  simp [recent]

end

namespace Store

variable [Preorder α] {S : Store α δ ω κ} {good readable : α → Prop} {first current : α}
  {s s' : State α δ}

theorem durable_init {file : δ} (hfile : S.load file = some first) (hgood : good first) :
    S.Durable good first (.init file) first where
  file := hfile
  sound := hgood
  synced := rfl
  known := .inl rfl
  recent := by simp [State.init, recent]
  settled := by simp [State.init]
  replaced := by simp [State.init]
  memory := by simp [State.init]
  history := eachAt_nil

namespace Durable

theorem start (h : S.Durable good first s current) (hstep : S.step s .start = some s') :
    S.Durable good first s' current := by
  simp only [step] at hstep
  split at hstep
  case h_2 => cases hstep
  case h_1 a hmemory hload =>
  cases hstep
  obtain rfl : current = a := Option.some.inj (h.file.symm.trans hload)
  constructor
  case file => exact h.file
  case sound => exact h.sound
  case synced => exact h.synced
  case known => exact h.known.imp_right (List.mem_append_left _)
  case recent =>
    rw [recent_append_value (.inl rfl)]
    exact List.forall_mem_cons.mpr ⟨le_rfl, h.recent⟩
  case settled => simpa using h.settled
  case replaced =>
    intro file hfile
    obtain ⟨a, hload, hgood, hle, hknown, hsettled⟩ := h.replaced file hfile
    exact ⟨a, hload, hgood, hle, hknown.imp_right (List.mem_append_left _), by simpa using hsettled⟩
  case memory =>
    rintro a heq
    obtain rfl := Option.some.inj heq
    exact ⟨h.sound, le_rfl⟩
  case history =>
    exact eachAt_append_singleton.mpr ⟨h.history, h.known, h.recent, h.settled⟩

/-- A save that completes puts the value in memory in place; one that does not, nothing. -/
theorem save {host : κ} (hlawful : S.Lawful good readable) (h : S.Durable good first s current)
    (hreadable : Readable readable s (.save host : Act δ ω κ))
    (hstep : S.step s (.save host) = some s') : ∃ current', S.Durable good first s' current' := by
  simp only [step] at hstep
  split at hstep
  case h_2 => cases hstep
  case h_1 a hmemory =>
  cases hstep
  obtain ⟨hgood, hle⟩ := h.memory a hmemory
  have hrunning : ∀ running : Bool, ∀ b, (if running then some a else none) = some b → b = a := by
    intro running b heq
    obtain ⟨-, heq⟩ := Option.ite_none_right_eq_some.mp heq
    exact (Option.some.inj heq).symm
  cases hcompletes : S.completes host with
  | false =>
    have hfile := hlawful.save_cut host a s.file hcompletes
    refine ⟨current, ?_⟩
    constructor
    case file => exact (congrArg S.load hfile).trans h.file
    case sound => exact h.sound
    case synced => exact hlawful.save_synced host a s.file
    case known => exact h.known
    case recent => exact h.recent
    case settled => exact h.settled
    case replaced =>
      rintro file (_ | ⟨_, hmem⟩)
      · exact ⟨current, h.file, h.sound, le_rfl, h.known, h.settled⟩
      · exact h.replaced file hmem
    case memory =>
      intro b hb
      rw [hrunning _ b hb]
      exact ⟨hgood, hle⟩
    case history => exact h.history
  | true =>
    have hload := hlawful.save_completes host a s.file hgood (hreadable a hmemory) hcompletes
    refine ⟨a, ?_⟩
    constructor
    case file => exact hload
    case sound => exact hgood
    case synced => exact hlawful.save_synced host a s.file
    case known => exact .inr (List.mem_append_right _ (List.mem_singleton.mpr rfl))
    case recent =>
      simp only [if_true, recent_append_value (a := a) (.inr rfl)]
      exact List.forall_mem_cons.mpr ⟨le_rfl, fun b hb => (h.recent b hb).trans hle⟩
    case settled =>
      intro b hb
      exact (h.settled b (by simpa using hb)).trans hle
    case replaced =>
      rintro file (_ | ⟨_, hmem⟩)
      · exact ⟨current, h.file, h.sound, hle, h.known.imp_right (List.mem_append_left _),
          fun b hb => h.settled b (by simpa using hb)⟩
      · obtain ⟨b, hb, hgood, hble, hknown, hsettled⟩ := h.replaced file hmem
        exact ⟨b, hb, hgood, hble.trans hle, hknown.imp_right (List.mem_append_left _),
          fun c hc => hsettled c (by simpa using hc)⟩
    case memory =>
      intro b hb
      rw [hrunning _ b hb]
      exact ⟨hgood, le_rfl⟩
    case history => exact eachAt_append_singleton.mpr ⟨h.history, trivial⟩

theorem settle (h : S.Durable good first s current) (hstep : S.step s .settle = some s') :
    S.Durable good first s' current := by
  simp only [step] at hstep
  split at hstep
  case h_2 => cases hstep
  case h_1 a hload =>
  cases hstep
  obtain rfl : current = a := Option.some.inj (h.file.symm.trans hload)
  exact {
    h with
    known := h.known.imp_right (List.mem_append_left _)
    recent := by rw [recent_append_settled]; exact h.recent
    settled := fun b hb => by
      obtain hb | hb := List.mem_append.mp hb
      · exact h.settled b hb
      · cases List.mem_singleton.mp hb
        exact le_rfl
    replaced := List.forall_mem_nil _
    history := eachAt_append_singleton.mpr ⟨h.history, trivial⟩ }

theorem lose_power {k : Nat} (h : S.Durable good first s current)
    (hstep : S.step s (.lose_power k) = some s') :
    ∃ current', S.Durable good first s' current' := by
  simp only [step] at hstep
  split at hstep
  case h_2 => cases hstep
  case h_1 found hfound =>
  cases hstep
  have hmem := List.mem_of_getElem? hfound
  have hvalue : ∃ a, S.load found = some a ∧ good a ∧ a ≤ current ∧
      (a = first ∨ .saved a ∈ s.history) ∧ ∀ b, .settled b ∈ s.history → b ≤ a := by
    obtain rfl | hmem := List.mem_cons.mp hmem
    · exact ⟨current, h.file, h.sound, le_rfl, h.known, h.settled⟩
    · exact h.replaced found hmem
  obtain ⟨a, hload, hgood, -, hknown, hsettled⟩ := hvalue
  exact ⟨a, {
    file := hload
    sound := hgood
    synced := rfl
    known := hknown.imp_right (List.mem_append_left _)
    recent := by rw [recent_append_power_lost]; exact List.forall_mem_nil _
    settled := fun b hb => hsettled b (by simpa using hb)
    replaced := List.forall_mem_nil _
    memory := fun b hb => by cases hb
    history := eachAt_append_singleton.mpr ⟨h.history, trivial⟩ }⟩

/-- What one step preserves. -/
theorem step {act : Act δ ω κ} (hlawful : S.Lawful good readable) (h : S.Durable good first s current)
    (hreadable : Readable readable s act) (hstep : S.step s act = some s') :
    ∃ current', S.Durable good first s' current' := by
  cases act with
  | start => exact ⟨current, h.start hstep⟩
  | save host => exact h.save hlawful hreadable hstep
  | settle => exact ⟨current, h.settle hstep⟩
  | lose_power k => exact h.lose_power hstep
  | tear found =>
    simp only [Store.step, if_pos h.synced] at hstep
    cases hstep
  | stop =>
    cases hstep
    exact ⟨current, { h with memory := fun b hb => by cases hb }⟩
  | grow x =>
    simp only [Store.step] at hstep
    split at hstep
    case h_2 => cases hstep
    case h_1 a hmemory =>
    obtain ⟨b, hb, rfl⟩ := Option.map_eq_some_iff.mp hstep
    obtain ⟨hgood, hle⟩ := h.memory a hmemory
    refine ⟨current, { h with memory := ?_ }⟩
    rintro c heq
    obtain rfl := Option.some.inj heq
    exact ⟨hlawful.grow_good a b x hgood hb, hle.trans (hlawful.le_grow a b x hgood hb)⟩

end Durable

/-- Whatever is cut short and whatever is brought back, the file is read as a value that was
saved. -/
theorem run_durable {file : δ} {acts : List (Act δ ω κ)} (hlawful : S.Lawful good readable)
    (hfile : S.load file = some first) (hgood : good first) (hrun : run S.step (.init file) acts = some s)
    (halong : Along S.step (Readable readable) (.init file) acts) :
    ∃ current, S.Durable good first s current :=
  run_preserves_along (I := fun s => ∃ current, S.Durable good first s current)
    (fun _ _ _ ⟨_, h⟩ hreadable hstep => h.step hlawful hreadable hstep)
    ⟨first, durable_init hfile hgood⟩ halong hrun

end Store

end Checkpoint
