import InverterBridge.Lib.Dict
import InverterBridge.Lib.TransitionSystem

/-! A sweeper of a store that others write to: it looks at the store, decides from what it has
seen which keys to remove, and has them removed later, while the store goes on changing. -/

namespace SnapshotSweep

open TransitionSystem

/-- How a sweeper ends: it did not get to see the store, had nothing to remove, did not get to
send its removals, or sent them and had all of them confirmed, or not all. -/
inductive Outcome where
  | not_seen
  | idle
  | not_sent
  | complete
  | incomplete
  deriving DecidableEq

inductive Phase where
  | looking
  | connecting
  | sweeping
  | over (outcome : Outcome)
  deriving DecidableEq

/-- The removals have been sent. -/
def Phase.sent : Phase → Bool
  | .sweeping | .over .complete | .over .incomplete => true
  | _ => false

/-- The store, and the sweeper: `inbound` is on its way to it, `erased` and `confirmed` are the
removals that were made and that it knows of. -/
structure State (κ ν : Type) where
  store : Dict κ ν
  inbound : List (κ × ν)
  seen : Dict κ ν
  phase : Phase
  chosen : List κ
  erased : List κ
  confirmed : List κ

/-- What happens: others write and remove, the sweeper acts, and its removals are made. -/
inductive Act (κ ν : Type) where
  | write (k : κ) (v : ν)
  | remove (k : κ)
  | look (watched : κ → Bool)
  | receive
  | choose
  | send
  | erase (k : κ)
  | confirm (k : κ)
  | finish
  | fail

def State.start {κ ν : Type} (store : Dict κ ν) : State κ ν :=
  ⟨store, [], ∅, .looking, [], [], []⟩

section

variable {κ ν : Type} [DecidableEq κ] (choose : Dict κ ν → Option (List κ))

/-- How a sweep ends. -/
def State.outcome (s : State κ ν) : Outcome :=
  if ∀ k ∈ s.chosen, k ∈ s.confirmed then .complete else .incomplete

def step (s : State κ ν) : Act κ ν → Option (State κ ν)
  | .write k v => some { s with store := s.store.insert k v }
  | .remove k => some { s with store := s.store.erase k }
  | .look watched =>
    if s.phase = .looking then
      some { s with inbound := s.inbound ++
        (s.store.entries.filter fun entry => watched entry.1).map fun entry => (entry.1, entry.2) }
    else none
  | .receive =>
    match s.phase, s.inbound with
    | .looking, (k, v) :: inbound => some { s with inbound, seen := s.seen.insert k v }
    | _, _ => none
  | .choose =>
    match s.phase, choose s.seen with
    | .looking, none => some { s with phase := .over .not_seen }
    | .looking, some [] => some { s with phase := .over .idle }
    | .looking, some (k :: keys) => some { s with phase := .connecting, chosen := k :: keys }
    | _, _ => none
  | .send => if s.phase = .connecting then some { s with phase := .sweeping } else none
  -- a removal may be made more than once, and after the sweeper has gone
  | .erase k =>
    if s.phase.sent ∧ k ∈ s.chosen then
      some { s with store := s.store.erase k, erased := s.erased ++ [k] }
    else none
  | .confirm k =>
    if s.phase = .sweeping ∧ k ∈ s.erased then some { s with confirmed := s.confirmed ++ [k] }
    else none
  | .finish =>
    if s.phase = .sweeping then some { s with phase := .over s.outcome } else none
  | .fail =>
    match s.phase with
    | .looking => some { s with phase := .over .not_seen }
    | .connecting => some { s with phase := .over .not_sent }
    | _ => none

/-- What a step can do. -/
inductive Moves (s : State κ ν) : Act κ ν → State κ ν → Prop where
  | write (k : κ) (v : ν) : Moves s (.write k v) { s with store := s.store.insert k v }
  | remove (k : κ) : Moves s (.remove k) { s with store := s.store.erase k }
  | look (watched : κ → Bool) (hphase : s.phase = .looking) :
    Moves s (.look watched) { s with inbound := s.inbound ++
      (s.store.entries.filter fun entry => watched entry.1).map fun entry => (entry.1, entry.2) }
  | receive {k : κ} {v : ν} {inbound : List (κ × ν)} (hphase : s.phase = .looking)
    (hinbound : s.inbound = (k, v) :: inbound) :
    Moves s .receive { s with inbound, seen := s.seen.insert k v }
  | choose {keys : List κ} (hphase : s.phase = .looking) (hchoose : choose s.seen = some keys)
    (hne : keys ≠ []) : Moves s .choose { s with phase := .connecting, chosen := keys }
  | send (hphase : s.phase = .connecting) : Moves s .send { s with phase := .sweeping }
  | erase {k : κ} (hsent : s.phase.sent = true) (hk : k ∈ s.chosen) :
    Moves s (.erase k) { s with store := s.store.erase k, erased := s.erased ++ [k] }
  | confirm {k : κ} (hphase : s.phase = .sweeping) (hk : k ∈ s.erased) :
    Moves s (.confirm k) { s with confirmed := s.confirmed ++ [k] }
  | finish (hphase : s.phase = .sweeping) :
    Moves s .finish { s with phase := .over s.outcome }
  | idle (hphase : s.phase = .looking) (hchoose : choose s.seen = some []) :
    Moves s .choose { s with phase := .over .idle }
  /-- The sweeper gives up before it has sent anything. -/
  | stop {a : Act κ ν} {outcome : Outcome} (hphase : s.phase.sent = false)
    (houtcome : outcome = .not_seen ∨ outcome = .not_sent) :
    Moves s a { s with phase := .over outcome }

variable {choose} {s s' : State κ ν} {a : Act κ ν}

theorem moves_of_step (h : step choose s a = some s') : Moves choose s a s' := by
  cases a with
  | write k v =>
    cases h
    exact .write k v
  | remove k =>
    cases h
    exact .remove k
  | look watched =>
    obtain ⟨hphase, h⟩ := Option.ite_none_right_eq_some.mp h
    cases h
    exact .look watched hphase
  | receive =>
    simp only [step] at h
    split at h
    · cases h
      exact .receive ‹_› ‹_›
    · cases h
  | choose =>
    simp only [step] at h
    split at h
    · cases h
      exact .stop (by rw [‹s.phase = _›]; rfl) (.inl rfl)
    · cases h
      exact .idle ‹_› ‹_›
    · cases h
      exact .choose ‹_› ‹_› (List.cons_ne_nil _ _)
    · cases h
  | send =>
    obtain ⟨hphase, h⟩ := Option.ite_none_right_eq_some.mp h
    cases h
    exact .send hphase
  | erase k =>
    obtain ⟨⟨hsent, hk⟩, h⟩ := Option.ite_none_right_eq_some.mp h
    cases h
    exact .erase hsent hk
  | confirm k =>
    obtain ⟨⟨hphase, hk⟩, h⟩ := Option.ite_none_right_eq_some.mp h
    cases h
    exact .confirm hphase hk
  | finish =>
    obtain ⟨hphase, h⟩ := Option.ite_none_right_eq_some.mp h
    cases h
    exact .finish hphase
  | fail =>
    simp only [step] at h
    split at h
    · cases h
      exact .stop (by rw [‹s.phase = _›]; rfl) (.inl rfl)
    · cases h
      exact .stop (by rw [‹s.phase = _›]; rfl) (.inr rfl)
    · cases h

/-! ## What is never removed -/

section guarded

variable (Kept : κ → ν → Prop)

/-- A key with a value that is to be kept. -/
def Guarded (k : κ) : Prop := ∃ v, Kept k v

/-- A guarded key has nothing but values that are to be kept. -/
def Proper (k : κ) (v : ν) : Prop := Guarded Kept k → Kept k v

/-- The others put nothing else at a guarded key, and remove nothing there. -/
def Respects : Act κ ν → Prop
  | .write k v => Proper Kept k v
  | .remove k => ¬ Guarded Kept k
  | _ => True

/-- No guarded key is chosen, as long as nothing else was seen there. -/
def Spares (choose : Dict κ ν → Option (List κ)) : Prop :=
  ∀ seen keys, choose seen = some keys → (∀ k v, seen.lookup k = some v → Proper Kept k v) →
    ∀ k ∈ keys, ¬ Guarded Kept k

structure Safe (s : State κ ν) : Prop where
  store : ∀ k v, s.store.lookup k = some v → Proper Kept k v
  inbound : ∀ entry ∈ s.inbound, Proper Kept entry.1 entry.2
  seen : ∀ k v, s.seen.lookup k = some v → Proper Kept k v
  chosen : ∀ k ∈ s.chosen, ¬ Guarded Kept k

variable {Kept}

theorem Safe.start {store : Dict κ ν} (h : ∀ k v, store.lookup k = some v → Proper Kept k v) :
    Safe Kept (State.start store) where
  store := h
  inbound := nofun
  seen k v hlookup := by
    rw [State.start, AList.lookup_empty] at hlookup
    cases hlookup
  chosen := nofun

theorem proper_erase {P : κ → ν → Prop} {d : Dict κ ν}
    (hd : ∀ k v, d.lookup k = some v → P k v) (k : κ) :
    ∀ k' v', (d.erase k).lookup k' = some v' → P k' v' := by
  intro k' v' hlookup
  by_cases hk : k' = k
  · subst hk
    rw [AList.lookup_erase] at hlookup
    cases hlookup
  · rw [AList.lookup_erase_ne hk] at hlookup
    exact hd k' v' hlookup

theorem proper_insert {P : κ → ν → Prop} {d : Dict κ ν} {k : κ} {v : ν}
    (hd : ∀ k v, d.lookup k = some v → P k v) (hv : P k v) :
    ∀ k' v', (d.insert k v).lookup k' = some v' → P k' v' := by
  intro k' v' hlookup
  by_cases hk : k' = k
  · subst hk
    rw [AList.lookup_insert] at hlookup
    cases hlookup
    exact hv
  · rw [AList.lookup_insert_ne hk] at hlookup
    exact hd k' v' hlookup

/-- What is on its way to the sweeper is in the store when it looks. -/
theorem lookup_of_mem_looked {d : Dict κ ν} {watched : κ → Bool} {entry : κ × ν}
    (h : entry ∈ (d.entries.filter fun entry => watched entry.1).map fun entry =>
      (entry.1, entry.2)) : d.lookup entry.1 = some entry.2 := by
  obtain ⟨e, he, rfl⟩ := List.mem_map.mp h
  exact AList.mem_lookup_iff.mpr (List.mem_of_mem_filter he)

theorem Safe.step (hspares : Spares Kept choose) (h : Safe Kept s) (hact : Respects Kept a)
    (hstep : step choose s a = some s') : Safe Kept s' := by
  cases moves_of_step hstep with
  | write k v => exact { h with store := proper_insert h.store hact }
  | remove k => exact { h with store := proper_erase h.store k }
  | look watched hphase =>
    refine { h with inbound := List.forall_mem_append.mpr ⟨h.inbound, fun entry hentry => ?_⟩ }
    exact h.store _ _ (lookup_of_mem_looked hentry)
  | receive hphase hinbound =>
    have hhead := h.inbound
    rw [hinbound, List.forall_mem_cons] at hhead
    exact { h with inbound := hhead.2, seen := proper_insert h.seen hhead.1 }
  | choose hphase hchoose hne => exact { h with chosen := hspares _ _ hchoose h.seen }
  | send hphase => exact { h with }
  | @erase k hsent hk => exact { h with store := proper_erase h.store k }
  | confirm hphase hk => exact { h with }
  | finish hphase => exact { h with }
  | idle hphase hchoose => exact { h with }
  | stop hphase houtcome => exact { h with }

/-- What is held at a guarded key stays held there. -/
theorem Safe.held_step (h : Safe Kept s) (hact : Respects Kept a)
    (hstep : SnapshotSweep.step choose s a = some s') {k : κ} (hk : Guarded Kept k)
    (hheld : k ∈ s.store) : k ∈ s'.store := by
  cases moves_of_step hstep with
  | write k' v => exact (AList.mem_insert _).mpr (.inr hheld)
  | remove k' =>
    refine AList.mem_erase.mpr ⟨?_, hheld⟩
    rintro rfl
    exact hact hk
  | @erase k' hsent hk' =>
    refine AList.mem_erase.mpr ⟨?_, hheld⟩
    rintro rfl
    exact h.chosen k hk' hk
  | look | receive | choose | send | confirm | finish | idle | stop => exact hheld

/-- In every run in which the others respect the guarded keys, what is held there stays. -/
theorem Safe.run (hspares : Spares Kept choose) (h : Safe Kept s) {acts : List (Act κ ν)}
    (hacts : ∀ a ∈ acts, Respects Kept a) (hrun : run (SnapshotSweep.step choose) s acts = some s') :
    Safe Kept s' ∧ ∀ k, Guarded Kept k → k ∈ s.store → k ∈ s'.store := by
  have halong : Along (SnapshotSweep.step choose) (fun _ a => Respects Kept a) s acts :=
    along_of_forall fun a ha _ => hacts a ha
  refine run_preserves_along (I := fun s' => Safe Kept s' ∧
    ∀ k, Guarded Kept k → k ∈ s.store → k ∈ s'.store) ?_ ⟨h, fun _ _ hheld => hheld⟩ halong hrun
  rintro s' a s'' ⟨hsafe, hheld⟩ hact hstep
  refine ⟨hsafe.step hspares hact hstep, fun k hk hstart => ?_⟩
  exact hsafe.held_step hact hstep hk (hheld k hk hstart)

end guarded

/-! ## What is removed -/

/-- Where what the sweeper knows and does comes from, in the run of `acts` from `init`. -/
structure Accounted (choose : Dict κ ν → Option (List κ)) (init : State κ ν)
    (acts : List (Act κ ν)) (s : State κ ν) : Prop where
  inbound : ∀ entry ∈ s.inbound, Occurred (step choose) init acts fun mid _ =>
    mid.store.lookup entry.1 = some entry.2
  seen : ∀ k v, s.seen.lookup k = some v → Occurred (step choose) init acts fun mid _ =>
    mid.store.lookup k = some v
  looking : s.phase = .looking → s.chosen = []
  chosen : s.chosen = [] ∨ s.phase ≠ .looking ∧ choose s.seen = some s.chosen
  sent : s.phase = .connecting ∨ s.phase.sent = true → choose s.seen = some s.chosen
  unsent : s.phase.sent = false → s.erased = []
  erased : ∀ k ∈ s.erased, k ∈ s.chosen ∧ Occurred (step choose) init acts fun _ a => a = .erase k
  confirmed : ∀ k ∈ s.confirmed, k ∈ s.erased
  idle : s.phase = .over .idle → choose s.seen = some []
  complete : s.phase = .over .complete → ∀ k ∈ s.chosen, k ∈ s.erased

variable {init : State κ ν} {acts : List (Act κ ν)}

theorem Accounted.start (store : Dict κ ν) :
    Accounted choose (State.start store) [] (State.start store) where
  inbound := nofun
  seen k v hlookup := by
    rw [State.start, AList.lookup_empty] at hlookup
    cases hlookup
  looking _ := rfl
  chosen := .inl rfl
  sent := by rintro (h | h) <;> cases h
  unsent _ := rfl
  erased := nofun
  confirmed := nofun
  idle := nofun
  complete := nofun

theorem Accounted.step (hrun : run (SnapshotSweep.step choose) init acts = some s)
    (h : Accounted choose init acts s) (hstep : SnapshotSweep.step choose s a = some s') :
    Accounted choose init (acts ++ [a]) s' := by
  have hbefore {P : State κ ν → Act κ ν → Prop}
      (hoccurred : Occurred (SnapshotSweep.step choose) init acts P) :
      Occurred (SnapshotSweep.step choose) init (acts ++ [a]) P :=
    (occurred_append_singleton_iff hrun).mpr (.inl hoccurred)
  have hnow {P : State κ ν → Act κ ν → Prop} (hP : P s a) :
      Occurred (SnapshotSweep.step choose) init (acts ++ [a]) P :=
    (occurred_append_singleton_iff hrun).mpr (.inr hP)
  have hinbound := fun entry hentry => hbefore (h.inbound entry hentry)
  have hseen := fun k v hlookup => hbefore (h.seen k v hlookup)
  have herased := fun k hk => (h.erased k hk).imp_right hbefore
  cases moves_of_step hstep with
  | write k v => exact { h with inbound := hinbound, seen := hseen, erased := herased }
  | remove k => exact { h with inbound := hinbound, seen := hseen, erased := herased }
  | look watched hphase =>
    refine { h with inbound := ?_, seen := hseen, erased := herased }
    exact List.forall_mem_append.mpr ⟨hinbound, fun entry hentry =>
      hnow (lookup_of_mem_looked hentry)⟩
  | @receive k v inbound hphase hrest =>
    rw [hrest, List.forall_mem_cons] at hinbound
    exact { h with
      inbound := hinbound.2
      seen := proper_insert hseen hinbound.1
      chosen := .inl (h.looking hphase)
      sent := by
        rw [hphase]
        rintro (h | h) <;> cases h
      erased := herased
      idle := fun hidle => by cases hphase.symm.trans hidle }
  | @choose keys hphase hchoose hne =>
    exact { h with
      inbound := hinbound, seen := hseen
      looking := nofun
      chosen := .inr ⟨nofun, hchoose⟩
      sent := fun _ => hchoose
      unsent := fun _ => h.unsent (by rw [hphase]; rfl)
      erased := by
        rw [h.unsent (by rw [hphase]; rfl)]
        nofun
      idle := nofun, complete := nofun }
  | send hphase =>
    exact { h with
      inbound := hinbound, seen := hseen, erased := herased
      looking := nofun
      chosen := h.chosen.imp_right fun hchosen => ⟨nofun, hchosen.2⟩
      sent := fun _ => h.sent (.inl hphase)
      unsent := nofun, idle := nofun, complete := nofun }
  | @erase k hsent hk =>
    exact { h with
      inbound := hinbound, seen := hseen
      unsent := fun hunsent => by cases hsent.symm.trans hunsent
      erased := List.forall_mem_append.mpr ⟨herased, List.forall_mem_singleton.mpr ⟨hk, hnow rfl⟩⟩
      confirmed := fun k' hk' => List.mem_append_left _ (h.confirmed k' hk')
      complete := fun hcomplete k' hk' => List.mem_append_left _ (h.complete hcomplete k' hk') }
  | @confirm k hphase hk =>
    exact { h with
      inbound := hinbound, seen := hseen, erased := herased
      confirmed := List.forall_mem_append.mpr ⟨h.confirmed, List.forall_mem_singleton.mpr hk⟩ }
  | finish hphase =>
    refine { h with
      inbound := hinbound, seen := hseen, erased := herased
      looking := nofun
      chosen := h.chosen.imp_right fun hchosen => ⟨nofun, hchosen.2⟩
      sent := fun _ => h.sent (.inr (by rw [hphase]; rfl))
      unsent := ?_, idle := ?_, complete := ?_ }
    · unfold State.outcome
      split_ifs <;> nofun
    · unfold State.outcome
      split_ifs <;> nofun
    · unfold State.outcome
      split_ifs with hall
      · exact fun _ k hk => h.confirmed k (hall k hk)
      · nofun
  | idle hphase hchoose =>
    exact { h with
      inbound := hinbound, seen := hseen, erased := herased
      looking := nofun
      chosen := .inl (h.looking hphase)
      sent := by rintro (h | h) <;> cases h
      unsent := fun _ => h.unsent (by rw [hphase]; rfl)
      idle := fun _ => hchoose, complete := nofun }
  | stop hphase houtcome =>
    refine { h with
      inbound := hinbound, seen := hseen, erased := herased
      looking := nofun
      chosen := h.chosen.imp_right fun hchosen => ⟨nofun, hchosen.2⟩
      sent := ?_
      unsent := fun _ => h.unsent hphase
      idle := ?_, complete := ?_ }
    · obtain rfl | rfl := houtcome <;> rintro (h | h) <;> cases h
    · obtain rfl | rfl := houtcome <;> nofun
    · obtain rfl | rfl := houtcome <;> nofun

/-- Every run of a sweeper accounts for its removals. -/
theorem run_accounted {store : Dict κ ν}
    (hrun : run (step choose) (State.start store) acts = some s) :
    Accounted choose (State.start store) acts s :=
  run_preserves_history (Accounted.start store) (fun _ _ _ _ hrun h hstep => h.step hrun hstep) hrun

end

end SnapshotSweep
