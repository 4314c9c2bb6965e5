import InverterBridge.Lib.Trace
import InverterBridge.Lib.TransitionSystem
import Mathlib.Data.List.Perm.Basic

open TransitionSystem Trace

/-! A client that sends numbered requests, one at a time, to a server that answers with the
number; a request may time out, and its answer come later. -/

namespace RequestReply

/-- What the client reads: an answer, or a frame it ignores. -/
inductive Frame (α : Type*) where
  | result (id : Nat) (answer : α)
  | other

/-- What changes the server's state: a request that it serves, making a choice of its own, or
something the client has no part in. -/
inductive Change (σ ρ α κ : Type*) where
  | served (id : Nat) (request : ρ) (choice : κ) (answer : α)
  | foreign (f : σ → σ)

/-- The server with the changes so far, the requests and the frames on their way, and the
client: the requests it has sent, the one it waits for, and how each of the others ended. -/
structure State (σ ρ α ε κ : Type*) where
  server : σ
  log : List (Change σ ρ α κ)
  requests : List (Nat × ρ)
  frames : List (Frame α)
  next_id : Nat
  sent : List ρ
  waiting : Option (Nat × ρ)
  told : List (ρ × Except ε α)
  closed : Bool

inductive Act (σ ε κ : Type*) where
  | send
  /-- The server serves any of the requests that have come in. -/
  | serve (k : Nat) (choice : κ)
  | push
  | change (f : σ → σ)
  | receive
  | time_out (e : ε)
  | close

variable {σ ρ α ε κ : Type*}

/-- A new connection. -/
def State.init (server : σ) : State σ ρ α ε κ :=
  ⟨server, [], [], [], 1, [], none, [], false⟩

/-- A server, by what it does with a request, and a client, by the request it sends next. -/
structure Parties (σ ρ α ε κ : Type*) where
  serve : κ → σ → ρ → σ × α
  next : List (ρ × Except ε α) → Option ρ

/-- The requests that were served, with the answers, in order. -/
def answers (log : List (Change σ ρ α κ)) : List (ρ × α) :=
  log.filterMap fun change =>
    match change with
    | .served _ request _ answer => some (request, answer)
    | .foreign _ => none

def served_ids (log : List (Change σ ρ α κ)) : List Nat :=
  log.filterMap fun change =>
    match change with
    | .served id _ _ _ => some id
    | .foreign _ => none

namespace Parties

variable (P : Parties σ ρ α ε κ)

def step (s : State σ ρ α ε κ) : Act σ ε κ → Option (State σ ρ α ε κ)
  | .send =>
    match s.closed, s.waiting, P.next s.told with
    | false, none, some request =>
      some { s with
        requests := s.requests ++ [(s.next_id, request)]
        next_id := s.next_id + 1
        sent := s.sent ++ [request]
        waiting := some (s.next_id, request) }
    | _, _, _ => none
  | .serve k choice =>
    match s.requests[k]? with
    | some (id, request) =>
      let (server, answer) := P.serve choice s.server request
      some { s with
        server
        log := s.log ++ [.served id request choice answer]
        requests := s.requests.eraseIdx k
        frames := s.frames ++ [.result id answer] }
    | none => none
  | .push => some { s with frames := s.frames ++ [.other] }
  | .change f => some { s with server := f s.server, log := s.log ++ [.foreign f] }
  | .receive =>
    match s.waiting, s.frames with
    | some (id, request), frame :: frames =>
      match frame with
      | .result id' answer =>
        -- a late answer to an earlier request is ignored
        if id' = id then
          some { s with frames, waiting := none, told := s.told ++ [(request, .ok answer)] }
        else some { s with frames }
      | .other => some { s with frames }
    | _, _ => none
  | .time_out e =>
    match s.waiting with
    | some (_, request) =>
      some { s with waiting := none, told := s.told ++ [(request, .error e)] }
    | none => none
  | .close => some { s with closed := true, waiting := none }

/-- What a change makes of the server's state. -/
def change (s : σ) : Change σ ρ α κ → σ
  | .served _ request choice _ => (P.serve choice s request).1
  | .foreign f => f s

def replay (init : σ) (log : List (Change σ ρ α κ)) : σ := log.foldl P.change init

/-- An answer is what the server gave in the state it was in. -/
def Answered (init : σ) (before : List (Change σ ρ α κ)) : Change σ ρ α κ → Prop
  | .served _ request choice answer => answer = (P.serve choice (P.replay init before) request).2
  | .foreign _ => True

end Parties

/-- `request` was the one sent with the number `id`. -/
def State.Sent (s : State σ ρ α ε κ) (id : Nat) (request : ρ) : Prop :=
  ∃ n, id = n + 1 ∧ s.sent[n]? = some request

/-- Requests, answers and what the client was told belong together, by their numbers. -/
structure Parties.Correlated (P : Parties σ ρ α ε κ) (init : σ) (s : State σ ρ α ε κ) : Prop where
  server : s.server = P.replay init s.log
  answered : EachAt (P.Answered init) s.log
  next_id : s.next_id = s.sent.length + 1
  requests : ∀ id request, (id, request) ∈ s.requests → s.Sent id request
  served : ∀ id request choice answer, .served id request choice answer ∈ s.log →
    s.Sent id request
  distinct : (s.requests.map Prod.fst ++ served_ids s.log).Nodup
  frames : ∀ id answer, .result id answer ∈ s.frames →
    ∃ request choice, .served id request choice answer ∈ s.log
  waiting : ∀ id request, s.waiting = some (id, request) → s.closed = false ∧
    id = s.told.length + 1 ∧ s.sent = s.told.map Prod.fst ++ [request]
  idle : s.waiting = none → s.closed = false → s.sent = s.told.map Prod.fst
  told_sent : s.told.map Prod.fst <+: s.sent
  sent_length : s.sent.length ≤ s.told.length + 1
  told : ∀ n request answer, s.told[n]? = some (request, .ok answer) →
    ∃ choice, .served (n + 1) request choice answer ∈ s.log
  chosen : ∀ n request, s.sent[n]? = some request → P.next (s.told.take n) = some request
  first : ∀ request answer, s.told[0]? = some (request, .ok answer) →
    (answers s.log)[0]? = some (request, answer)

section

variable {P : Parties σ ρ α ε κ} {init : σ} {s s' : State σ ρ α ε κ}

namespace State

theorem sent_append {request : ρ} {id : Nat} {r : ρ} (h : s.Sent id r)
    (hs' : s'.sent = s.sent ++ [request]) : s'.Sent id r := by
  obtain ⟨n, rfl, hn⟩ := h
  refine ⟨n, rfl, ?_⟩
  rw [hs', List.getElem?_append_left (List.getElem?_eq_some_iff.mp hn).1, hn]

theorem Sent.le {id : Nat} {r : ρ} (h : s.Sent id r) : id ≤ s.sent.length := by
  obtain ⟨n, rfl, hn⟩ := h
  exact (List.getElem?_eq_some_iff.mp hn).1

/-- No two requests were sent with one number. -/
theorem Sent.unique {id : Nat} {r r' : ρ} (h : s.Sent id r) (h' : s.Sent id r') : r = r' := by
  obtain ⟨n, rfl, hn⟩ := h
  obtain ⟨m, hm, hr'⟩ := h'
  obtain rfl : n = m := Nat.succ.inj hm
  exact Option.some.inj (hn.symm.trans hr')

end State

@[simp] theorem served_ids_append (log log' : List (Change σ ρ α κ)) :
    served_ids (log ++ log') = served_ids log ++ served_ids log' := by
  simp [served_ids]

@[simp] theorem answers_append (log log' : List (Change σ ρ α κ)) :
    answers (log ++ log') = answers log ++ answers log' := by
  simp [answers]

/-- Nobody else changed the server's state. -/
def alone (log : List (Change σ ρ α κ)) : Bool :=
  log.all fun change =>
    match change with
    | .served _ _ _ _ => true
    | .foreign _ => false

theorem alone_append {log log' : List (Change σ ρ α κ)} :
    alone (log ++ log') = (alone log && alone log') :=
  List.all_append

theorem mem_served_ids {log : List (Change σ ρ α κ)} {id : Nat} :
    id ∈ served_ids log ↔ ∃ request choice answer, .served id request choice answer ∈ log := by
  simp only [served_ids, List.mem_filterMap]
  constructor
  · rintro ⟨change, hmem, hid⟩
    cases change with
    | served id' request choice answer =>
      cases hid
      exact ⟨request, choice, answer, hmem⟩
    | foreign f => cases hid
  · rintro ⟨request, choice, answer, hmem⟩
    exact ⟨_, hmem, rfl⟩

/-- An element of a list and one more. -/
theorem getElem?_append_singleton_cases {β : Type*} {l : List β} {x y : β} {n : Nat}
    (h : (l ++ [x])[n]? = some y) : l[n]? = some y ∨ n = l.length ∧ x = y := by
  obtain hlt | hle := Nat.lt_or_ge n l.length
  · exact .inl (by rwa [List.getElem?_append_left hlt] at h)
  · rw [List.getElem?_append_right hle] at h
    have hn : n - l.length = 0 := by
      have := (List.getElem?_eq_some_iff.mp h).1
      rw [List.length_singleton] at this
      omega
    rw [hn] at h
    exact .inr ⟨by omega, Option.some.inj h⟩

/-- The server serves no number twice. -/
theorem served_unique {log : List (Change σ ρ α κ)} (hnodup : (served_ids log).Nodup) {id : Nat}
    {r r' : ρ} {c c' : κ} {a a' : α} (h : .served id r c a ∈ log) (h' : .served id r' c' a' ∈ log) :
    r = r' ∧ c = c' ∧ a = a' := by
  induction log with
  | nil => cases h
  | cons change log ih =>
    cases change with
    | foreign f => exact ih hnodup (by simpa using h) (by simpa using h')
    | served id' request choice answer =>
      obtain ⟨hfirst, hnodup⟩ := List.nodup_cons.mp hnodup
      have hother : ∀ {r c a}, .served id r c a ∈ log → id ≠ id' := fun hmem heq =>
        hfirst (heq ▸ mem_served_ids.mpr ⟨_, _, _, hmem⟩)
      obtain heq | hmem := List.mem_cons.mp h
      · obtain heq' | hmem' := List.mem_cons.mp h'
        · cases heq
          cases heq'
          exact ⟨rfl, rfl, rfl⟩
        · cases heq
          exact absurd rfl (hother hmem')
      · obtain heq' | hmem' := List.mem_cons.mp h'
        · cases heq'
          exact absurd rfl (hother hmem)
        · exact ih hnodup hmem hmem'

namespace Parties

theorem replay_append (log log' : List (Change σ ρ α κ)) :
    P.replay init (log ++ log') = P.replay (P.replay init log) log' :=
  List.foldl_append

theorem correlated_init : P.Correlated init (.init init) where
  server := rfl
  answered := eachAt_nil
  next_id := rfl
  requests := by simp [State.init]
  served := by simp [State.init]
  distinct := List.nodup_nil
  frames := by simp [State.init]
  waiting := by simp [State.init]
  idle _ _ := rfl
  told_sent := List.prefix_rfl
  sent_length := Nat.zero_le 1
  told := by simp [State.init]
  chosen := by simp [State.init]
  first := by simp [State.init]

namespace Correlated

theorem told_length_le (h : P.Correlated init s) : s.told.length ≤ s.sent.length := by
  rw [← List.length_map Prod.fst]
  exact h.told_sent.length_le

/-- What the client was told before it sent a request stays the same. -/
theorem chosen_append {id n : Nat} {request r : ρ} {ended : ρ × Except ε α}
    (h : P.Correlated init s) (hwaiting : s.waiting = some (id, request))
    (hr : s.sent[n]? = some r) : P.next ((s.told ++ [ended]).take n) = some r := by
  have hlt := (List.getElem?_eq_some_iff.mp hr).1
  rw [(h.waiting id request hwaiting).2.2, List.length_append, List.length_map] at hlt
  rw [List.take_append_of_le_length (Nat.lt_succ_iff.mp hlt)]
  exact h.chosen n r hr

theorem length_answers (log : List (Change σ ρ α κ)) :
    (answers log).length = (served_ids log).length := by
  induction log with
  | nil => rfl
  | cons change log ih =>
    cases change with
    | foreign f => exact ih
    | served id request choice answer => exact congrArg (· + 1) ih

theorem first_append {log : List (Change σ ρ α κ)} {first : ρ × α} (change : Change σ ρ α κ)
    (h : (answers log)[0]? = some first) : (answers (log ++ [change]))[0]? = some first := by
  rw [answers_append, List.getElem?_append_left (List.getElem?_eq_some_iff.mp h).1, h]

/-- When one request was sent, no other was served. -/
theorem answers_of_sent (h : P.Correlated init s) (hsent : s.sent.length = 1) {id : Nat}
    {request : ρ} {choice : κ} {answer : α} (hlog : .served id request choice answer ∈ s.log) :
    (answers s.log)[0]? = some (request, answer) := by
  have hids : served_ids s.log ⊆ [1] := fun id' hid' => by
    obtain ⟨r, c, a, hmem⟩ := mem_served_ids.mp hid'
    have hle := (h.served id' r c a hmem).le
    obtain ⟨n, rfl, -⟩ := h.served id' r c a hmem
    rw [List.mem_singleton]
    omega
  have hlength : (answers s.log).length ≤ 1 := by
    rw [length_answers]
    exact (List.subperm_of_subset (List.nodup_append.mp h.distinct).2.1 hids).length_le
  have hmem : (request, answer) ∈ answers s.log := List.mem_filterMap.mpr ⟨_, hlog, rfl⟩
  obtain ⟨n, hn⟩ := List.getElem?_of_mem hmem
  have hlt := (List.getElem?_eq_some_iff.mp hn).1
  obtain rfl : n = 0 := by omega
  exact hn

theorem send (h : P.Correlated init s) (hstep : P.step s .send = some s') :
    P.Correlated init s' := by
  simp only [step] at hstep
  split at hstep
  case h_2 => cases hstep
  case h_1 request hclosed hwaiting hnext =>
  cases hstep
  have hsent := h.idle hwaiting hclosed
  have hlength : s.sent.length = s.told.length := by rw [hsent, List.length_map]
  have hlt : ∀ id r, s.Sent id r → id < s.next_id := fun id r hr =>
    h.next_id ▸ Nat.lt_succ_of_le hr.le
  constructor
  case server => exact h.server
  case answered => exact h.answered
  case next_id => simp [h.next_id]
  case requests =>
    intro id r hmem
    obtain hmem | hmem := List.mem_append.mp hmem
    · exact State.sent_append (h.requests id r hmem) rfl
    · obtain ⟨rfl, rfl⟩ := Prod.mk.inj (List.mem_singleton.mp hmem)
      exact ⟨s.sent.length, h.next_id, List.getElem?_concat_length⟩
  case served =>
    exact fun id r choice answer hmem => State.sent_append (h.served id r choice answer hmem) rfl
  case distinct =>
    have hfresh : s.next_id ∉ s.requests.map Prod.fst ++ served_ids s.log := by
      intro hmem
      obtain hmem | hmem := List.mem_append.mp hmem
      · obtain ⟨⟨id, r⟩, hmem, rfl⟩ := List.mem_map.mp hmem
        exact Nat.lt_irrefl _ (hlt _ r (h.requests _ r hmem))
      · obtain ⟨r, choice, answer, hmem⟩ := mem_served_ids.mp hmem
        exact Nat.lt_irrefl _ (hlt _ r (h.served _ r choice answer hmem))
    rw [List.map_append, List.append_assoc]
    refine List.Perm.nodup_iff ?_ |>.mpr (List.nodup_cons.mpr ⟨hfresh, h.distinct⟩)
    exact List.perm_middle
  case frames => exact h.frames
  case waiting =>
    rintro id r heq
    obtain ⟨rfl, rfl⟩ := Prod.mk.inj (Option.some.inj heq)
    exact ⟨hclosed, by rw [h.next_id, hlength], by rw [← hsent]⟩
  case idle => exact nofun
  case told_sent => exact h.told_sent.trans (List.prefix_append _ _)
  case sent_length => simp [hlength]
  case told => exact h.told
  case chosen =>
    intro n r hr
    obtain hold | ⟨rfl, rfl⟩ := getElem?_append_singleton_cases hr
    · exact h.chosen n r hold
    · rw [hlength, List.take_length, hnext]
  case first => exact h.first

theorem serve {k : Nat} {choice : κ} (h : P.Correlated init s)
    (hstep : P.step s (.serve k choice) = some s') : P.Correlated init s' := by
  simp only [step] at hstep
  split at hstep
  case h_2 => cases hstep
  case h_1 id request hk =>
  cases hstep
  have hmem : (id, request) ∈ s.requests := List.mem_of_getElem? hk
  constructor
  case server =>
    rw [replay_append, ← h.server]
    rfl
  case answered =>
    refine eachAt_append_singleton.mpr ⟨h.answered, ?_⟩
    rw [Answered, ← h.server]
  case next_id => exact h.next_id
  case requests => exact fun id r hr => h.requests id r (List.mem_of_mem_eraseIdx hr)
  case served =>
    intro id' r choice' answer hlog
    obtain hlog | hlog := List.mem_append.mp hlog
    · exact h.served id' r choice' answer hlog
    · cases List.mem_singleton.mp hlog
      exact h.requests id request hmem
  case distinct =>
    refine List.Perm.nodup_iff ?_ |>.mpr h.distinct
    obtain ⟨hlt, hget⟩ := List.getElem?_eq_some_iff.mp hk
    have hperm := (List.getElem_cons_eraseIdx_perm hlt).map Prod.fst
    rw [hget, List.map_cons] at hperm
    rw [served_ids_append, ← List.append_assoc]
    exact (List.perm_append_singleton _ _).trans (hperm.append_right (served_ids s.log))
  case frames =>
    intro id' answer hframe
    obtain hframe | hframe := List.mem_append.mp hframe
    · obtain ⟨r, choice', hlog⟩ := h.frames id' answer hframe
      exact ⟨r, choice', List.mem_append_left _ hlog⟩
    · cases List.mem_singleton.mp hframe
      exact ⟨request, choice, List.mem_append_right _ (List.mem_singleton.mpr rfl)⟩
  case waiting => exact h.waiting
  case idle => exact h.idle
  case told_sent => exact h.told_sent
  case sent_length => exact h.sent_length
  case told =>
    intro n r answer htold
    obtain ⟨choice', hlog⟩ := h.told n r answer htold
    exact ⟨choice', List.mem_append_left _ hlog⟩
  case chosen => exact h.chosen
  case first => exact fun r answer htold => first_append _ (h.first r answer htold)

theorem receive (h : P.Correlated init s) (hstep : P.step s .receive = some s') :
    P.Correlated init s' := by
  simp only [step] at hstep
  split at hstep
  case h_2 => cases hstep
  case h_1 id request frame frames hwaiting hframes =>
  obtain ⟨hclosed, hid, hsent⟩ := h.waiting id request hwaiting
  have hrest : ∀ id' answer, .result id' answer ∈ frames →
      ∃ r choice, .served id' r choice answer ∈ s.log := fun id' answer hframe =>
    h.frames id' answer (hframes ▸ List.mem_cons_of_mem _ hframe)
  cases frame with
  | other =>
    cases hstep
    exact { h with frames := hrest }
  | result id' answer =>
    simp only at hstep
    split at hstep
    case isFalse hother =>
      cases hstep
      exact { h with frames := hrest }
    case isTrue heq =>
    cases hstep
    have hserved : ∃ choice, .served id request choice answer ∈ s.log := by
      obtain ⟨r, choice, hlog⟩ := h.frames id' answer (by simp [hframes])
      have hr : s.Sent id r := heq ▸ h.served id' r choice answer hlog
      have hrequest : s.Sent id request := by
        refine ⟨s.told.length, hid, ?_⟩
        rw [hsent, ← List.length_map Prod.fst, List.getElem?_concat_length]
      exact ⟨choice, by rw [← heq, ← hr.unique hrequest]; exact hlog⟩
    exact {
      h with
      frames := hrest
      waiting := nofun
      idle := fun _ _ => by rw [List.map_append, hsent]; rfl
      told_sent := by rw [List.map_append, hsent]; exact List.prefix_rfl
      sent_length := by simp [hsent]
      told := by
        intro n r a htold
        obtain hold | ⟨rfl, hlast⟩ := getElem?_append_singleton_cases htold
        · exact h.told n r a hold
        · cases hlast
          exact hid ▸ hserved
      chosen := fun n r hr => h.chosen_append hwaiting hr
      first := by
        intro r a htold
        obtain hold | ⟨hempty, hlast⟩ := getElem?_append_singleton_cases htold
        · exact h.first r a hold
        · cases hlast
          obtain ⟨choice, hlog⟩ := hserved
          exact h.answers_of_sent (by simp [hsent, ← hempty]) hlog }

theorem time_out {e : ε} (h : P.Correlated init s) (hstep : P.step s (.time_out e) = some s') :
    P.Correlated init s' := by
  simp only [step] at hstep
  split at hstep
  case h_2 => cases hstep
  case h_1 id request hwaiting =>
  cases hstep
  obtain ⟨hclosed, hid, hsent⟩ := h.waiting id request hwaiting
  exact {
    h with
    waiting := nofun
    idle := fun _ _ => by rw [List.map_append, hsent]; rfl
    told_sent := by rw [List.map_append, hsent]; exact List.prefix_rfl
    sent_length := by simp [hsent]
    told := by
      intro n r a htold
      obtain hold | ⟨rfl, hlast⟩ := getElem?_append_singleton_cases htold
      · exact h.told n r a hold
      · cases hlast
    chosen := fun n r hr => h.chosen_append hwaiting hr
    first := by
      intro r a htold
      obtain hold | ⟨-, hlast⟩ := getElem?_append_singleton_cases htold
      · exact h.first r a hold
      · cases hlast }

/-- What one step preserves. -/
theorem step (h : P.Correlated init s) {act : Act σ ε κ} (hstep : P.step s act = some s') :
    P.Correlated init s' := by
  cases act with
  | send => exact h.send hstep
  | serve k choice => exact h.serve hstep
  | receive => exact h.receive hstep
  | time_out e => exact h.time_out hstep
  | push =>
    cases hstep
    refine { h with frames := fun id answer hframe => ?_ }
    obtain hframe | hframe := List.mem_append.mp hframe
    · exact h.frames id answer hframe
    · cases List.mem_singleton.mp hframe
  | change f =>
    cases hstep
    exact {
      h with
      server := by rw [replay_append, ← h.server]; rfl
      answered := eachAt_append_singleton.mpr ⟨h.answered, trivial⟩
      served := fun id r choice answer hlog => by
        obtain hlog | hlog := List.mem_append.mp hlog
        · exact h.served id r choice answer hlog
        · cases List.mem_singleton.mp hlog
      distinct := by
        rw [served_ids_append]
        exact (List.append_nil (served_ids s.log)).symm ▸ h.distinct
      frames := fun id answer hframe => by
        obtain ⟨r, choice, hlog⟩ := h.frames id answer hframe
        exact ⟨r, choice, List.mem_append_left _ hlog⟩
      told := fun n r answer htold => by
        obtain ⟨choice, hlog⟩ := h.told n r answer htold
        exact ⟨choice, List.mem_append_left _ hlog⟩
      first := fun r answer htold => first_append _ (h.first r answer htold) }
  | close =>
    cases hstep
    exact { h with waiting := nofun, idle := fun _ => nofun }

end Correlated

/-- What the client was told it does not forget. -/
theorem told_grows {act : Act σ ε κ} (hstep : P.step s act = some s') : s.told <+: s'.told := by
  cases act with
  | serve k choice =>
    simp only [step] at hstep
    split at hstep
    case h_2 => cases hstep
    case h_1 =>
      cases hstep
      exact List.prefix_rfl
  | receive =>
    simp only [step] at hstep
    split at hstep
    case h_2 => cases hstep
    case h_1 frame _ _ _ =>
      cases frame with
      | other =>
        cases hstep
        exact List.prefix_rfl
      | result id answer =>
        simp only at hstep
        split at hstep <;> cases hstep
        · exact List.prefix_append _ _
        · exact List.prefix_rfl
  | send | time_out e =>
    simp only [step] at hstep
    split at hstep <;> cases hstep
    first | exact List.prefix_append _ _ | exact List.prefix_rfl
  | push | change f | close =>
    cases hstep
    exact List.prefix_rfl

theorem run_correlated {acts : List (Act σ ε κ)} (hrun : run P.step (.init init) acts = some s) :
    P.Correlated init s :=
  run_preserves (fun _ _ _ h hstep => h.step hstep) correlated_init hrun

/-! ## How many requests were served -/

variable (p : ρ → α → Bool)

/-- The numbers of the requests that were served as `p` says. -/
def ids_where (log : List (Change σ ρ α κ)) : List Nat :=
  log.filterMap fun change =>
    match change with
    | .served id request _ answer => if p request answer then some id else none
    | .foreign _ => none

theorem mem_ids_where {log : List (Change σ ρ α κ)} {id : Nat} : id ∈ ids_where p log ↔
    ∃ request choice answer, .served id request choice answer ∈ log ∧ p request answer := by
  simp only [ids_where, List.mem_filterMap]
  constructor
  · rintro ⟨change, hmem, hid⟩
    cases change with
    | foreign f => cases hid
    | served id' request choice answer =>
      obtain ⟨hp, heq⟩ := Option.ite_none_right_eq_some.mp hid
      cases heq
      exact ⟨request, choice, answer, hmem, hp⟩
  · rintro ⟨request, choice, answer, hmem, hp⟩
    exact ⟨_, hmem, if_pos hp⟩

theorem ids_where_sublist (log : List (Change σ ρ α κ)) :
    (ids_where p log).Sublist (served_ids log) := by
  induction log with
  | nil => exact .slnil
  | cons change log ih =>
    cases change with
    | foreign f => exact ih
    | served id request choice answer =>
      cases hp : p request answer with
      | true => simpa [ids_where, served_ids, hp] using ih
      | false => simpa [ids_where, served_ids, hp] using ih.cons id

theorem length_ids_where (log : List (Change σ ρ α κ)) :
    (ids_where p log).length = (answers log).countP fun a => p a.1 a.2 := by
  induction log with
  | nil => rfl
  | cons change log ih =>
    cases change with
    | foreign f => exact ih
    | served id request choice answer =>
      cases hp : p request answer with
      | true => simpa [ids_where, answers, hp] using ih
      | false => simpa [ids_where, answers, hp] using ih

/-- Whether a request ended with an answer as `p` says. -/
def told_where (ended : ρ × Except ε α) : Bool :=
  match ended.2 with
  | .ok answer => p ended.1 answer
  | .error _ => false

def timed_out (ended : ρ × Except ε α) : Bool :=
  match ended.2 with
  | .ok _ => false
  | .error _ => true

namespace Correlated

theorem nodup_ids_where (h : P.Correlated init s) : (ids_where p s.log).Nodup :=
  ((List.nodup_append.mp h.distinct).2.1).sublist (ids_where_sublist p s.log)

/-- Each answer that the client got is the one to a request that was served. -/
theorem countP_told_le (h : P.Correlated init s) :
    s.told.countP (told_where p) ≤ (answers s.log).countP fun a => p a.1 a.2 := by
  rw [← List.length_findIdxs (s := 1), ← length_ids_where]
  refine (List.subperm_of_subset List.nodup_findIdxs fun id hid => ?_).length_le
  obtain ⟨hle, hlt, hwhere⟩ := List.mem_findIdxs_iff_getElem_sub_pos.mp hid
  cases htold : s.told[id - 1] with
  | mk request ended =>
    rw [htold] at hwhere
    cases ended with
    | error e => cases hwhere
    | ok answer =>
      obtain ⟨choice, hlog⟩ := h.told (id - 1) request answer
        (List.getElem?_eq_some_iff.mpr ⟨hlt, htold⟩)
      rw [Nat.sub_add_cancel hle] at hlog
      exact (mem_ids_where p).mpr ⟨request, choice, answer, hlog, hwhere⟩

/-- A request that was served is one whose answer the client got, or that timed out, or is the
last one. -/
theorem countP_answers_le (h : P.Correlated init s) :
    ((answers s.log).countP fun a => p a.1 a.2) ≤
      (s.told.countP (told_where p) + s.told.countP timed_out) +
        (s.sent.length - s.told.length) := by
  have hends : (ids_where p s.log).length ≤ ((s.told.findIdxs (told_where p) 1 ++
      s.told.findIdxs timed_out 1) ++
        List.range' (s.told.length + 1) (s.sent.length - s.told.length)).length := by
    refine (List.subperm_of_subset (h.nodup_ids_where p) fun id hid => ?_).length_le
    obtain ⟨request, choice, answer, hlog, hp⟩ := (mem_ids_where p).mp hid
    obtain ⟨n, rfl, hsent⟩ := h.served id request choice answer hlog
    have hlt := (List.getElem?_eq_some_iff.mp hsent).1
    obtain htold | hlast := Nat.lt_or_ge n s.told.length
    case inr =>
      refine List.mem_append_right _ (List.mem_range'_1.mpr ⟨by omega, by omega⟩)
    refine List.mem_append_left _ ?_
    cases hget : s.told[n] with
    | mk request' ended =>
      have hended := List.getElem?_eq_some_iff.mpr ⟨htold, hget⟩
      cases ended with
      | error e =>
        refine List.mem_append_right _ (List.mem_findIdxs_iff_getElem_sub_pos.mpr ?_)
        exact ⟨Nat.le_add_left 1 n, htold, by simp [hget, timed_out]⟩
      | ok answer' =>
        obtain ⟨choice', hlog'⟩ := h.told n request' answer' hended
        obtain ⟨rfl, -, rfl⟩ := served_unique (List.nodup_append.mp h.distinct).2.1 hlog hlog'
        refine List.mem_append_left _ (List.mem_findIdxs_iff_getElem_sub_pos.mpr ?_)
        exact ⟨Nat.le_add_left 1 n, htold, by simp [hget, told_where, hp]⟩
  rwa [length_ids_where, List.length_append, List.length_append, List.length_findIdxs,
    List.length_findIdxs, List.length_range'] at hends

end Correlated

/-! ## When no request timed out -/

/-- The answers on their way, with their numbers. -/
def results (frames : List (Frame α)) : List (Nat × α) :=
  frames.filterMap fun frame =>
    match frame with
    | .result id answer => some (id, answer)
    | .other => none

/-- The answers that the client got. -/
def told_answers (told : List (ρ × Except ε α)) : List (ρ × α) :=
  told.filterMap fun ended =>
    match ended.2 with
    | .ok answer => some (ended.1, answer)
    | .error _ => none

/-- At most one request is on its way, or else its answer. -/
def Outstanding (s : State σ ρ α ε κ) : Prop :=
  (s.requests = [] ∧ results s.frames = [] ∧ s.sent = s.told.map Prod.fst ∧
      answers s.log = told_answers s.told) ∨
    (∃ request, s.requests = [(s.told.length + 1, request)] ∧ results s.frames = [] ∧
      s.sent = s.told.map Prod.fst ++ [request] ∧ answers s.log = told_answers s.told) ∨
    ∃ request answer, s.requests = [] ∧ results s.frames = [(s.told.length + 1, answer)] ∧
      s.sent = s.told.map Prod.fst ++ [request] ∧
      answers s.log = told_answers s.told ++ [(request, answer)]

theorem results_append_other (frames : List (Frame α)) :
    results (frames ++ [.other]) = results frames :=
  filterMap_append_of_eq_none rfl

theorem answers_append_foreign (log : List (Change σ ρ α κ)) (f : σ → σ) :
    answers (log ++ [.foreign f]) = answers log :=
  filterMap_append_of_eq_none rfl

theorem ne_append_singleton {l : List ρ} {request : ρ} : l ≠ l ++ [request] := fun heq => by
  simpa using congrArg List.length heq

theorem told_answers_append_ok (told : List (ρ × Except ε α)) (request : ρ) (answer : α) :
    told_answers (told ++ [(request, .ok answer)]) = told_answers told ++ [(request, answer)] :=
  filterMap_append_singleton

namespace Outstanding

theorem send (h : Outstanding s) (hcorrelated : P.Correlated init s)
    (hstep : P.step s .send = some s') : Outstanding s' := by
  simp only [step] at hstep
  split at hstep
  case h_2 => cases hstep
  case h_1 request hclosed hwaiting hnext =>
  cases hstep
  have hsent := hcorrelated.idle hwaiting hclosed
  obtain ⟨hrequests, hresults, -, hanswers⟩ | ⟨_, -, -, hlast, -⟩ | ⟨_, _, -, -, hlast, -⟩ := h
  · refine .inr (.inl ⟨request, ?_, hresults, congrArg (· ++ [request]) hsent, hanswers⟩)
    rw [hrequests, hcorrelated.next_id, hsent, List.length_map, List.nil_append]
  · exact absurd (hsent.symm.trans hlast) ne_append_singleton
  · exact absurd (hsent.symm.trans hlast) ne_append_singleton

theorem serve {k : Nat} {choice : κ} (h : Outstanding s)
    (hstep : P.step s (.serve k choice) = some s') : Outstanding s' := by
  simp only [step] at hstep
  split at hstep
  case h_2 => cases hstep
  case h_1 id request hk =>
  cases hstep
  obtain ⟨hrequests, -⟩ | ⟨r, hrequests, hresults, hsent, hanswers⟩ | ⟨_, _, hrequests, -⟩ := h
  · simp [hrequests] at hk
  · have hmem := List.mem_of_getElem? hk
    rw [hrequests, List.mem_singleton, Prod.mk.injEq] at hmem
    obtain ⟨rfl, rfl⟩ := hmem
    have hzero : k = 0 := by
      have hlt := (List.getElem?_eq_some_iff.mp hk).1
      rwa [hrequests, List.length_singleton, Nat.lt_one_iff] at hlt
    refine .inr (.inr ⟨request, (P.serve choice s.server request).2, ?_, ?_, hsent, ?_⟩)
    · rw [hrequests, hzero]
      rfl
    · rw [results, List.filterMap_append, ← results, hresults]
      rfl
    · rw [answers_append, hanswers]
      rfl
  · simp [hrequests] at hk

theorem receive (h : Outstanding s) (hcorrelated : P.Correlated init s)
    (hstep : P.step s .receive = some s') : Outstanding s' := by
  simp only [step] at hstep
  split at hstep
  case h_2 => cases hstep
  case h_1 id request frame frames hwaiting hframes =>
  obtain ⟨hclosed, hid, hsent⟩ := hcorrelated.waiting id request hwaiting
  cases frame with
  | other =>
    cases hstep
    have hresults : results s.frames = results frames := by
      rw [hframes]
      rfl
    simpa only [Outstanding, hresults] using h
  | result id' answer =>
    have hresults : results s.frames = (id', answer) :: results frames := by
      rw [hframes]
      rfl
    -- an answer is on its way, so it is the one to the last request
    obtain ⟨-, hnone, -⟩ | ⟨_, -, hnone, -⟩ | ⟨r, a, hrequests, hone, hlast, hanswers⟩ := h
    · simp [hresults] at hnone
    · simp [hresults] at hnone
    rw [hresults, List.cons.injEq, Prod.mk.injEq] at hone
    obtain ⟨⟨hid', rfl⟩, hnone⟩ := hone
    obtain rfl : request = r :=
      List.singleton_inj.mp (List.append_cancel_left (hsent.symm.trans hlast))
    simp only [if_pos (hid'.trans hid.symm)] at hstep
    cases hstep
    refine .inl ⟨hrequests, hnone, ?_, ?_⟩
    · rw [hsent, List.map_append]
      rfl
    · rw [hanswers, told_answers_append_ok]

/-- While no request times out, each of them is served and answered before the next. -/
theorem step {act : Act σ ε κ} (hcorrelated : P.Correlated init s)
    (h : (∀ ended ∈ s.told, timed_out ended = false) → Outstanding s)
    (hstep : P.step s act = some s') :
    (∀ ended ∈ s'.told, timed_out ended = false) → Outstanding s' := by
  intro hprompt
  have hbefore : ∀ ended ∈ s.told, timed_out ended = false := fun ended hmem =>
    hprompt ended ((told_grows hstep).subset hmem)
  cases act with
  | send => exact (h hbefore).send hcorrelated hstep
  | serve k choice => exact (h hbefore).serve hstep
  | receive => exact (h hbefore).receive hcorrelated hstep
  | push =>
    cases hstep
    simpa only [Outstanding, results_append_other] using h hprompt
  | change f =>
    cases hstep
    simpa only [Outstanding, answers_append_foreign] using h hprompt
  | close =>
    cases hstep
    exact h hprompt
  | time_out e =>
    simp only [Parties.step] at hstep
    split at hstep
    case h_2 => cases hstep
    case h_1 id request hwaiting =>
    cases hstep
    have hlast := hprompt (request, .error e) (List.mem_append_right _ (List.mem_singleton.mpr rfl))
    cases hlast

end Outstanding

/-- When every request that was sent got its answer, they were served in the order in which they
were sent, once each. -/
theorem run_in_order {acts : List (Act σ ε κ)} (hrun : run P.step (.init init) acts = some s)
    (hprompt : ∀ ended ∈ s.told, timed_out ended = false) (hall : s.sent.length = s.told.length) :
    answers s.log = told_answers s.told := by
  have houtstanding := run_preserves (I := fun s => P.Correlated init s ∧
      ((∀ ended ∈ s.told, timed_out ended = false) → Outstanding s))
    (fun _ _ _ h hstep => ⟨h.1.step hstep, Outstanding.step h.1 h.2 hstep⟩)
    ⟨correlated_init, fun _ => .inl ⟨rfl, rfl, rfl, rfl⟩⟩ hrun
  obtain ⟨-, -, -, hanswers⟩ | ⟨r, -, -, hlast, -⟩ | ⟨r, a, -, -, hlast, -⟩ :=
    houtstanding.2 hprompt
  · exact hanswers
  · simp [hlast] at hall
  · simp [hlast] at hall

/-! ## What the requests make of the server's state -/

/-- When the answer tells what a request does to what is seen of the server's state, so do the
answers of a run that nobody else had a part in. -/
theorem replay_view {τ : Type*} {view : σ → τ} {effect : τ → ρ × α → τ}
    (heffect : ∀ choice s request, view (P.serve choice s request).1 =
      effect (view s) (request, (P.serve choice s request).2))
    {log : List (Change σ ρ α κ)} (hanswered : EachAt (P.Answered init) log)
    (halone : alone log = true) :
    view (P.replay init log) = (answers log).foldl effect (view init) := by
  induction log using List.reverseRecOn with
  | nil => rfl
  | append_singleton log change ih =>
    obtain ⟨hbefore, hchange⟩ := eachAt_append_singleton.mp hanswered
    obtain ⟨hlog, hlast⟩ := Bool.and_eq_true_iff.mp (alone_append ▸ halone)
    rw [replay_append, answers_append, List.foldl_append, ← ih hbefore hlog]
    cases change with
    | foreign f => cases hlast
    | served id request choice answer =>
      rw [show answer = _ from hchange]
      exact heffect choice (P.replay init log) request

/-- What holds of each answer, by what was seen of the state in which it was given, holds of the
answers of such a run in their turn. -/
theorem eachAt_answers {τ : Type*} {view : σ → τ} {effect : τ → ρ × α → τ} {Q : τ → ρ × α → Prop}
    (heffect : ∀ choice s request, view (P.serve choice s request).1 =
      effect (view s) (request, (P.serve choice s request).2))
    (hserve : ∀ choice s request, Q (view s) (request, (P.serve choice s request).2))
    {log : List (Change σ ρ α κ)} (hanswered : EachAt (P.Answered init) log)
    (halone : alone log = true) :
    EachAt (fun before answer => Q (before.foldl effect (view init)) answer) (answers log) := by
  induction log using List.reverseRecOn with
  | nil => exact eachAt_nil
  | append_singleton log change ih =>
    obtain ⟨hbefore, hchange⟩ := eachAt_append_singleton.mp hanswered
    obtain ⟨hlog, hlast⟩ := Bool.and_eq_true_iff.mp (alone_append ▸ halone)
    rw [answers_append]
    cases change with
    | foreign f => cases hlast
    | served id request choice answer =>
      refine eachAt_append_singleton.mpr ⟨ih hbefore hlog, ?_⟩
      rw [← replay_view heffect hbefore hlog, show answer = _ from hchange]
      exact hserve choice (P.replay init log) request

end Parties

end

end RequestReply
