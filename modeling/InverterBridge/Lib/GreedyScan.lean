import Mathlib.Data.List.Basic
import Mathlib.Data.List.Pairwise

/-! A scanner that walks over its input from left to right: where it recognizes
a token it takes the token's whole window, elsewhere it passes over one element. -/

namespace GreedyScan

/-- What is recognized at the head of an input, and how long each token is. -/
structure Recognizer (α τ : Type*) where
  recognize : List α → Option τ
  size : τ → Nat
  size_pos : ∀ token, 0 < size token
  size_le : ∀ {rest token}, recognize rest = some token → size token ≤ rest.length

namespace Recognizer

variable {α τ : Type*} (R : Recognizer α τ)

/-- The places the walk stops at, with what it recognizes there. `pos` is the
position of the head of `rest` in the whole input. -/
def visits (pos : Nat) : List α → List (Nat × Option τ)
  | [] => []
  | a :: tail =>
    match R.recognize (a :: tail) with
    | some token =>
      (pos, some token) :: visits (pos + R.size token) ((a :: tail).drop (R.size token))
    | none => (pos, none) :: visits (pos + 1) tail
termination_by rest => rest.length
decreasing_by
  · have := R.size_pos token
    simp only [List.length_drop, List.length_cons]
    omega
  · simp

/-- The tokens the walk takes, with their positions. -/
def accepted (pos : Nat) (rest : List α) : List (Nat × τ) :=
  (R.visits pos rest).filterMap fun visit => visit.2.map (visit.1, ·)

variable {R} {pos : Nat} {rest : List α}

@[simp] theorem visits_nil : R.visits pos [] = [] := by rw [visits]

theorem visits_of_some {token : τ} (h : R.recognize rest = some token) :
    R.visits pos rest =
      (pos, some token) :: R.visits (pos + R.size token) (rest.drop (R.size token)) := by
  cases rest with
  | nil =>
    have hle := R.size_le h
    have hpos := R.size_pos token
    simp only [List.length_nil] at hle
    omega
  | cons a tail => rw [visits, h]

theorem visits_of_none {a : α} {tail : List α} (h : R.recognize (a :: tail) = none) :
    R.visits pos (a :: tail) = (pos, none) :: R.visits (pos + 1) tail := by rw [visits, h]

/-- The walk's own induction: at the end, past a token, past one element. -/
theorem scan_induction {motive : List α → Prop} (nil : motive [])
    (token : ∀ rest t, R.recognize rest = some t → motive (rest.drop (R.size t)) → motive rest)
    (skip : ∀ a tail, R.recognize (a :: tail) = none → motive tail → motive (a :: tail))
    (rest : List α) : motive rest := by
  cases rest with
  | nil => exact nil
  | cons a tail =>
    cases h : R.recognize (a :: tail) with
    | none => exact skip a tail h (scan_induction nil token skip tail)
    | some t => exact token _ t h (scan_induction nil token skip ((a :: tail).drop (R.size t)))
termination_by rest.length
decreasing_by
  · simp
  · have := R.size_pos t
    simp only [List.length_drop, List.length_cons]
    omega

/-- A visit lies inside the input and reports what is recognized there. -/
theorem of_mem_visits {visit : Nat × Option τ} (h : visit ∈ R.visits pos rest) :
    pos ≤ visit.1 ∧ visit.1 < pos + rest.length ∧
      visit.2 = R.recognize (rest.drop (visit.1 - pos)) := by
  induction rest using scan_induction (R := R) generalizing pos with
  | nil => simp at h
  | token rest t ht ih =>
    have hpos := R.size_pos t
    have hle := R.size_le ht
    rw [visits_of_some ht, List.mem_cons] at h
    obtain rfl | h := h
    · simp only [Nat.sub_self, List.drop_zero]
      exact ⟨Nat.le_refl _, by omega, ht.symm⟩
    · obtain ⟨hlow, hhigh, heq⟩ := ih h
      rw [List.length_drop] at hhigh
      rw [List.drop_drop] at heq
      refine ⟨by omega, by omega, ?_⟩
      rw [heq]
      congr 2
      omega
  | skip a tail hnone ih =>
    rw [visits_of_none hnone, List.mem_cons] at h
    obtain rfl | h := h
    · simp only [Nat.sub_self, List.drop_zero, List.length_cons]
      exact ⟨Nat.le_refl _, by omega, hnone.symm⟩
    · obtain ⟨hlow, hhigh, heq⟩ := ih h
      rw [List.length_cons]
      refine ⟨by omega, by omega, ?_⟩
      rw [heq, show visit.1 - pos = visit.1 - (pos + 1) + 1 by omega, List.drop_succ_cons]

theorem mem_accepted_iff {p : Nat} {t : τ} :
    (p, t) ∈ R.accepted pos rest ↔ (p, some t) ∈ R.visits pos rest := by
  rw [accepted, List.mem_filterMap]
  constructor
  · rintro ⟨⟨q, found⟩, hmem, heq⟩
    cases found with
    | none => simp at heq
    | some u =>
      simp only [Option.map_some, Option.some.injEq, Prod.mk.injEq] at heq
      obtain ⟨rfl, rfl⟩ := heq
      exact hmem
  · intro h
    exact ⟨_, h, rfl⟩

/-- A token that is taken is recognized where it stands. -/
theorem recognize_of_mem_accepted {p : Nat} {t : τ} (h : (p, t) ∈ R.accepted 0 rest) :
    R.recognize (rest.drop p) = some t := by
  obtain ⟨-, -, heq⟩ := of_mem_visits (mem_accepted_iff.mp h)
  exact heq.symm

theorem accepted_of_some {token : τ} (h : R.recognize rest = some token) :
    R.accepted pos rest =
      (pos, token) :: R.accepted (pos + R.size token) (rest.drop (R.size token)) := by
  simp only [accepted, visits_of_some h, List.filterMap_cons, Option.map_some]

theorem accepted_of_none {a : α} {tail : List α} (h : R.recognize (a :: tail) = none) :
    R.accepted pos (a :: tail) = R.accepted (pos + 1) tail := by
  simp only [accepted, visits_of_none h, List.filterMap_cons, Option.map_none]

/-- The windows taken are disjoint, in the order they are taken. -/
theorem accepted_pairwise :
    (R.accepted pos rest).Pairwise fun a b => a.1 + R.size a.2 ≤ b.1 := by
  induction rest using scan_induction (R := R) generalizing pos with
  | nil => simp [accepted]
  | token rest t ht ih =>
    rw [accepted_of_some ht, List.pairwise_cons]
    refine ⟨fun b hb => ?_, ih⟩
    exact (of_mem_visits (mem_accepted_iff.mp hb)).1
  | skip a tail hnone ih =>
    rw [accepted_of_none hnone]
    exact ih

/-- The walk stops at every position, or has taken a window around it. -/
theorem visited_or_covered {p : Nat} (hp : p < rest.length) :
    (pos + p, R.recognize (rest.drop p)) ∈ R.visits pos rest ∨
      ∃ q t, (q, t) ∈ R.accepted pos rest ∧ q < pos + p ∧ pos + p < q + R.size t := by
  induction rest using scan_induction (R := R) generalizing pos p with
  | nil => simp at hp
  | token rest t ht ih =>
    rw [visits_of_some ht, accepted_of_some ht]
    obtain rfl | hpos := Nat.eq_zero_or_pos p
    · left
      rw [List.drop_zero, ht, Nat.add_zero]
      exact List.mem_cons_self
    · by_cases hinside : p < R.size t
      · exact .inr ⟨pos, t, List.mem_cons_self, by omega, by omega⟩
      · have hlen : p - R.size t < (rest.drop (R.size t)).length := by
          rw [List.length_drop]
          omega
        have hshift : pos + R.size t + (p - R.size t) = pos + p := by omega
        have hdrop : (rest.drop (R.size t)).drop (p - R.size t) = rest.drop p := by
          rw [List.drop_drop]
          congr 1
          omega
        have hlater := @ih (pos + R.size t) _ hlen
        rw [hdrop, hshift] at hlater
        obtain hmem | ⟨q, u, hmem, hbounds⟩ := hlater
        · exact .inl (List.mem_cons_of_mem _ hmem)
        · exact .inr ⟨q, u, List.mem_cons_of_mem _ hmem, hbounds⟩
  | skip a tail hnone ih =>
    rw [visits_of_none hnone, accepted_of_none hnone]
    cases p with
    | zero =>
      left
      rw [List.drop_zero, hnone, Nat.add_zero]
      exact List.mem_cons_self
    | succ p =>
      have hlater := @ih (pos + 1) p (by simpa using hp)
      rw [show pos + 1 + p = pos + (p + 1) by omega] at hlater
      rw [List.drop_succ_cons]
      obtain hmem | hcovered := hlater
      · exact .inl (List.mem_cons_of_mem _ hmem)
      · exact .inr hcovered

/-- A token that is there is taken, unless an earlier window reaches over its
first element. -/
theorem accepted_or_covered {p : Nat} {t : τ} (h : R.recognize (rest.drop p) = some t) :
    (p, t) ∈ R.accepted 0 rest ∨
      ∃ q u, (q, u) ∈ R.accepted 0 rest ∧ q < p ∧ p < q + R.size u := by
  have hp : p < rest.length := by
    have hle := R.size_le h
    have hpos := R.size_pos t
    rw [List.length_drop] at hle
    omega
  have hcases := @visited_or_covered _ _ R 0 rest _ hp
  rw [Nat.zero_add, h] at hcases
  exact hcases.imp_left mem_accepted_iff.mpr

end Recognizer

end GreedyScan
