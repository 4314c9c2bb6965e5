import Mathlib.Data.List.Basic
import Mathlib.Algebra.BigOperators.Group.List.Basic
import Mathlib.Algebra.GroupWithZero.Nat

/-! A reader that appends every chunk it receives to a buffer, looks at the
whole buffer again after each one, and stops at the first look that has an
answer. -/

namespace GrowingBuffer

variable {α β : Type*}

/-- A way of cutting `whole` into non-empty chunks. -/
structure Chunking (whole : List α) (chunks : List (List α)) : Prop where
  nonempty : ∀ chunk ∈ chunks, chunk ≠ []
  flatten_eq : chunks.flatten = whole

/-- The buffers looked at, in order, when the buffer starts as `buf`. -/
def looks (answer : List α → Option β) (buf : List α) : List (List α) → List (List α)
  | [] => []
  | chunk :: chunks =>
    (buf ++ chunk) ::
      if (answer (buf ++ chunk)).isSome then [] else looks answer (buf ++ chunk) chunks

/-- The buffer when the reader stops. -/
def final (answer : List α → Option β) (buf : List α) (chunks : List (List α)) : List α :=
  (looks answer buf chunks).getLastD buf

/-- What the reader answers in the end. -/
def result (answer : List α → Option β) (buf : List α) (chunks : List (List α)) : Option β :=
  (looks answer buf chunks).getLast?.bind answer

section

variable {answer : List α → Option β} {buf whole : List α} {chunks : List (List α)}

@[simp] theorem looks_nil : looks answer buf [] = [] := rfl

theorem looks_cons_answered {chunk : List α} (h : (answer (buf ++ chunk)).isSome) :
    looks answer buf (chunk :: chunks) = [buf ++ chunk] := by
  simp [looks, h]

theorem looks_cons_open {chunk : List α} (h : answer (buf ++ chunk) = none) :
    looks answer buf (chunk :: chunks) = (buf ++ chunk) :: looks answer (buf ++ chunk) chunks := by
  simp [looks, h]

theorem final_cons_answered {chunk : List α} (h : (answer (buf ++ chunk)).isSome) :
    final answer buf (chunk :: chunks) = buf ++ chunk := by
  simp [final, looks_cons_answered h]

theorem final_cons_open {chunk : List α} (h : answer (buf ++ chunk) = none) :
    final answer buf (chunk :: chunks) = final answer (buf ++ chunk) chunks := by
  rw [final, looks_cons_open h, List.getLastD_cons, final]

theorem result_cons_answered {chunk : List α} (h : (answer (buf ++ chunk)).isSome) :
    result answer buf (chunk :: chunks) = answer (buf ++ chunk) := by
  simp [result, looks_cons_answered h]

theorem result_cons_open {chunk : List α} (h : answer (buf ++ chunk) = none) :
    result answer buf (chunk :: chunks) = result answer (buf ++ chunk) chunks := by
  rw [result, looks_cons_open h, result]
  cases hrest : looks answer (buf ++ chunk) chunks with
  | nil => simp [h]
  | cons look rest => rw [List.getLast?_cons_cons]

/-- Every look is a prefix of all the bytes, strictly longer than the buffer
the reader started from. -/
theorem look_isPrefix (hne : ∀ chunk ∈ chunks, chunk ≠ []) {look : List α}
    (hlook : look ∈ looks answer buf chunks) :
    look <+: buf ++ chunks.flatten ∧ buf.length < look.length := by
  induction chunks generalizing buf with
  | nil => simp at hlook
  | cons chunk rest ih =>
    have hpos : 0 < chunk.length := List.length_pos_iff.mpr (hne chunk (by simp))
    have hhead : buf ++ chunk <+: buf ++ (chunk :: rest).flatten := by
      rw [List.flatten_cons, ← List.append_assoc]
      exact List.prefix_append _ _
    cases hopen : answer (buf ++ chunk) with
    | none =>
      rw [looks_cons_open hopen, List.mem_cons] at hlook
      obtain rfl | htail := hlook
      · exact ⟨hhead, by simp; omega⟩
      · obtain ⟨hpre, hlen⟩ := ih (fun c hc => hne c (by simp [hc])) htail
        refine ⟨by simpa using hpre, ?_⟩
        simp only [List.length_append] at hlen
        omega
    | some found =>
      rw [looks_cons_answered (by simp [hopen]), List.mem_singleton] at hlook
      subst hlook
      exact ⟨hhead, by simp; omega⟩

/-- The reader answers with its last look, or has none and has read everything. -/
theorem result_cases (answer : List α → Option β) (chunks : List (List α)) (buf : List α) :
    (∃ look ∈ looks answer buf chunks, result answer buf chunks = answer look ∧
      (answer look).isSome) ∨
    (result answer buf chunks = none ∧ final answer buf chunks = buf ++ chunks.flatten ∧
      ∀ look ∈ looks answer buf chunks, answer look = none) := by
  induction chunks generalizing buf with
  | nil => exact .inr ⟨rfl, by simp [final], by simp⟩
  | cons chunk rest ih =>
    cases hopen : answer (buf ++ chunk) with
    | none =>
      rw [result_cons_open hopen, final_cons_open hopen, looks_cons_open hopen]
      obtain ⟨look, hmem, hres, hsome⟩ | ⟨hres, hfinal, hnone⟩ := ih (buf ++ chunk)
      · exact .inl ⟨look, List.mem_cons_of_mem _ hmem, hres, hsome⟩
      · refine .inr ⟨hres, by simp [hfinal], fun look hlook => ?_⟩
        obtain rfl | htail := List.mem_cons.mp hlook
        · exact hopen
        · exact hnone look htail
    | some found =>
      refine .inl ⟨buf ++ chunk, ?_, result_cons_answered (by simp [hopen]), by simp [hopen]⟩
      rw [looks_cons_answered (by simp [hopen])]
      exact List.mem_singleton_self _

/-- Any non-empty prefix can be made the first thing the reader looks at. -/
theorem exists_chunking_of_isPrefix {first : List α} (hne : first ≠ []) (hpre : first <+: whole) :
    ∃ rest, Chunking whole (first :: rest) ∧ (first = whole → rest = []) ∧
      (first ≠ whole → ∃ tail, rest = [tail] ∧ first ++ tail = whole) := by
  obtain ⟨tail, rfl⟩ := hpre
  obtain rfl | htail := eq_or_ne tail []
  · exact ⟨[], ⟨by simpa using hne, by simp⟩, by simp, by simp⟩
  · exact ⟨[tail], ⟨by simp [hne, htail], by simp⟩, by simp [htail], fun _ => ⟨tail, rfl, rfl⟩⟩

/-- The answer does not depend on how the bytes are cut exactly when no proper
prefix of them has an answer of its own. -/
theorem result_chunk_independent_iff (hwhole : whole ≠ []) :
    (∀ chunks, Chunking whole chunks →
      result answer [] chunks = result answer [] [whole]) ↔
    ∀ first, first ≠ [] → first <+: whole → first ≠ whole →
      answer first = none ∨ answer first = answer whole := by
  have hall : result answer [] [whole] = answer whole := by simp [result, looks]
  constructor
  · intro hindep first hne hpre hproper
    obtain ⟨rest, hchunking, -, -⟩ := exists_chunking_of_isPrefix hne hpre
    have hsame := hindep _ hchunking
    cases hfirst : answer first with
    | none =>
      exact .inl rfl
    | some found =>
      rw [result_cons_answered (by simp [hfirst]), hall] at hsame
      exact .inr (by simpa [hfirst] using hsame)
  · intro hagree chunks hchunking
    rw [hall]
    rcases result_cases answer chunks [] with
      ⟨look, hlook, hres, hsome⟩ | ⟨hres, hfinal, hnone⟩
    · obtain ⟨hpre, hlen⟩ := look_isPrefix hchunking.nonempty hlook
      rw [List.nil_append, hchunking.flatten_eq] at hpre
      obtain rfl | hproper := eq_or_ne look whole
      · exact hres
      · obtain hnone | heq := hagree look (List.length_pos_iff.mp hlen) hpre hproper
        · simp [hnone] at hsome
        · rw [hres, heq]
    · rw [hres]
      have hlast : whole ∈ looks answer [] chunks := by
        have hne : looks answer [] chunks ≠ [] := by
          intro hempty
          simp only [final, hempty, List.getLastD_nil] at hfinal
          exact hwhole (by simpa [hchunking.flatten_eq] using hfinal.symm)
        have hmem := List.getLast_mem hne
        have heq : (looks answer [] chunks).getLast hne = final answer [] chunks := by
          rw [final, List.getLastD_eq_getLast?, List.getLast?_eq_some_getLast hne, Option.getD_some]
        rwa [heq, hfinal, List.nil_append, hchunking.flatten_eq] at hmem
      exact (hnone whole hlast).symm

/-- No way of cutting the bytes leads to a bad answer exactly when no prefix
has one. -/
theorem result_never_iff (answer : List α → Option β) (whole : List α) (bad : β → Prop) :
    (∀ chunks, Chunking whole chunks → ∀ b, result answer [] chunks = some b → ¬ bad b) ↔
    ∀ first, first ≠ [] → first <+: whole → ∀ b, answer first = some b → ¬ bad b := by
  constructor
  · intro hnever first hne hpre b hb
    obtain ⟨rest, hchunking, -, -⟩ := exists_chunking_of_isPrefix hne hpre
    refine hnever _ hchunking b ?_
    rw [result_cons_answered (by simp [hb])]
    simpa using hb
  · intro hsafe chunks hchunking b hb
    obtain ⟨look, hlook, hres, -⟩ | ⟨hres, -⟩ := result_cases answer chunks []
    · obtain ⟨hpre, hlen⟩ := look_isPrefix hchunking.nonempty hlook
      rw [List.nil_append, hchunking.flatten_eq] at hpre
      exact hsafe look (List.length_pos_iff.mp hlen) hpre b (hres ▸ hb)
    · simp [hres] at hb

/-- What all the looks cost together. -/
def total (cost : List α → Nat) (answer : List α → Option β) (buf : List α)
    (chunks : List (List α)) : Nat :=
  ((looks answer buf chunks).map cost).sum

/-- When unanswered proper prefixes cost nothing, only the last look does. -/
theorem total_eq_cost_final {cost : List α → Nat}
    (hfree : ∀ first, first ≠ [] → first <+: whole → first ≠ whole → answer first = none →
      cost first = 0)
    (hne : ∀ chunk ∈ chunks, chunk ≠ []) (hflat : buf ++ chunks.flatten = whole)
    (hbuf : cost buf = 0 ∨ chunks ≠ []) :
    total cost answer buf chunks = cost (final answer buf chunks) := by
  induction chunks generalizing buf with
  | nil => simpa [total, final, looks, eq_comm] using hbuf
  | cons chunk rest ih =>
    cases hopen : answer (buf ++ chunk) with
    | none =>
      rw [total, looks_cons_open hopen, final_cons_open hopen]
      simp only [List.flatten_cons, ← List.append_assoc] at hflat
      have hlast : rest = [] ∨ cost (buf ++ chunk) = 0 := by
        by_cases hrest : rest = []
        · exact .inl hrest
        · obtain ⟨next, tail, rfl⟩ := List.exists_cons_of_ne_nil hrest
          refine .inr (hfree _ ?_ ⟨_, hflat⟩ ?_ hopen)
          · simp [hne chunk (by simp)]
          · intro heq
            have hempty : (next :: tail).flatten = [] := by simpa [heq] using hflat
            exact hne next (by simp) (List.append_eq_nil_iff.mp hempty).1
      obtain rfl | hzero := hlast
      · simp [final, looks]
      · have hrec := ih (fun c hc => hne c (by simp [hc])) hflat (.inl hzero)
        rw [← hrec, total, List.map_cons, List.sum_cons, hzero, Nat.zero_add]
    | some found =>
      rw [total, looks_cons_answered (by simp [hopen]), final_cons_answered (by simp [hopen])]
      simp

/-- Whatever the chunks, the looks cost together what the last one costs,
exactly when every unanswered proper prefix costs nothing. -/
theorem total_eq_cost_final_iff (answer : List α → Option β) (cost : List α → Nat)
    (hnil : cost [] = 0) :
    (∀ chunks, Chunking whole chunks →
      total cost answer [] chunks = cost (final answer [] chunks)) ↔
    ∀ first, first ≠ [] → first <+: whole → first ≠ whole → answer first = none →
      cost first = 0 := by
  constructor
  · intro honce first hne hpre hproper hopen
    obtain ⟨rest, hchunking, -, hrest⟩ := exists_chunking_of_isPrefix hne hpre
    obtain ⟨tail, rfl, happend⟩ := hrest hproper
    have hcost := honce _ hchunking
    rw [total, final_cons_open (by simpa using hopen), looks_cons_open (by simpa using hopen)]
      at hcost
    simp only [List.nil_append, looks, final, happend] at hcost
    split at hcost <;> simp at hcost <;> exact hcost
  · intro hfree chunks hchunking
    have hflat : [] ++ chunks.flatten = whole := by simpa using hchunking.flatten_eq
    exact total_eq_cost_final hfree hchunking.nonempty hflat (.inl hnil)

end

end GrowingBuffer
