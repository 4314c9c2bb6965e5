import Mathlib.Data.List.Basic
import Std.Data.String.ToNat

/-! Names with a decimal number between two underscores, and when they collide; cutting
a text behind its head or at a separator. -/

namespace Text

/-- `f"{head}_{i}_{tail}"`. -/
def numbered (head : String) (i : Nat) (tail : String) : String := s!"{head}_{i}_{tail}"

theorem toList_numbered (head : String) (i : Nat) (tail : String) :
    (numbered head i tail).toList =
      head.toList ++ '_' :: (Nat.toDigits 10 i ++ '_' :: tail.toList) := by
  simp [numbered, toString]

/-- A list is cut at its first separator in only one way. -/
theorem append_cons_inj {α : Type} {sep : α} {a b a' b' : List α} (ha : sep ∉ a) (ha' : sep ∉ a')
    (heq : a ++ sep :: b = a' ++ sep :: b') : a = a' ∧ b = b' := by
  induction a generalizing a' with
  | nil =>
    cases a' with
    | nil => simpa using heq
    | cons c a' =>
      rw [List.nil_append, List.cons_append, List.cons.injEq] at heq
      exact absurd (List.mem_cons.mpr (.inl heq.1)) ha'
  | cons c a ih =>
    cases a' with
    | nil =>
      rw [List.nil_append, List.cons_append, List.cons.injEq] at heq
      exact absurd (List.mem_cons.mpr (.inl heq.1.symm)) ha
    | cons c' a' =>
      rw [List.cons_append, List.cons_append, List.cons.injEq] at heq
      rw [List.mem_cons, not_or] at ha ha'
      obtain ⟨rfl, rfl⟩ := ih ha.2 ha'.2 heq.2
      exact ⟨by rw [heq.1], rfl⟩

/-- A number is read up to the first character that is no digit. -/
theorem toDigits_append_cons_inj {sep : Char} (hsep : sep.isDigit = false) {i j : Nat}
    {tail tail' : List Char}
    (heq : Nat.toDigits 10 i ++ sep :: tail = Nat.toDigits 10 j ++ sep :: tail') :
    i = j ∧ tail = tail' := by
  have hnot : ∀ n, sep ∉ Nat.toDigits 10 n := by
    intro n hmem
    rw [Nat.isDigit_of_mem_toDigits (by omega) (by omega) hmem] at hsep
    cases hsep
  obtain ⟨hdigits, htail⟩ := append_cons_inj (hnot i) (hnot j) heq
  have hof := congrArg (fun ds => Nat.ofDigitChars 10 ds 0) hdigits
  exact ⟨by simpa only [Nat.ofDigitChars_ten_toDigits] using hof, htail⟩

/-- Two numbered names with one head agree only in number and tail. -/
theorem numbered_inj {head : String} {i j : Nat} {tail tail' : String} :
    numbered head i tail = numbered head j tail' ↔ i = j ∧ tail = tail' := by
  constructor
  · intro heq
    have hlist := congrArg String.toList heq
    rw [toList_numbered, toList_numbered, List.append_cancel_left_eq, List.cons.injEq] at hlist
    obtain ⟨hnumber, htail⟩ := toDigits_append_cons_inj rfl hlist.2
    exact ⟨hnumber, String.toList_inj.mp htail⟩
  · rintro ⟨rfl, rfl⟩
    rfl

/-- A name with another beginning is not a numbered name with that head. -/
theorem ne_numbered {s head : String} (h : ¬ head.toList ++ ['_'] <+: s.toList) (i : Nat)
    (tail : String) : s ≠ numbered head i tail := by
  rintro rfl
  apply h
  rw [toList_numbered]
  exact ⟨Nat.toDigits 10 i ++ '_' :: tail.toList, by simp⟩

/-! ## Cutting a text -/

/-- `s[len(head):]` when `s.startswith(head)`. -/
def after (head s : String) : Option String :=
  if head.toList <+: s.toList then some (String.ofList (s.toList.drop head.length)) else none

/-- `s.split(sep, 1)` when `sep in s`. -/
def split_once (sep : Char) (s : String) : Option (String × String) :=
  if sep ∈ s.toList then
    some (String.ofList (s.toList.takeWhile (· ≠ sep)),
      String.ofList (s.toList.dropWhile (· ≠ sep)).tail)
  else none

theorem after_append (head tail : String) : after head (head ++ tail) = some tail := by
  have hhead : head.toList <+: (head ++ tail).toList := by
    rw [String.toList_append]
    exact List.prefix_append _ _
  rw [after, if_pos hhead, String.toList_append, ← String.length_toList, List.drop_left,
    String.ofList_toList]

theorem after_eq_none {head s : String} (h : ¬ head.toList <+: s.toList) : after head s = none :=
  if_neg h

theorem isSome_after {head s : String} : (after head s).isSome = true ↔ head.toList <+: s.toList := by
  unfold after
  split_ifs with h <;> simp [h]

/-- What is found behind a head completes it. -/
theorem eq_append_of_after {head s tail : String} (h : after head s = some tail) :
    s = head ++ tail := by
  unfold after at h
  split_ifs at h with hhead
  obtain ⟨rest, hrest⟩ := hhead
  rw [← Option.some.inj h, ← String.toList_inj, String.toList_append, String.toList_ofList, ← hrest,
    ← String.length_toList, List.drop_left]

/-- The first separator is the one behind a head without it. -/
theorem split_once_append {sep : Char} {head tail : String} (hhead : sep ∉ head.toList) :
    split_once sep (head ++ String.singleton sep ++ tail) = some (head, tail) := by
  have hlist : (head ++ String.singleton sep ++ tail).toList = head.toList ++ sep :: tail.toList := by
    simp
  have hne : ∀ c ∈ head.toList, decide (c ≠ sep) = true :=
    fun c hc => decide_eq_true fun heq => hhead (heq ▸ hc)
  have htake : (head.toList ++ sep :: tail.toList).takeWhile (· ≠ sep) = head.toList := by
    rw [List.takeWhile_append_of_pos hne, List.takeWhile_cons_of_neg (by simp), List.append_nil]
  have hdrop : (head.toList ++ sep :: tail.toList).dropWhile (· ≠ sep) = sep :: tail.toList := by
    rw [List.dropWhile_append_of_pos hne, List.dropWhile_cons_of_neg (by simp)]
  rw [split_once, hlist, if_pos (by simp), htake, hdrop, List.tail_cons, String.ofList_toList,
    String.ofList_toList]

/-- `s.split(sep)`. -/
def split (sep : Char) (s : String) : List String := (s.toList.splitOn sep).map String.ofList

theorem split_ne_nil (sep : Char) (s : String) : split sep s ≠ [] := by
  rw [split, ne_eq, List.map_eq_nil_iff]
  exact List.splitOn_ne_nil sep s.toList

theorem split_eq_singleton {sep : Char} {s : String} (h : sep ∉ s.toList) : split sep s = [s] := by
  rw [split, List.splitOn_eq_singleton h, List.map_singleton, String.ofList_toList]

/-- Two texts with a separator between them are split one by one. -/
theorem split_append (sep : Char) (s s' : String) :
    split sep (s ++ String.singleton sep ++ s') = split sep s ++ split sep s' := by
  have hlist : (s ++ String.singleton sep ++ s').toList = s.toList ++ sep :: s'.toList := by simp
  rw [split, hlist, List.splitOn_append_cons_self, List.map_append]
  rfl

end Text
