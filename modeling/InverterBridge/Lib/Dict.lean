import Mathlib.Algebra.GroupWithZero.Nat
import Mathlib.Data.List.AList

/-! Python dictionaries as association lists without duplicate keys, and runs of
assignments `d[k] = v`. The order of the entries is not kept. -/

/-- A dictionary. -/
abbrev Dict (κ ν : Type) := AList fun _ : κ => ν

namespace Dict

variable {κ ν : Type} [DecidableEq κ]

/-- The assignments `d[k] = v` of `entries`, in order. -/
def assign (d : Dict κ ν) (entries : List (κ × ν)) : Dict κ ν :=
  entries.foldl (fun d entry => d.insert entry.1 entry.2) d

@[simp] theorem assign_nil (d : Dict κ ν) : d.assign [] = d := rfl

@[simp] theorem assign_cons (d : Dict κ ν) (entry : κ × ν) (entries : List (κ × ν)) :
    d.assign (entry :: entries) = assign (d.insert entry.1 entry.2) entries := rfl

/-- The keys after a run of assignments. -/
theorem mem_assign {d : Dict κ ν} {entries : List (κ × ν)} {k : κ} :
    k ∈ d.assign entries ↔ k ∈ d ∨ k ∈ entries.map Prod.fst := by
  induction entries generalizing d with
  | nil => simp
  | cons entry entries ih =>
    rw [assign_cons, ih, AList.mem_insert, List.map_cons, List.mem_cons]
    tauto

/-- A key that is not assigned keeps its value. -/
theorem lookup_assign_of_not_mem {d : Dict κ ν} {entries : List (κ × ν)} {k : κ}
    (hk : k ∉ entries.map Prod.fst) : (d.assign entries).lookup k = d.lookup k := by
  induction entries generalizing d with
  | nil => rfl
  | cons entry entries ih =>
    rw [List.map_cons, List.mem_cons, not_or] at hk
    rw [assign_cons, ih hk.2, AList.lookup_insert_ne hk.1]

/-- A key that is assigned once holds what it was assigned. -/
theorem lookup_assign_of_mem {d : Dict κ ν} {entries : List (κ × ν)} {k : κ} {v : ν}
    (hnodup : (entries.map Prod.fst).Nodup) (hmem : (k, v) ∈ entries) :
    (d.assign entries).lookup k = some v := by
  induction entries generalizing d with
  | nil => cases hmem
  | cons entry entries ih =>
    rw [List.map_cons, List.nodup_cons] at hnodup
    rw [assign_cons]
    cases List.mem_cons.mp hmem with
    | inl heq =>
      subst heq
      rw [lookup_assign_of_not_mem hnodup.1, AList.lookup_insert]
    | inr htail => exact ih hnodup.2 htail

/-- A key that is assigned holds one of the values assigned to it. -/
theorem exists_lookup_assign {d : Dict κ ν} {entries : List (κ × ν)} {k : κ}
    (hk : k ∈ entries.map Prod.fst) :
    ∃ v, (k, v) ∈ entries ∧ (d.assign entries).lookup k = some v := by
  induction entries generalizing d with
  | nil => cases hk
  | cons entry entries ih =>
    by_cases hlater : k ∈ entries.map Prod.fst
    · obtain ⟨v, hv, hlookup⟩ := ih (d := d.insert entry.1 entry.2) hlater
      exact ⟨v, List.mem_cons_of_mem _ hv, hlookup⟩
    · cases List.mem_cons.mp hk with
      | inl hnow =>
        subst hnow
        exact ⟨entry.2, List.mem_cons_self, by
          rw [assign_cons, lookup_assign_of_not_mem hlater, AList.lookup_insert]⟩
      | inr hmem => exact absurd hmem hlater

/-- What a key holds after a run of assignments it held before, or was assigned. -/
theorem lookup_or_mem_of_lookup_assign {d : Dict κ ν} {entries : List (κ × ν)} {k : κ} {v : ν}
    (h : (d.assign entries).lookup k = some v) : d.lookup k = some v ∨ (k, v) ∈ entries := by
  by_cases hk : k ∈ entries.map Prod.fst
  · obtain ⟨v', hmem, hlookup⟩ := exists_lookup_assign (d := d) hk
    cases hlookup.symm.trans h
    exact .inr hmem
  · rw [lookup_assign_of_not_mem hk] at h
    exact .inl h

/-- What a run of assignments leaves under a key: its own last value, or the old one. -/
theorem lookup_assign (d : Dict κ ν) (entries : List (κ × ν)) (k : κ) :
    (d.assign entries).lookup k = ((assign ∅ entries).lookup k).or (d.lookup k) := by
  induction entries generalizing d with
  | nil => simp
  | cons entry entries ih =>
    rw [assign_cons, assign_cons, ih, ih (AList.insert _ _ ∅), Option.or_assoc]
    congr 1
    by_cases hk : k = entry.1
    · rw [hk, AList.lookup_insert, AList.lookup_insert, Option.some_or]
    · rw [AList.lookup_insert_ne hk, AList.lookup_insert_ne hk, AList.lookup_empty, Option.none_or]

/-- Renaming the keys, no two alike, renames what is found. -/
theorem lookup_assign_map {κ' : Type} [DecidableEq κ'] {f : κ → κ'} (hf : Function.Injective f)
    {d : Dict κ ν} {d' : Dict κ' ν} {k : κ} (hd : d'.lookup (f k) = d.lookup k)
    (entries : List (κ × ν)) :
    (d'.assign (entries.map fun entry => (f entry.1, entry.2))).lookup (f k) =
      (d.assign entries).lookup k := by
  induction entries generalizing d d' with
  | nil => exact hd
  | cons entry entries ih =>
    rw [List.map_cons, assign_cons, assign_cons]
    apply ih
    by_cases hk : k = entry.1
    · rw [hk, AList.lookup_insert, AList.lookup_insert]
    · rw [AList.lookup_insert_ne hk, AList.lookup_insert_ne (hf.ne hk), hd]

theorem mem_iff_lookup {d : Dict κ ν} {k : κ} : k ∈ d ↔ ∃ v, d.lookup k = some v := by
  rw [← AList.lookup_isSome, Option.isSome_iff_exists]

/-- `{k: v for k, v in d.items() if p(k)}`. -/
def filter (p : κ → Bool) (d : Dict κ ν) : Dict κ ν :=
  ⟨d.entries.filter fun entry => p entry.1,
    d.nodupKeys.sublist List.filter_sublist⟩

/-- `{k: f(v) for k, v in d.items()}`. -/
def map_values {μ : Type} (f : ν → μ) (d : Dict κ ν) : Dict κ μ :=
  ⟨d.entries.map fun entry => ⟨entry.1, f entry.2⟩, by
    have hkeys : (d.entries.map fun entry => (⟨entry.1, f entry.2⟩ : Sigma fun _ : κ => μ)).map
        Sigma.fst = d.entries.map Sigma.fst := by
      rw [List.map_map]
      rfl
    exact (congrArg List.Nodup hkeys).mpr d.nodupKeys⟩

theorem lookup_filter (p : κ → Bool) (d : Dict κ ν) (k : κ) :
    (d.filter p).lookup k = if p k then d.lookup k else none := by
  apply Option.ext
  intro v
  rw [← Option.mem_def, AList.mem_lookup_iff, filter, List.mem_filter, ← AList.mem_lookup_iff]
  split_ifs with hp
  · exact and_iff_left hp
  · exact iff_of_false (fun h => hp h.2) nofun

/-- `sum(d.values())`. -/
def total (d : Dict κ Nat) : Nat := (d.entries.map Sigma.snd).sum

/-- An assignment changes the sum by what its own key held before. -/
theorem total_insert (d : Dict κ Nat) (k : κ) (v : Nat) :
    total (d.insert k v) + (d.lookup k).getD 0 = d.total + v := by
  have hsplit (entries : List (Sigma fun _ : κ => Nat)) :
      (entries.map Sigma.snd).sum =
        (entries.dlookup k).getD 0 + ((entries.kerase k).map Sigma.snd).sum := by
    induction entries with
    | nil => simp
    | cons entry entries ih =>
      by_cases hk : k = entry.1
      · subst hk
        rw [List.kerase_cons_eq rfl, List.dlookup_cons_eq, Option.getD_some, List.map_cons,
          List.sum_cons]
      · rw [List.kerase_cons_ne hk, List.dlookup_cons_ne _ _ hk, List.map_cons, List.sum_cons,
          List.map_cons, List.sum_cons, ih]
        omega
  have hd := hsplit d.entries
  unfold total
  rw [AList.entries_insert, List.map_cons, List.sum_cons, hd, AList.lookup]
  dsimp only
  omega

end Dict
