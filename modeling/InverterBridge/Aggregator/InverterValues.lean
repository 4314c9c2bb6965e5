import InverterBridge.Aggregator.Decoded
import InverterBridge.Aggregator.Phantom

open Python
open inverter_bridge.parsers inverter_bridge.srne_map

namespace inverter_bridge.aggregator

/-! ## What the sections assign for one inverter -/

/-- What the body of a loop assigns for an inverter, from an accumulator of no account. -/
def section_values {α : Type} (body : α → Nat → Blocks → Except PyError (α × List (String × Value)))
    (acc : α) (inv : Blocks) : List (String × Value) :=
  match body acc 1 inv with
  | .ok result => result.2
  | .error _ => []

/-- The values an inverter's sections assign, in order. -/
def inverter_values (inv : Blocks) : List (String × Value) :=
  section_values battery_body ⟨[], [], []⟩ inv ++ section_values state_body ⟨none, 0, false⟩ inv ++
    section_values pv_body (0, false) inv ++ section_values cold_body ∅ inv

/-- What a body assigns depends neither on what it accumulates nor on the number. -/
def AssignsSame {α : Type} (body : α → Nat → Blocks → Except PyError (α × List (String × Value)))
    (acc₀ : α) : Prop :=
  ∀ acc i inv acc' assigned, body acc i inv = .ok (acc', assigned) →
    assigned = section_values body acc₀ inv

theorem battery_body_assignsSame (acc₀ : BankReadings) : AssignsSame battery_body acc₀ := by
  intro acc i inv acc' assigned hbody
  unfold battery_body at hbody
  unfold section_values battery_body
  cases hb : inv.lookup "battery" with
  | none =>
    simp only [hb, Except.ok.injEq, Prod.mk.injEq] at hbody
    exact hbody.2.symm
  | some b =>
    simp only [hb, bind_eq_ok_iff] at hbody
    obtain ⟨soc, hsoc, v, hv, i_a, hi, hresult⟩ := hbody
    simp only [pure, Except.pure, Except.ok.injEq, Prod.mk.injEq] at hresult
    simp only [hsoc, hv, hi]
    exact hresult.2.symm

theorem state_body_assignsSame (acc₀ : SiteState) : AssignsSame state_body acc₀ := by
  intro acc i inv acc' assigned hbody
  unfold state_body at hbody
  unfold section_values state_body
  cases hs : inv.lookup "state" with
  | none =>
    simp only [hs, Except.ok.injEq, Prod.mk.injEq] at hbody
    exact hbody.2.symm
  | some s =>
    simp only [hs, bind_eq_ok_iff] at hbody
    obtain ⟨active_a, h₁, active_b, h₂, apparent_a, h₃, load_percent, h₄, ac_freq, h₅, grid_freq, h₆,
      grid_v, h₇, grid_c, h₈, t₁, h₉, t₂, h₁₀, t₃, h₁₁, code, h₁₂, bus_v, h₁₃, ac_v, h₁₄, hresult⟩ :=
        hbody
    simp only [pure, Except.pure, Except.ok.injEq, Prod.mk.injEq] at hresult
    simp only [h₁, h₂, h₃, h₄, h₅, h₆, h₇, h₈, h₉, h₁₀, h₁₁, h₁₂, h₁₃, h₁₄]
    exact hresult.2.symm

theorem pv_body_assignsSame (acc₀ : ℚ × Bool) : AssignsSame pv_body acc₀ := by
  intro acc i inv acc' assigned hbody
  simp only [pv_body, Except.ok.injEq, Prod.mk.injEq] at hbody
  exact hbody.2.symm

theorem cold_body_assignsSame (acc₀ : Dict String ℚ) : AssignsSame cold_body acc₀ := by
  intro acc i inv acc' assigned hbody
  simp only [cold_body, Except.ok.injEq, Prod.mk.injEq] at hbody
  exact hbody.2.symm

/-! ## What is published for one inverter -/

/-- Inverter number `m`, counted from 1. -/
def inverter_number (per_inverter : List Blocks) (m : Nat) : Option Blocks :=
  if 1 ≤ m then per_inverter[m - 1]? else none

/-- The value a section leaves under `k`. -/
def last_value (values : List (String × Value)) (k : String) : Option Value :=
  (Dict.assign ∅ values).lookup k

theorem lookup_assign_inverter (out : Out) (assigned : List (String × Value)) (i m : Nat)
    (k : String) :
    (Dict.assign out (assigned.map fun entry => (inverter_key i entry.1, entry.2))).lookup
        (inverter_key m k) =
      (if i = m then last_value assigned k else none).or (out.lookup (inverter_key m k)) := by
  split_ifs with him
  · subst him
    have hinjective : Function.Injective (inverter_key i) :=
      fun k k' heq => (Text.numbered_inj.mp heq).2
    rw [Dict.lookup_assign, Dict.lookup_assign_map hinjective (d := ∅) (by simp)]
    rfl
  · rw [Option.none_or]
    apply Dict.lookup_assign_of_not_mem
    rw [List.map_map, List.mem_map]
    rintro ⟨entry, -, heq⟩
    exact him (Text.numbered_inj.mp heq).1

/-- A loop leaves under an inverter's key what its body assigns for that inverter. -/
theorem lookup_for_inverters_key {α : Type}
    {body : α → Nat → Blocks → Except PyError (α × List (String × Value))} {acc₀ : α}
    (hsame : AssignsSame body acc₀) {i : Nat} {acc acc' : α} {out out' : Out}
    {per_inverter : List Blocks}
    (hloop : for_inverters body i acc out per_inverter = .ok (acc', out')) (m : Nat) (k : String) :
    out'.lookup (inverter_key m k) =
      ((if i ≤ m then per_inverter[m - i]? else none).bind fun inv =>
        last_value (section_values body acc₀ inv) k).or (out.lookup (inverter_key m k)) := by
  induction per_inverter generalizing i acc out with
  | nil =>
    rw [for_inverters, Except.ok.injEq, Prod.mk.injEq] at hloop
    simp [hloop.2]
  | cons inv per_inverter ih =>
    rw [for_inverters, bind_eq_ok_iff] at hloop
    obtain ⟨⟨mid, assigned⟩, hinv, hrest⟩ := hloop
    rw [ih hrest, lookup_assign_inverter, hsame acc i inv mid assigned hinv, ← Option.or_assoc]
    congr 1
    obtain hlt | rfl | hgt := Nat.lt_trichotomy m i
    · rw [if_neg (by omega), if_neg (by omega), if_neg (by omega)]
      rfl
    · rw [if_neg (by omega), if_pos rfl, if_pos (Nat.le_refl m), Nat.sub_self]
      rfl
    · rw [if_pos (by omega), if_neg (by omega), if_pos (by omega), Option.or_none,
        show m - i = m - (i + 1) + 1 by omega]
      rfl

/-- Later sections override earlier ones. -/
theorem last_value_append (values later : List (String × Value)) (k : String) :
    last_value (values ++ later) k = (last_value later k).or (last_value values k) := by
  have happend : Dict.assign ∅ (values ++ later) = Dict.assign (Dict.assign ∅ values) later :=
    List.foldl_append
  rw [last_value, happend, Dict.lookup_assign]
  rfl

namespace Stages

variable {per_inverter : List Blocks} {out : Out}

/-- The site's own keys are no inverter's. -/
theorem lookup_assign_site (stages : Stages per_inverter out) (before : Out)
    {values : List (String × Value)} (hsite : values.map Prod.fst ⊆ stages.site_keys) (m : Nat)
    (k : String) :
    (Dict.assign before values).lookup (inverter_key m k) = before.lookup (inverter_key m k) := by
  apply Dict.lookup_assign_of_not_mem
  intro hmem
  obtain ⟨name, hname, -⟩ := stages.site_keys_derived (hsite hmem)
  rw [site_derived_from_inverter_key] at hname
  cases hname

theorem subset_site_keys (stages : Stages per_inverter out) :
    (battery_totals stages.bank).map Prod.fst ⊆ stages.site_keys ∧
    (load_totals stages.site stages.after_state).map Prod.fst ⊆ stages.site_keys ∧
    stages.grid.map Prod.fst ⊆ stages.site_keys ∧
    (pv_totals stages.pv).map Prod.fst ⊆ stages.site_keys ∧
    (daily_totals stages.daily_sums).map Prod.fst ⊆ stages.site_keys := by
  simp only [site_keys, List.map_append]
  refine ⟨?_, ?_, ?_, ?_, ?_⟩
  all_goals
    intro k hk
    simp only [List.mem_append]
    tauto

/-- What is published for an inverter is what its sections assign, from its blocks alone. -/
theorem lookup_inverter_key (stages : Stages per_inverter out) (m : Nat) (k : String) :
    out.lookup (inverter_key m k) =
      (inverter_number per_inverter m).bind fun inv => last_value (inverter_values inv) k := by
  obtain ⟨hbattery, hload, hgrid, hpv, hdaily⟩ := stages.subset_site_keys
  rw [stages.out_eq, stages.lookup_assign_site _ hdaily,
    lookup_for_inverters_key (cold_body_assignsSame ∅) stages.cold_loop,
    stages.lookup_assign_site _ hpv,
    lookup_for_inverters_key (pv_body_assignsSame (0, false)) stages.pv_loop,
    stages.lookup_assign_site _ hgrid, stages.lookup_assign_site _ hload,
    lookup_for_inverters_key (state_body_assignsSame ⟨none, 0, false⟩) stages.state_loop,
    stages.lookup_assign_site _ hbattery,
    lookup_for_inverters_key (battery_body_assignsSame ⟨[], [], []⟩) stages.battery_loop,
    AList.lookup_empty, Option.or_none]
  change _ = (if 1 ≤ m then per_inverter[m - 1]? else none).bind _
  cases (if 1 ≤ m then per_inverter[m - 1]? else none) with
  | none => rfl
  | some inv => simp only [Option.bind_some, inverter_values, last_value_append]

end Stages

end inverter_bridge.aggregator
