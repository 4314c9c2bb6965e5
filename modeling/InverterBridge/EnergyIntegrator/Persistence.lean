import InverterBridge.EnergyIntegrator.Save

open Python

namespace inverter_bridge.energy_integrator

/-! ## Loading a saved document -/

/-- The accumulator states: zeros, what `load` restores, and what `update` makes of them. -/
inductive AccumulatorState : EnergyIntegrator → Prop where
  | zero : AccumulatorState .zero
  | load {self self' : EnergyIntegrator} {limit : Nat} {file : TextFile} :
      AccumulatorState self → self.load limit file = .ok self' → AccumulatorState self'
  | update {self self' : EnergyIntegrator} {aggregated : Dict String Scalar} {elapsed_s : PyFloat}
      {snapshot : Snapshot} : AccumulatorState self →
      self.update aggregated elapsed_s = .ok (self', snapshot) → AccumulatorState self'

theorem EnergyIntegrator.Sound.add {self : EnergyIntegrator} (h : self.Sound) (k : WhKey) {x : ℚ}
    (hx : 0 ≤ x) : (self.add k x).Sound := by
  intro key
  unfold EnergyIntegrator.add
  dsimp only
  by_cases hkey : key = k
  · subst hkey
    rw [Function.update_self]
    exact (h key).add hx
  · rw [Function.update_of_ne hkey]
    exact h key

/-- What adding an energy keeps, `update` keeps: it adds nothing below zero. -/
theorem update_preserves {P : EnergyIntegrator → Prop}
    (hadd : ∀ (self : EnergyIntegrator) (k : WhKey) (x : ℚ), P self → 0 ≤ x → P (self.add k x))
    {self self' : EnergyIntegrator} (h : P self) {aggregated : Dict String Scalar}
    {elapsed_s : PyFloat} {snapshot : Snapshot}
    (hupdate : self.update aggregated elapsed_s = .ok (self', snapshot)) : P self' := by
  unfold EnergyIntegrator.update at hupdate
  split at hupdate
  case h_1 =>
    cases hupdate
    exact h
  case h_2 e he =>
    simp only [bind_eq_ok_iff] at hupdate
    obtain ⟨battery_power, -, load_power, -, pv_power, -, grid_power, -, hresult⟩ := hupdate
    have hdt : 0 ≤ e / 3600 := by
      have hpos : 0 < e := (integrable_eq_some_iff.mp he).2.1
      positivity
    have hsigned {self : EnergyIntegrator} (h : P self) (k_in k_out : WhKey) (power : ℚ) :
        P (if 0 < power then self.add k_in (power * (e / 3600))
          else if power < 0 then self.add k_out (-power * (e / 3600)) else self) := by
      split_ifs with hin hout
      · exact hadd _ _ _ h (mul_nonneg hin.le hdt)
      · exact hadd _ _ _ h (mul_nonneg (neg_nonneg.mpr hout.le) hdt)
      · exact h
    have hpositive {self : EnergyIntegrator} (h : P self) (k : WhKey) (power : ℚ) :
        P (if 0 < power then self.add k (power * (e / 3600)) else self) := by
      split_ifs with hin
      · exact hadd _ _ _ h (mul_nonneg hin.le hdt)
      · exact h
    cases hresult
    exact hsigned (hpositive (hpositive (hsigned h _ _ _) _ _) _ _) _ _ _

theorem EnergyIntegrator.Sound.update {self self' : EnergyIntegrator} (h : self.Sound)
    {aggregated : Dict String Scalar} {elapsed_s : PyFloat} {snapshot : Snapshot}
    (hupdate : self.update aggregated elapsed_s = .ok (self', snapshot)) : self'.Sound :=
  update_preserves (fun _ k _ hself hx => hself.add k hx) h hupdate

theorem EnergyIntegrator.Sound.load {self self' : EnergyIntegrator} (h : self.Sound) {limit : Nat}
    {file : TextFile} (hload : self.load limit file = .ok self') : self'.Sound := by
  unfold EnergyIntegrator.load at hload
  split_ifs at hload
  case neg => exact (Except.ok.inj hload) ▸ h
  case pos =>
    split at hload
    case h_1 e he =>
      split_ifs at hload
      cases hload
      exact zero_sound
    case h_2 entries hread =>
      split_ifs at hload
      · intro k
        rw [(restore_eq_ok_iff.mp hload k).2]
        exact checked_sound _
      · cases hload
        exact zero_sound
    case h_3 =>
      cases hload
      exact zero_sound

/-- Whatever happened, the accumulators are finite and not negative. -/
theorem AccumulatorState.sound {self : EnergyIntegrator} (h : AccumulatorState self) :
    self.Sound := by
  induction h with
  | zero => exact EnergyIntegrator.zero_sound
  | load _ hload ih => exact ih.load hload
  | update _ hupdate ih => exact ih.update hupdate

/-- The text of a float is a JSON number that is read as the float. -/
structure FloatText (text : List Char) (x : ℚ) : Prop where
  number : Json.NumberText text (.float (.finite x))
  no_return : '\r' ∉ text

section

variable {float_repr : ℚ → List Char} {self : EnergyIntegrator}

/-- The members of the document: what the texts of `payload` stand for. -/
def members (self : EnergyIntegrator) : List (String × Json.Value) :=
  ("version", .int 1) :: WH_KEYS.map fun key => (key.name, .float (self.wh key))

theorem number_text_one : Json.NumberText "1".toList (.int 1) :=
  Json.numberText_whole (.inr ⟨'1', [], rfl, by decide, by simp⟩) (by decide)

/-- What is read of a document. -/
theorem read_data_document (limit : Nat) (hsound : self.Sound)
    (hrepr : ∀ k x, self.wh k = .finite x → FloatText (float_repr x) x) :
    read_data (limit + 1) (.present (document float_repr self)) =
      .ok (.dict ((members self).map fun m => (m.1.toList.map Char.toNat, m.2))) := by
  have htext (k : WhKey) : Json.NumberText (float_text float_repr (self.wh k))
      (.float (self.wh k)) ∧ '\r' ∉ float_text float_repr (self.wh k) := by
    obtain ⟨x, -, hx⟩ := hsound k
    have htext := hrepr k x hx
    rw [hx]
    exact ⟨htext.number, htext.no_return⟩
  have hname : ∀ k : WhKey, Json.PlainKey k.name ∧ '\r' ∉ k.name.toList := by
    intro k
    cases k <;> decide
  have hreturn : '\r' ∉ Json.dump_dict (payload float_repr self) := by
    apply Json.not_mem_dump_dict (by decide)
    simp only [payload, List.forall_mem_cons, List.forall_mem_map]
    exact ⟨by decide, fun k _ => ⟨(hname k).2, (htext k).2⟩⟩
  have hloads := Json.loads_dump_dict limit (List.cons_ne_nil ("version", "1".toList, .int 1)
    (WH_KEYS.map fun key =>
      (key.name, float_text float_repr (self.wh key), .float (self.wh key))))
    (by
      simp only [List.forall_mem_cons, List.forall_mem_map]
      exact ⟨by decide, fun k _ => (hname k).1⟩)
    (by
      simp only [List.forall_mem_cons, List.forall_mem_map]
      exact ⟨number_text_one, fun k _ => (htext k).1⟩)
  have hpayload : payload float_repr self = (("version", "1".toList, Json.Value.int 1) ::
      WH_KEYS.map fun key => (key.name, float_text float_repr (self.wh key),
        Json.Value.float (self.wh key))).map fun m => (m.1, m.2.1) := by
    rw [payload, List.map_cons, List.map_map]
    rfl
  rw [← hpayload] at hloads
  rw [read_data, document, TextFile.read_text_encode_utf8 hreturn]
  dsimp only
  rw [hloads]
  simp only [members, List.map_cons, List.map_map, Function.comp_def]

/-- Loading a complete document restores the accumulators that were saved. -/
theorem load_document (limit : Nat) (hsound : self.Sound)
    (hrepr : ∀ k x, self.wh k = .finite x → FloatText (float_repr x) x)
    (other : EnergyIntegrator) :
    other.load (limit + 1) (.present (document float_repr self)) = .ok self := by
  have hexists : (TextFile.present (document float_repr self)).exists_ = true := rfl
  have hnodup : ((members self).map Prod.fst).Nodup := by
    have hkeys : (members self).map Prod.fst = "version" :: WH_KEYS.map WhKey.name := by
      rw [members, List.map_cons, List.map_map]
      rfl
    rw [hkeys]
    decide
  have hversion : Json.get "version" ((members self).map fun m =>
      (m.1.toList.map Char.toNat, m.2)) = some (.int 1) :=
    Json.get_of_mem hnodup List.mem_cons_self
  rw [EnergyIntegrator.load, if_neg (not_not.mpr hexists), read_data_document limit hsound hrepr]
  dsimp only
  have hmatches : version_matches (some (.int 1)) = true := rfl
  rw [hversion, if_pos hmatches, EnergyIntegrator.restore_eq_ok_iff]
  intro k
  have hmem : (k.name, Json.Value.float (self.wh k)) ∈ members self := by
    refine List.mem_cons_of_mem _ (List.mem_map.mpr ⟨k, ?_, rfl⟩)
    cases k <;> decide
  rw [Json.get_of_mem hnodup hmem]
  refine ⟨nofun, ?_⟩
  obtain ⟨x, hx, heq⟩ := hsound k
  rw [as_float, heq, checked_finite hx]

end

/-- Atomic, lossless persistence: a save is atomic wherever it is cut short, and what a
completed save has written is loaded as the accumulators that were saved. -/
theorem persistence_atomic_lossless (float_repr : ℚ → List Char) (host : Host)
    {self : EnergyIntegrator} (hself : AccumulatorState self) (target : TextFile)
    (hrepr : ∀ k x, self.wh k = .finite x → FloatText (float_repr x) x) :
    SavesAtomically float_repr host self target (save float_repr host (.start self target)) ∧
    ((∀ c ≠ .unlink, host.fault c = none) → ∀ limit (other : EnergyIntegrator),
      other.load (limit + 1) (save float_repr host (.start self target)).1.target = .ok self) := by
  have hatomic := save_savesAtomically float_repr host self target
  refine ⟨hatomic, fun hcompleted limit other => ?_⟩
  rw [hatomic.completed hcompleted]
  exact load_document limit hself.sound hrepr other

/-- One watt-hour has been charged. -/
def one_watt_hour : EnergyIntegrator :=
  EnergyIntegrator.zero.charged (EnergyIntegrator.charging (.finite 5))

theorem one_watt_hour_wh (k : WhKey) :
    one_watt_hour.wh k = .finite (if k = .battery_energy_in_wh then 1 else 0) := by
  cases k <;> decide +kernel

theorem accumulatorState_one_watt_hour : AccumulatorState one_watt_hour := by
  have hlisted : (EnergyIntegrator.charging (.finite 5)).Listed := by
    intro key hkey n
    simp only [List.mem_cons, List.not_mem_nil, or_false] at hkey
    obtain rfl | rfl | rfl | rfl := hkey <;> nofun
  exact .update .zero (EnergyIntegrator.update_eq .zero hlisted)

/-- How Python prints the floats 0.0 and 1.0. -/
def zero_or_one_repr (x : ℚ) : List Char := if x = 1 then "1.0".toList else "0.0".toList

theorem floatText_zero_or_one {x : ℚ} (hx : x = 0 ∨ x = 1) : FloatText (zero_or_one_repr x) x := by
  have htext (d : Char) (hd : d = '0' ∨ d = '1') {x : ℚ}
      (hx : PyFloat.nearest_double ((Nat.ofDigitChars 10 [d, '0'] 0 : ℚ) / 10 ^ 1) = .finite x) :
      FloatText [d, '.', '0'] x := by
    have hwhole : Json.WholeDigits [d] := by
      obtain rfl | rfl := hd
      · exact .inl rfl
      · exact .inr ⟨'1', [], rfl, by decide, by simp⟩
    refine ⟨?_, by obtain rfl | rfl := hd <;> decide⟩
    rw [← hx]
    exact Json.numberText_decimal hwhole (List.cons_ne_nil '0' []) (by simp)
  obtain rfl | rfl := hx
  · exact htext '0' (.inl rfl) (by decide +kernel)
  · exact htext '1' (.inr rfl) (by decide +kernel)

theorem floatText_one_watt_hour (k : WhKey) (x : ℚ) (hx : one_watt_hour.wh k = .finite x) :
    FloatText (zero_or_one_repr x) x := by
  rw [one_watt_hour_wh, PyFloat.finite.injEq] at hx
  refine floatText_zero_or_one ?_
  split_ifs at hx
  · exact .inr hx.symm
  · exact .inl hx.symm

theorem persistence_atomic_lossless_charged :
    EnergyIntegrator.zero.load 1000 (save zero_or_one_repr ⟨fun _ => none, fun _ => 0⟩
      (.start one_watt_hour .missing)).1.target = .ok one_watt_hour :=
  (persistence_atomic_lossless zero_or_one_repr _ accumulatorState_one_watt_hour .missing
    floatText_one_watt_hour).2 (fun _ _ => rfl) 999 .zero

end inverter_bridge.energy_integrator
