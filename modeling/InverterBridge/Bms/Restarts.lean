import InverterBridge.Bms.Integration
import InverterBridge.EnergyIntegrator.Restarts

open Python Checkpoint TransitionSystem
open inverter_bridge.energy_integrator (SaveCall Fault Host SaveState Ended FloatText float_text
  save_body save_body_ok save_body_error fault_of_completes completes_of_save_body
  zero_or_one_repr floatText_zero_or_one)
open inverter_bridge.bms.aggregator

/-! The totals of the BMS service over restarts of the daemon, however it ended. -/

namespace inverter_bridge.bms.service

/-- What the energy file keeps. -/
structure Totals where
  energy_in_Wh : PyFloat
  energy_out_Wh : PyFloat

namespace Totals

def Sound (self : Totals) : Prop := self.energy_in_Wh.Sound ∧ self.energy_out_Wh.Sound

/-- No total is lower. -/
instance : Preorder Totals :=
  Preorder.lift fun self => (self.energy_in_Wh.value, self.energy_out_Wh.value)

/-- A running service with these totals, and the times of its last sample and save. -/
def station (self : Totals) (last_energy_sample_t : Option ℚ) (last_energy_save_t : ℚ) : Station :=
  ⟨⟨self.energy_in_Wh, self.energy_out_Wh, last_energy_sample_t, last_energy_save_t⟩,
    (self.energy_in_Wh, self.energy_out_Wh)⟩

/-- `data`, with the texts of its values. -/
def data (float_repr : ℚ → List Char) (saved_at_unix : List Char) (self : Totals) :
    List (String × List Char) :=
  [("energy_in_Wh", float_text float_repr self.energy_in_Wh),
    ("energy_out_Wh", float_text float_repr self.energy_out_Wh), ("saved_at_unix", saved_at_unix)]

/-- The bytes of a complete document. -/
def document (float_repr : ℚ → List Char) (saved_at_unix : List Char) (self : Totals) : ByteArray :=
  encode_utf8 (Json.dump_dict (self.data float_repr saved_at_unix))

/-- The texts of the totals are read back. -/
def TextsRead (float_repr : ℚ → List Char) (self : Totals) : Prop :=
  ∀ x, self.energy_in_Wh = .finite x ∨ self.energy_out_Wh = .finite x → FloatText (float_repr x) x

end Totals

def BmsService.totals (self : BmsService) : Totals := ⟨self.energy_in_Wh, self.energy_out_Wh⟩

/-- The totals of a service that starts up with this file. -/
def loaded (limit : Nat) (decimal_digit : Nat → Option Nat) (file : TextFile) : Totals :=
  ((BmsService.init 0).load_energy_state decode_utf8 limit decimal_digit file).totals

/-- The host of a save, with the text of `time.time()`. -/
structure SaveHost extends Host where
  saved_at_unix : List Char
  saved_at : ∃ t, FloatText saved_at_unix t

/-- `_save_energy_state()`: the calls of `EnergyIntegrator.save` on a file of its own, whose
accumulators are not in play; any exception is logged, and the temporary file is unlinked in any
case. -/
def save_energy_state (host : Host) (document : ByteArray) (file : TextFile) : SaveState × Ended :=
  match save_body host document (.start .zero file) with
  | .ok s => (s, .returned)
  | .error ⟨.crash, s⟩ => (s, .crashed)
  | .error ⟨.OSError, s⟩ =>
    match host.call .unlink .unlinked id s with
    | .ok s => (s, .returned)
    | .error ⟨.OSError, s⟩ => (s, .returned)
    | .error ⟨.crash, s⟩ => (s, .crashed)

/-- The service with its energy file: it grows by calls of `_integrate_energy`, whatever the time of
the last sample was. -/
def store (float_repr : ℚ → List Char) (limit : Nat) (decimal_digit : Nat → Option Nat) :
    Store Totals TextFile (Option ℚ × Call) SaveHost where
  load file := some (loaded limit decimal_digit file)
  grow self call := some ((self.station call.1 0).after call.2).toBmsService.totals
  save host self file :=
    let (s, ended) :=
      save_energy_state host.toHost (self.document float_repr host.saved_at_unix) file
    { file := s.target, synced := !s.target_unsynced, running := ended = .returned }
  completes host := host.toHost.completes

section

variable {self : Totals} {float_repr : ℚ → List Char} {limit : Nat}
  {decimal_digit : Nat → Option Nat} {host : Host} {file : TextFile}

/-- The bytes of the file are on the disk, and it is the old one or the complete new one. -/
theorem save_energy_state_leaves (document : ByteArray) :
    (save_energy_state host document file).1.target_unsynced = false ∧
      (save_energy_state host document file).1.target =
        if host.completes then .present document else file := by
  have hcut {fault : Fault} {c : SaveCall} (hc : c ≠ .unlink) (hfault : host.fault c = some fault) :
      ¬ host.completes = true := by
    intro hcompletes
    rw [fault_of_completes hcompletes c hc] at hfault
    cases hfault
  unfold save_energy_state
  split
  case h_1 s hbody =>
    rw [save_body_ok hbody, if_pos (completes_of_save_body hbody)]
    exact ⟨rfl, rfl⟩
  case h_2 s hbody =>
    obtain ⟨⟨-, htarget, hunsynced, -⟩, c, hc, hfault⟩ := save_body_error rfl hbody
    rw [if_neg (hcut hc hfault)]
    exact ⟨hunsynced, htarget⟩
  case h_3 s hbody =>
    obtain ⟨⟨-, htarget, hunsynced, -⟩, c, hc, hfault⟩ := save_body_error rfl hbody
    rw [if_neg (hcut hc hfault)]
    unfold Host.call
    cases host.fault .unlink with
    | none => exact ⟨hunsynced, htarget⟩
    | some fault => cases fault <;> exact ⟨hunsynced, htarget⟩

/-- The members of the document: what the texts of `data` stand for. -/
def Totals.members (self : Totals) (t : ℚ) : List (String × Json.Value) :=
  [("energy_in_Wh", .float self.energy_in_Wh), ("energy_out_Wh", .float self.energy_out_Wh),
    ("saved_at_unix", .float (.finite t))]

/-- What is read of a document. -/
theorem read_data_document (hsound : self.Sound) (hread : self.TextsRead float_repr)
    {saved_at_unix : List Char} {t : ℚ} (ht : FloatText saved_at_unix t) :
    read_data decode_utf8 (limit + 1) (.present (self.document float_repr saved_at_unix)) =
      some (.dict ((self.members t).map fun m => (m.1.toList.map Char.toNat, m.2))) := by
  have htext {total : PyFloat} (htotal : total.Sound)
      (heq : ∀ x, total = .finite x → FloatText (float_repr x) x) :
      Json.NumberText (float_text float_repr total) (.float total) ∧
        '\r' ∉ float_text float_repr total := by
    obtain ⟨x, -, rfl⟩ := htotal
    exact ⟨(heq x rfl).number, (heq x rfl).no_return⟩
  obtain ⟨hin, hin_return⟩ := htext hsound.1 fun x hx => hread x (.inl hx)
  obtain ⟨hout, hout_return⟩ := htext hsound.2 fun x hx => hread x (.inr hx)
  have hreturn : '\r' ∉ Json.dump_dict (self.data float_repr saved_at_unix) := by
    apply Json.not_mem_dump_dict (by decide)
    simp only [Totals.data, List.forall_mem_cons]
    exact ⟨⟨by decide, hin_return⟩, ⟨by decide, hout_return⟩, ⟨by decide, ht.no_return⟩, nofun⟩
  have hloads := @Json.loads_dump_dict limit
    [("energy_in_Wh", float_text float_repr self.energy_in_Wh, .float self.energy_in_Wh),
      ("energy_out_Wh", float_text float_repr self.energy_out_Wh, .float self.energy_out_Wh),
      ("saved_at_unix", saved_at_unix, .float (.finite t))]
    (List.cons_ne_nil _ _)
    (by
      simp only [List.forall_mem_cons]
      exact ⟨by decide, by decide, by decide, nofun⟩)
    (by
      simp only [List.forall_mem_cons]
      exact ⟨hin, hout, ht.number, nofun⟩)
  simp only [List.map_cons, List.map_nil] at hloads
  rw [read_data, Totals.document, TextFile.read_text_encode_utf8 hreturn]
  dsimp only
  rw [Totals.data, hloads]
  rfl

/-- A service that starts up with a complete document has the totals that were saved. -/
theorem loaded_document (hsound : self.Sound) (hread : self.TextsRead float_repr)
    {saved_at_unix : List Char} {t : ℚ} (ht : FloatText saved_at_unix t) :
    loaded (limit + 1) decimal_digit (.present (self.document float_repr saved_at_unix)) = self := by
  have hnodup : ((self.members t).map Prod.fst).Nodup := by
    have hkeys : (self.members t).map Prod.fst =
        ["energy_in_Wh", "energy_out_Wh", "saved_at_unix"] := rfl
    rw [hkeys]
    decide
  have hentry {key : String} {total : PyFloat} (hmem : (key, .float total) ∈ self.members t) :
      float_entry decimal_digit key ((self.members t).map fun m =>
        (m.1.toList.map Char.toNat, m.2)) = some total := by
    rw [float_entry, Json.get_of_mem hnodup hmem]
    rfl
  rw [loaded, load_energy_state_dict (read_data_document hsound hread ht),
    hentry List.mem_cons_self, hentry (List.mem_cons_of_mem _ List.mem_cons_self)]
  rfl

/-- A call of `_integrate_energy` adds energy that is not negative to both totals. -/
theorem grow_totals (hsound : self.Sound) (last : Option ℚ) (call : Call) :
    ((self.station last 0).after call).toBmsService.totals.Sound ∧
      self ≤ ((self.station last 0).after call).toBmsService.totals := by
  obtain ⟨-, hin, hout, -⟩ := (self.station last 0).after_cases call
  have hcharged := call.energy_nonneg last call.power_charging_nonneg
  have hdischarged := call.energy_nonneg last call.power_discharging_nonneg
  refine ⟨⟨?_, ?_⟩, ?_, ?_⟩
  · rw [BmsService.totals, hin]
    exact hsound.1.add hcharged
  · rw [BmsService.totals, hout]
    exact hsound.2.add hdischarged
  · show self.energy_in_Wh.value ≤ ((self.station last 0).after call).energy_in_Wh.value
    rw [hin]
    exact (le_add_of_nonneg_right hcharged).trans_eq (hsound.1.value_add _).symm
  · show self.energy_out_Wh.value ≤ ((self.station last 0).after call).energy_out_Wh.value
    rw [hout]
    exact (le_add_of_nonneg_right hdischarged).trans_eq (hsound.2.value_add _).symm

theorem lawful (float_repr : ℚ → List Char) (limit : Nat) (decimal_digit : Nat → Option Nat) :
    (store float_repr (limit + 1) decimal_digit).Lawful Totals.Sound
      (Totals.TextsRead float_repr) where
  grow_good self self' call hsound hgrow := by
    cases hgrow
    exact (grow_totals hsound call.1 call.2).1
  le_grow self self' call hsound hgrow := by
    cases hgrow
    exact (grow_totals hsound call.1 call.2).2
  save_completes host self file hsound hread hcompletes := by
    obtain ⟨t, ht⟩ := host.saved_at
    have htarget := (@save_energy_state_leaves host.toHost file
      (self.document float_repr host.saved_at_unix)).2.trans (if_pos hcompletes)
    exact congrArg some ((congrArg (loaded (limit + 1) decimal_digit) htarget).trans
      (loaded_document hsound hread ht))
  save_cut host self file hcut :=
    (@save_energy_state_leaves host.toHost file
      (self.document float_repr host.saved_at_unix)).2.trans (if_neg (Bool.eq_false_iff.mp hcut))
  save_synced host self file := by
    simp only [store, (save_energy_state_leaves _).1, Bool.not_false]

/-- In every run of starts, integrations, saves cut short anywhere, ends and losses of power, from a
file of sound totals: the service starts with the totals that the file held at first or that a save
put in place, none of them below what it had loaded or saved since the last loss of power, or what
had settled on the disk; and while it runs no total falls below what it would be restarted with. -/
theorem totals_survive_restarts (float_repr : ℚ → List Char) (limit : Nat)
    (decimal_digit : Nat → Option Nat) {file : TextFile}
    (hfile : (loaded (limit + 1) decimal_digit file).Sound)
    {acts : List (Checkpoint.Act TextFile (Option ℚ × Call) SaveHost)}
    {s : Checkpoint.State Totals TextFile}
    (hrun : run (store float_repr (limit + 1) decimal_digit).step (.init file) acts = some s)
    (hread : Along (store float_repr (limit + 1) decimal_digit).step
      (Store.Readable (Totals.TextsRead float_repr)) (.init file) acts) :
    Trace.EachAt (Store.Resumes (loaded (limit + 1) decimal_digit file)) s.history ∧
      (loaded (limit + 1) decimal_digit s.file).Sound ∧
      (∀ self ∈ recent s.history, self ≤ loaded (limit + 1) decimal_digit s.file) ∧
      ∀ self, s.memory = some self →
        self.Sound ∧ loaded (limit + 1) decimal_digit s.file ≤ self := by
  obtain ⟨current, h⟩ := Store.run_durable (lawful float_repr limit decimal_digit) rfl hfile hrun
    hread
  obtain rfl := Option.some.inj h.file
  exact ⟨h.history, h.sound, h.recent, h.memory⟩

end

/-- A host that cuts nothing short. -/
def idle_host : SaveHost :=
  ⟨⟨fun _ => none, fun _ => 0⟩, "0.0".toList, 0, floatText_zero_or_one (.inl rfl)⟩

/-- One watt-hour is charged and saved, the file settles, another save is cut short by the end of
the process, and the power is lost. -/
def cut_after_saving : List (Checkpoint.Act TextFile (Option ℚ × Call) SaveHost) :=
  [.start, .grow (some 2, ⟨3, pack 72, none, true⟩), .save idle_host, .settle,
    .save { idle_host with toHost := energy_integrator.killed_host }, .lose_power 0, .start]

/-- What is saved are one watt-hour and nothing. -/
def saves_one_and_zero (s : Checkpoint.State Totals TextFile) :
    Checkpoint.Act TextFile (Option ℚ × Call) SaveHost → Bool
  | .save _ => s.memory.all fun self =>
    self.energy_in_Wh = .finite 1 ∧ self.energy_out_Wh = .finite 0
  | _ => true

theorem readable_of_saves_one_and_zero {s : Checkpoint.State Totals TextFile}
    {act : Checkpoint.Act TextFile (Option ℚ × Call) SaveHost}
    (h : saves_one_and_zero s act = true) :
    Store.Readable (Totals.TextsRead zero_or_one_repr) s act := by
  cases act with
  | save host =>
    intro self hself
    rw [saves_one_and_zero, hself, Option.all_some, decide_eq_true_eq] at h
    rintro x (hx | hx)
    · rw [h.1, PyFloat.finite.injEq] at hx
      exact floatText_zero_or_one (.inr hx.symm)
    · rw [h.2, PyFloat.finite.injEq] at hx
      exact floatText_zero_or_one (.inl hx.symm)
  | _ => trivial

theorem totals_survive_restarts_cut :
    ∃ s, run (store zero_or_one_repr 1000 fun _ => none).step (.init .missing) cut_after_saving =
        some s ∧ s.history.length = 5 ∧
      Trace.EachAt (Store.Resumes ⟨.finite 0, .finite 0⟩) s.history := by
  have hrun : (run (store zero_or_one_repr 1000 fun _ => none).step (.init .missing)
      cut_after_saving).any (fun s => s.history.length = 5) = true := by
    decide +kernel
  have hsaves : Along (store zero_or_one_repr 1000 fun _ => none).step
      (fun s act => saves_one_and_zero s act = true) (.init .missing) cut_after_saving := by
    decide +kernel
  obtain ⟨s, hrun, hlength⟩ := (Option.any_eq_true _ _).mp hrun
  have hread := hsaves.imp fun _ _ => readable_of_saves_one_and_zero
  exact ⟨s, hrun, of_decide_eq_true hlength,
    (totals_survive_restarts zero_or_one_repr 999 (fun _ => none)
      ⟨⟨0, le_rfl, rfl⟩, ⟨0, le_rfl, rfl⟩⟩ hrun hread).1⟩

end inverter_bridge.bms.service
