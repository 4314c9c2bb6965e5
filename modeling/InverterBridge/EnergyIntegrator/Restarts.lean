import InverterBridge.EnergyIntegrator.Persistence
import InverterBridge.EnergyIntegrator.Accounting
import InverterBridge.Lib.Checkpoint

open Python Checkpoint TransitionSystem

/-! The accumulators over restarts of the daemon, however it ended. -/

namespace inverter_bridge.energy_integrator

/-- No accumulator is lower. -/
instance : Preorder EnergyIntegrator := Preorder.lift fun self k => (self.wh k).value

/-- No call of `save` but the `unlink` behind a failed one is cut short. -/
def Host.completes (host : Host) : Bool :=
  [SaveCall.mkdir, .create, .write, .flush, .fsync, .close, .replace].all fun c =>
    host.fault c = none

/-- The integrator with its `persist_path`: an `update` that raises has changed nothing. -/
def store (float_repr : ℚ → List Char) (limit : Nat) :
    Store EnergyIntegrator TextFile Call Host where
  load file := (EnergyIntegrator.init limit file).toOption
  grow self call :=
    match self.update call.aggregated call.elapsed_s with
    | .ok (self, _) => some self
    | .error _ => some self
  save host self file :=
    let (s, ended) := save float_repr host (.start self file)
    { file := s.target, synced := !s.target_unsynced, running := ended = .returned }
  completes := Host.completes

/-- The texts of the accumulators are read back. -/
def TextsRead (float_repr : ℚ → List Char) (self : EnergyIntegrator) : Prop :=
  ∀ k x, self.wh k = .finite x → FloatText (float_repr x) x

section

variable {self self' : EnergyIntegrator} {float_repr : ℚ → List Char} {host : Host}
  {file : TextFile}

theorem le_add (h : self.Sound) (k : WhKey) {x : ℚ} (hx : 0 ≤ x) : self ≤ self.add k x := by
  intro key
  show (self.wh key).value ≤ ((self.add k x).wh key).value
  unfold EnergyIntegrator.add
  dsimp only
  by_cases hkey : key = k
  · subst hkey
    rw [Function.update_self, (h key).value_add]
    exact le_add_of_nonneg_right hx
  · rw [Function.update_of_ne hkey]

/-- The integrator is sound, and no accumulator is lower than before. -/
def Grown (self self' : EnergyIntegrator) : Prop := self'.Sound ∧ self ≤ self'

theorem Grown.add (h : Grown self self') (k : WhKey) {x : ℚ} (hx : 0 ≤ x) :
    Grown self (self'.add k x) :=
  ⟨h.1.add k hx, h.2.trans (le_add h.1 k hx)⟩

theorem grown_update (h : self.Sound) {call : Call} {snapshot : Snapshot}
    (hupdate : self.update call.aggregated call.elapsed_s = .ok (self', snapshot)) :
    Grown self self' :=
  update_preserves (P := Grown self) (fun _ k _ hgrown hx => hgrown.add k hx) ⟨h, le_rfl⟩ hupdate

/-- A body that is not cut short is one where no call is. -/
theorem completes_of_save_body {document : ByteArray} {s s' : SaveState}
    (hbody : save_body host document s = .ok s') : host.completes = true := by
  simp only [save_body, bind_eq_ok_iff, Host.call_eq_ok_iff] at hbody
  obtain ⟨_, ⟨hmkdir, rfl⟩, _, ⟨hcreate, rfl⟩, written, hwith, hreplace, rfl⟩ := hbody
  unfold with_tmp at hwith
  split at hwith
  case h_1 closed hwrite =>
    rw [Host.call_eq_ok_iff] at hwith
    simp only [write_tmp, bind_eq_ok_iff, Host.call_eq_ok_iff] at hwrite
    obtain ⟨_, ⟨hwritten, rfl⟩, _, ⟨hflush, rfl⟩, hfsync, rfl⟩ := hwrite
    simp [Host.completes, hmkdir, hcreate, hwritten, hflush, hfsync, hwith.1, hreplace]
  case h_2 =>
    rw [bind_eq_ok_iff] at hwith
    obtain ⟨_, -, hwith⟩ := hwith
    cases hwith
  case h_3 => cases hwith

/-- The bytes of the file are on the disk, and a save that is cut short leaves it. -/
theorem save_leaves (self : EnergyIntegrator) :
    (save float_repr host (.start self file)).1.target_unsynced = false ∧
      (host.completes = false → (save float_repr host (.start self file)).1.target = file) := by
  unfold save
  split
  case h_1 s hbody =>
    rw [save_body_ok hbody, completes_of_save_body hbody]
    exact ⟨rfl, nofun⟩
  case h_2 s hbody =>
    obtain ⟨⟨-, htarget, hunsynced, -⟩, -⟩ := save_body_error rfl hbody
    exact ⟨hunsynced, fun _ => htarget⟩
  case h_3 s hbody =>
    obtain ⟨⟨-, htarget, hunsynced, -⟩, -⟩ := save_body_error rfl hbody
    split_ifs
    · unfold Host.call
      cases host.fault .unlink with
      | none => exact ⟨hunsynced, fun _ => htarget⟩
      | some fault => cases fault <;> exact ⟨hunsynced, fun _ => htarget⟩
    · exact ⟨hunsynced, fun _ => htarget⟩

theorem init_document (limit : Nat) (hsound : self.Sound) (hread : TextsRead float_repr self) :
    EnergyIntegrator.init (limit + 1) (.present (document float_repr self)) = .ok self := by
  have hexists : (TextFile.present (document float_repr self)).exists_ = true := rfl
  rw [EnergyIntegrator.init, if_pos hexists]
  exact load_document limit hsound hread .zero

theorem init_sound {limit : Nat} (hinit : EnergyIntegrator.init limit file = .ok self) :
    self.Sound := by
  unfold EnergyIntegrator.init at hinit
  split_ifs at hinit
  · exact EnergyIntegrator.zero_sound.load hinit
  · cases hinit
    exact EnergyIntegrator.zero_sound

theorem fault_of_completes (h : host.completes = true) : ∀ c ≠ .unlink, host.fault c = none := by
  simp only [Host.completes, List.all_eq_true, decide_eq_true_eq] at h
  intro c hc
  cases c with
  | unlink => exact absurd rfl hc
  | _ => exact h _ (by simp)

theorem grown_of_grow {limit : Nat} (h : self.Sound) {call : Call}
    (hgrow : (store float_repr limit).grow self call = some self') : Grown self self' := by
  simp only [store] at hgrow
  split at hgrow
  case h_1 result snapshot hupdate =>
    cases hgrow
    exact grown_update h hupdate
  case h_2 e hupdate =>
    cases hgrow
    exact ⟨h, le_rfl⟩

theorem load_eq_some_iff {limit : Nat} : (store float_repr limit).load file = some self ↔
    EnergyIntegrator.init limit file = .ok self := by
  simp only [store]
  cases EnergyIntegrator.init limit file with
  | error e => exact iff_of_false nofun nofun
  | ok loaded => simp [Except.toOption]

theorem lawful (limit : Nat) :
    (store float_repr (limit + 1)).Lawful EnergyIntegrator.Sound (TextsRead float_repr) where
  grow_good self self' call hsound hgrow := (grown_of_grow hsound hgrow).1
  le_grow self self' call hsound hgrow := (grown_of_grow hsound hgrow).2
  save_completes host self file hsound hread hcompletes := by
    have htarget := (save_savesAtomically float_repr host self file).completed
      (fault_of_completes hcompletes)
    simp only [store, htarget, init_document limit hsound hread]
    rfl
  save_cut host self file hcut := save_leaves self |>.2 hcut
  save_synced host self file := by
    simp only [store, (save_leaves self).1, Bool.not_false]

/-- In every run of starts, updates, saves cut short anywhere, ends and losses of power: the
daemon starts with the accumulators that the file held at first or that a save put in place, none of
them below what it had loaded or saved since the last loss of power, or what had settled on the
disk; and while it runs no accumulator falls below what it would be restarted with. -/
theorem energy_survives_restarts (float_repr : ℚ → List Char) (limit : Nat) {file : TextFile}
    {first : EnergyIntegrator} (hfile : EnergyIntegrator.init (limit + 1) file = .ok first)
    {acts : List (Checkpoint.Act TextFile Call Host)} {s : Checkpoint.State EnergyIntegrator TextFile}
    (hrun : run (store float_repr (limit + 1)).step (.init file) acts = some s)
    (hread : Along (store float_repr (limit + 1)).step (Store.Readable (TextsRead float_repr))
      (.init file) acts) :
    Trace.EachAt (Store.Resumes first) s.history ∧
      ∃ current, EnergyIntegrator.init (limit + 1) s.file = .ok current ∧ current.Sound ∧
        (∀ self ∈ recent s.history, self ≤ current) ∧
        ∀ self, s.memory = some self → self.Sound ∧ current ≤ self := by
  obtain ⟨current, h⟩ := Store.run_durable (lawful limit) (load_eq_some_iff.mpr hfile) (init_sound hfile)
    hrun hread
  have hcurrent := load_eq_some_iff.mp h.file
  exact ⟨h.history, current, hcurrent, init_sound hcurrent, h.recent, h.memory⟩

end

/-- A host on which the process ends before the file is replaced. -/
def killed_host : Host := ⟨fun c => if c = .replace then some .crash else none, fun _ => 0⟩

/-- One watt-hour is charged and saved, another save is cut short, and the power is lost before the
disk has settled. -/
def killed_while_saving : List (Checkpoint.Act TextFile Call Host) :=
  [.start, .grow (EnergyIntegrator.charging (.finite 5)), .save ⟨fun _ => none, fun _ => 0⟩,
    .save killed_host, .lose_power 2, .start]

/-- What is saved is one watt-hour. -/
def saves_one_watt_hour (s : Checkpoint.State EnergyIntegrator TextFile) :
    Checkpoint.Act TextFile Call Host → Bool
  | .save _ => s.memory.all fun self => WH_KEYS.all fun k => self.wh k = one_watt_hour.wh k
  | _ => true

theorem readable_of_saves_one_watt_hour {s : Checkpoint.State EnergyIntegrator TextFile}
    {act : Checkpoint.Act TextFile Call Host} (h : saves_one_watt_hour s act = true) :
    Store.Readable (TextsRead zero_or_one_repr) s act := by
  cases act with
  | save host =>
    intro self hself
    have hall : (WH_KEYS.all fun k => self.wh k = one_watt_hour.wh k) = true := by
      rwa [saves_one_watt_hour, hself] at h
    have heq : self = one_watt_hour := by
      refine EnergyIntegrator.ext (funext fun k => ?_)
      refine of_decide_eq_true (List.all_eq_true.mp hall k ?_)
      cases k <;> decide
    exact heq ▸ floatText_one_watt_hour
  | _ => trivial

theorem energy_survives_restarts_killed :
    ∃ s, run (store zero_or_one_repr 1000).step (.init .missing) killed_while_saving = some s ∧
      s.history.length = 4 ∧ Trace.EachAt (Store.Resumes .zero) s.history := by
  have hrun : (run (store zero_or_one_repr 1000).step (.init .missing) killed_while_saving).any
      (fun s => s.history.length = 4) = true := by
    decide +kernel
  have hsaves : Along (store zero_or_one_repr 1000).step (fun s act => saves_one_watt_hour s act = true)
      (.init .missing) killed_while_saving := by
    decide +kernel
  obtain ⟨s, hrun, hlength⟩ := (Option.any_eq_true _ _).mp hrun
  have hread := hsaves.imp fun _ _ => readable_of_saves_one_watt_hour
  exact ⟨s, hrun, of_decide_eq_true hlength,
    (energy_survives_restarts zero_or_one_repr 999 rfl hrun hread).1⟩

end inverter_bridge.energy_integrator
