import InverterBridge.EnergyIntegrator.Load
import InverterBridge.Lib.JsonDump

open Python

namespace inverter_bridge.energy_integrator

/-! ## The document -/

section

-- `float.__repr__` of a finite float
variable (float_repr : ℚ → List Char)

/-- A float as `json.dump` writes it. -/
def float_text : PyFloat → List Char
  | .finite x => float_repr x
  | .inf => "Infinity".toList
  | .neg_inf => "-Infinity".toList
  | .nan => "NaN".toList

/-- `payload`, with the texts of its values. -/
def payload (self : EnergyIntegrator) : List (String × List Char) :=
  ("version", "1".toList) :: WH_KEYS.map fun key => (key.name, float_text float_repr (self.wh key))

/-- The bytes of a complete document. -/
def document (self : EnergyIntegrator) : ByteArray :=
  encode_utf8 (Json.dump_dict (payload float_repr self))

end

/-! ## Saving -/

/-- The calls `save` makes to the host. -/
inductive SaveCall where
  | mkdir
  | create
  | write
  | flush
  | fsync
  | close
  | replace
  | unlink
  deriving DecidableEq

/-- What cuts a call short: an `OSError`, or the end of the process. -/
inductive Fault where
  | OSError
  | crash
  deriving DecidableEq

/-- The host: the calls it cuts short, and how many bytes of the document the temporary file
holds behind one that is, or that leaves some of them in a buffer. -/
structure Host where
  fault : SaveCall → Option Fault
  written : SaveCall → Nat

/-- A temporary file: its bytes, and whether they are on the disk. -/
structure TmpFile where
  contents : ByteArray
  synced : Bool

/-- What `save` works on: the accumulators, the file at `persist_path` with whether it can
still lose its bytes, the temporary file, and whether `tmp_path` is set. -/
structure SaveState where
  self : EnergyIntegrator
  target : TextFile
  target_unsynced : Bool
  tmp : Option TmpFile
  tmp_path : Bool

namespace SaveState

/-- The temporary file holds the first `n` bytes of the document. -/
def holding (document : ByteArray) (n : Nat) (s : SaveState) : SaveState :=
  { s with tmp := s.tmp.map fun file => { file with contents := document.extract 0 n } }

/-- The temporary file is there, empty. -/
def created (s : SaveState) : SaveState :=
  { s with tmp := some ⟨.empty, false⟩, tmp_path := true }

/-- `os.fsync(tmp.fileno())`. -/
def synced (s : SaveState) : SaveState :=
  { s with tmp := s.tmp.map fun file => { file with synced := true } }

/-- `os.replace(tmp_path, self.persist_path)`. -/
def replaced (s : SaveState) : SaveState :=
  match s.tmp with
  | some file =>
    { s with target := .present file.contents, target_unsynced := !file.synced, tmp := none }
  | none => s

/-- `tmp_path.unlink(missing_ok=True)`. -/
def unlinked (s : SaveState) : SaveState := { s with tmp := none }

end SaveState

/-- What ends the body of the `try`, and where. -/
structure Cut where
  fault : Fault
  state : SaveState

/-- One call: it has its effect, or it is cut short, with another effect. -/
def Host.call (host : Host) (c : SaveCall) (effect cut : SaveState → SaveState)
    (s : SaveState) : Except Cut SaveState :=
  match host.fault c with
  | none => .ok (effect s)
  | some fault => .error ⟨fault, cut s⟩

section

variable (host : Host) (document : ByteArray)

/-- The body of the `with` statement: what is dumped may still be in the buffer. -/
def write_tmp (s : SaveState) : Except Cut SaveState := do
  let s ← host.call .write (.holding document (host.written .write))
    (.holding document (host.written .write)) s
  let s ← host.call .flush (.holding document document.size)
    (.holding document (host.written .flush)) s
  host.call .fsync .synced id s

/-- The `with` statement, which closes the file also behind an exception. -/
def with_tmp (s : SaveState) : Except Cut SaveState :=
  match write_tmp host document s with
  | .ok s => host.call .close id id s
  | .error ⟨.OSError, s⟩ => do
    let s ← host.call .close (.holding document (host.written .close))
      (.holding document (host.written .close)) s
    .error ⟨.OSError, s⟩
  | .error ⟨.crash, s⟩ => .error ⟨.crash, s⟩

/-- The body of the `try`. -/
def save_body (s : SaveState) : Except Cut SaveState := do
  let s ← host.call .mkdir id id s
  let s ← host.call .create .created id s
  let s ← with_tmp host document s
  host.call .replace .replaced id s

end

/-- How a call of `save` ends. -/
inductive Ended where
  | returned
  | crashed
  deriving DecidableEq

/-- `save()`, for an integrator with a `persist_path`: no `OSError` leaves it, for the one of
the `unlink` is suppressed. -/
def save (float_repr : ℚ → List Char) (host : Host) (s : SaveState) : SaveState × Ended :=
  match save_body host (document float_repr s.self) s with
  | .ok s => (s, .returned)
  | .error ⟨.crash, s⟩ => (s, .crashed)
  | .error ⟨.OSError, s⟩ =>
    if s.tmp_path then
      match host.call .unlink .unlinked id s with
      | .ok s => (s, .returned)
      | .error ⟨.OSError, s⟩ => (s, .returned)
      | .error ⟨.crash, s⟩ => (s, .crashed)
    else (s, .returned)

/-- What a restart may find at `persist_path`: the file from before `save`, whose replacement
the disk may have missed, or the one that is there, in any state unless its bytes are on the
disk. -/
def SaveState.Finds (before : TextFile) (s : SaveState) (found : TextFile) : Prop :=
  found = before ∨ found = s.target ∨ s.target_unsynced = true

/-! ## What a save leaves -/

/-- Before the replacement nothing is changed but the temporary file, and its path is known. -/
structure Kept (s s' : SaveState) : Prop where
  self : s'.self = s.self
  target : s'.target = s.target
  target_unsynced : s'.target_unsynced = s.target_unsynced
  tmp_path : s'.tmp.isSome → s'.tmp_path = true

namespace Kept

variable {s s' : SaveState}

theorem holding (h : Kept s s') (document : ByteArray) (n : Nat) :
    Kept s (s'.holding document n) :=
  ⟨h.self, h.target, h.target_unsynced, fun htmp => h.tmp_path (by
    rwa [SaveState.holding, Option.isSome_map] at htmp)⟩

theorem created (h : Kept s s') : Kept s s'.created :=
  ⟨h.self, h.target, h.target_unsynced, fun _ => rfl⟩

theorem synced (h : Kept s s') : Kept s s'.synced :=
  ⟨h.self, h.target, h.target_unsynced, fun htmp => h.tmp_path (by
    rwa [SaveState.synced, Option.isSome_map] at htmp)⟩

end Kept

/-- Where it is cut short nothing but the temporary file is changed, and the host is at fault. -/
def CutKeeps (host : Host) (s : SaveState) (result : Except Cut SaveState) : Prop :=
  ∀ cut, result = .error cut →
    Kept s cut.state ∧ ∃ c ≠ .unlink, host.fault c = some cut.fault

/-- Nothing but the temporary file is changed in any case. -/
structure Keeps (host : Host) (s : SaveState) (result : Except Cut SaveState) : Prop where
  ok : ∀ s', result = .ok s' → Kept s s'
  cut : CutKeeps host s result

section

variable {host : Host} {document : ByteArray} {s s' : SaveState}

theorem Host.call_eq_ok_iff {c : SaveCall} {effect cut : SaveState → SaveState} :
    host.call c effect cut s = .ok s' ↔ host.fault c = none ∧ s' = effect s := by
  unfold call
  cases host.fault c with
  | none => simp [eq_comm]
  | some fault => simp

theorem cutKeeps_call (c : SaveCall) (hc : c ≠ .unlink) {effect cut : SaveState → SaveState}
    (hcut : Kept s (cut s')) : CutKeeps host s (host.call c effect cut s') := by
  unfold Host.call
  cases hfault : host.fault c with
  | none => nofun
  | some fault =>
    rintro _ ⟨⟩
    exact ⟨hcut, c, hc, hfault⟩

theorem keeps_call (c : SaveCall) (hc : c ≠ .unlink) {effect cut : SaveState → SaveState}
    (heffect : Kept s (effect s')) (hcut : Kept s (cut s')) :
    Keeps host s (host.call c effect cut s') := by
  refine ⟨fun s'' hok => ?_, cutKeeps_call c hc hcut⟩
  rw [(Host.call_eq_ok_iff.mp hok).2]
  exact heffect

section bind

variable {result : Except Cut SaveState} {next : SaveState → Except Cut SaveState}

theorem Keeps.bind_cut (h : Keeps host s result)
    (hnext : ∀ s', Kept s s' → CutKeeps host s (next s')) :
    CutKeeps host s (result >>= next) := by
  cases result with
  | ok s' => exact hnext s' (h.ok s' rfl)
  | error cut => exact fun cut' heq => h.cut cut' heq

theorem Keeps.bind (h : Keeps host s result) (hnext : ∀ s', Kept s s' → Keeps host s (next s')) :
    Keeps host s (result >>= next) := by
  refine ⟨fun s' hok => ?_, h.bind_cut fun s' hs' => (hnext s' hs').cut⟩
  obtain ⟨mid, hmid, hrest⟩ := bind_eq_ok_iff.mp hok
  exact (hnext mid (h.ok mid hmid)).ok s' hrest

end bind

theorem keeps_write_tmp (h : Kept s s') : Keeps host s (write_tmp host document s') := by
  refine (keeps_call .write nofun (h.holding _ _) (h.holding _ _)).bind fun s' h => ?_
  refine (keeps_call .flush nofun (h.holding _ _) (h.holding _ _)).bind fun s' h => ?_
  exact keeps_call .fsync nofun h.synced h

theorem keeps_with_tmp (h : Kept s s') : Keeps host s (with_tmp host document s') := by
  have hwrite : Keeps host s (write_tmp host document s') := keeps_write_tmp h
  unfold with_tmp
  split
  case h_1 s' hok =>
    have hkept := hwrite.ok s' hok
    exact keeps_call .close nofun hkept hkept
  case h_2 s' hcut =>
    obtain ⟨hkept, hfault⟩ := hwrite.cut _ hcut
    refine (keeps_call .close nofun (hkept.holding _ _) (hkept.holding _ _)).bind fun s' h => ?_
    refine ⟨nofun, ?_⟩
    rintro _ ⟨⟩
    exact ⟨h, hfault⟩
  case h_3 s' hcut =>
    refine ⟨nofun, ?_⟩
    rintro _ ⟨⟩
    exact hwrite.cut _ hcut

/-- A body that is cut short has changed nothing but the temporary file. -/
theorem save_body_error {cut : Cut} (htmp : s.tmp = none)
    (hbody : save_body host document s = .error cut) :
    Kept s cut.state ∧ ∃ c ≠ .unlink, host.fault c = some cut.fault := by
  have hstart : Kept s s := ⟨rfl, rfl, rfl, fun h => by rw [htmp] at h; cases h⟩
  have hcut : CutKeeps host s (save_body host document s) :=
    (keeps_call .mkdir nofun hstart hstart).bind_cut fun s' h =>
      (keeps_call .create nofun h.created h).bind_cut fun s' h =>
        (keeps_with_tmp h).bind_cut fun s' h => cutKeeps_call .replace nofun h
  exact hcut cut hbody

/-- A body that is not has put the complete document, which is on the disk, in place. -/
theorem save_body_ok (hbody : save_body host document s = .ok s') :
    s' = { s with
      target := .present document, target_unsynced := false, tmp := none, tmp_path := true } := by
  simp only [save_body, bind_eq_ok_iff, Host.call_eq_ok_iff] at hbody
  obtain ⟨_, ⟨-, rfl⟩, _, ⟨-, rfl⟩, written, hwith, -, rfl⟩ := hbody
  unfold with_tmp at hwith
  split at hwith
  case h_1 closed hwrite =>
    rw [Host.call_eq_ok_iff] at hwith
    simp only [write_tmp, bind_eq_ok_iff, Host.call_eq_ok_iff] at hwrite
    obtain ⟨_, ⟨-, rfl⟩, _, ⟨-, rfl⟩, -, rfl⟩ := hwrite
    rw [hwith.2]
    simp [SaveState.replaced, SaveState.synced, SaveState.holding, SaveState.created]
  case h_2 =>
    rw [bind_eq_ok_iff] at hwith
    obtain ⟨_, -, hwith⟩ := hwith
    cases hwith
  case h_3 => cases hwith

end

/-! ## Atomic saving -/

/-- A call of `save` by an integrator with this file at its `persist_path`. -/
def SaveState.start (self : EnergyIntegrator) (target : TextFile) : SaveState :=
  ⟨self, target, false, none, false⟩

/-- Wherever the host cuts a save short: a restart finds the old file or the complete new one,
the accumulators are as before, no `OSError` leaves the call, and the temporary file is gone
when it can be unlinked; a save that is not cut short has replaced the file. -/
structure SavesAtomically (float_repr : ℚ → List Char) (host : Host)
    (integrator : EnergyIntegrator) (target : TextFile) (result : SaveState × Ended) : Prop where
  found : ∀ found, result.1.Finds target found →
    found = target ∨ found = .present (document float_repr integrator)
  accumulators : result.1.self = integrator
  returned : (∀ c, host.fault c ≠ some .crash) → result.2 = .returned
  tmp : result.2 = .returned → host.fault .unlink = none → result.1.tmp = none
  completed : (∀ c ≠ .unlink, host.fault c = none) →
    result.1.target = .present (document float_repr integrator)

/-- Behind the handler of a body that was cut short the old file is there. -/
theorem savesAtomically_of_kept {float_repr : ℚ → List Char} {host : Host}
    {self : EnergyIntegrator} {target : TextFile} {s : SaveState} {ended : Ended}
    (hself : s.self = self) (htarget : s.target = target) (hsynced : s.target_unsynced = false)
    (hreturned : (∀ c, host.fault c ≠ some .crash) → ended = .returned)
    (htmp : ended = .returned → host.fault .unlink = none → s.tmp = none)
    (hfault : ∃ c ≠ .unlink, ∃ fault, host.fault c = some fault) :
    SavesAtomically float_repr host self target (s, ended) := by
  refine ⟨?_, hself, hreturned, htmp, fun hnone => ?_⟩
  · rintro found (hold | hnow | hlost)
    · exact .inl hold
    · exact .inl (hnow.trans htarget)
    · rw [hsynced] at hlost
      cases hlost
  · obtain ⟨c, hc, fault, hcut⟩ := hfault
    rw [hnone c hc] at hcut
    cases hcut

/-- Saving is atomic. -/
theorem save_savesAtomically (float_repr : ℚ → List Char) (host : Host) (self : EnergyIntegrator)
    (target : TextFile) :
    SavesAtomically float_repr host self target
      (save float_repr host (.start self target)) := by
  unfold save
  split
  case h_1 s hbody =>
    rw [save_body_ok hbody]
    refine ⟨?_, rfl, fun _ => rfl, fun _ _ => rfl, fun _ => rfl⟩
    rintro found (hold | hnow | hlost)
    · exact .inl hold
    · exact .inr hnow
    · cases hlost
  case h_2 s hbody =>
    obtain ⟨⟨hself, htarget, hsynced, -⟩, c, hc, hfault⟩ := save_body_error rfl hbody
    refine savesAtomically_of_kept hself htarget hsynced (fun hno => ?_) nofun ⟨c, hc, _, hfault⟩
    exact absurd hfault (hno c)
  case h_3 s hbody =>
    obtain ⟨⟨hself, htarget, hsynced, hpath⟩, c, hc, hfault⟩ := save_body_error rfl hbody
    split_ifs with htmp
    · unfold Host.call
      cases hunlink : host.fault .unlink with
      | none =>
        exact savesAtomically_of_kept hself htarget hsynced (fun _ => rfl) (fun _ _ => rfl)
          ⟨c, hc, _, hfault⟩
      | some fault =>
        cases fault with
        | OSError =>
          refine savesAtomically_of_kept hself htarget hsynced (fun _ => rfl) (fun _ hno => ?_)
            ⟨c, hc, _, hfault⟩
          rw [hunlink] at hno
          cases hno
        | crash =>
          refine savesAtomically_of_kept hself htarget hsynced (fun hno => ?_) nofun
            ⟨c, hc, _, hfault⟩
          exact absurd hunlink (hno .unlink)
    · refine savesAtomically_of_kept hself htarget hsynced (fun _ => rfl) (fun _ _ => ?_)
        ⟨c, hc, _, hfault⟩
      rw [← Option.not_isSome_iff_eq_none]
      exact fun hsome => htmp (hpath hsome)

end inverter_bridge.energy_integrator
