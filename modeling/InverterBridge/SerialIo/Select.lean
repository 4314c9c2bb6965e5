import InverterBridge.SerialIo.Recovery

open inverter_bridge.crc inverter_bridge.modbus

namespace inverter_bridge.serial_io

/-- The three tiers of `select_response` on the paired responses of a buffer:
a response to a request for our address, an orphan, any response of the right
slave and size. -/
def match_tiers (paired : List (ModbusFrame × Option UInt16)) (slave : UInt8) (addr : UInt16)
    (count : Nat) : Option ModbusFrame :=
  let ours (f : ModbusFrame) : Bool := f.slave == slave && f.regs.length == count
  match paired.find? fun p => ours p.1 && p.2 == some addr with
  | some p => some p.1
  | none =>
    match paired.find? fun p => ours p.1 && p.2 == none with
    | some p => some p.1
    | none => (paired.find? fun p => ours p.1).map Prod.fst

/-- `select_response(stream, slave, addr, count)`. -/
def select_response (stream : Bytes) (slave : UInt8) (addr : UInt16) (count : Nat) :
    Option ModbusFrame :=
  match_tiers (responses_with_context stream).1 slave addr count

section

variable {found : List (ModbusFrame × Option UInt16)} {slave : UInt8} {addr : UInt16} {count : Nat}

/-- Responses that all have another context are passed over. -/
theorem find?_context_eq_none {ctx : Option UInt16}
    (h : ∀ p ∈ found, p.1.regs.length = count → p.2 ≠ ctx) :
    found.find? (fun p => (p.1.slave == slave && p.1.regs.length == count) && p.2 == ctx) =
      none := by
  rw [List.find?_eq_none]
  intro p hp hmatch
  simp only [Bool.and_eq_true, beq_iff_eq] at hmatch
  exact h p hp hmatch.1.2 hmatch.2

/-- The first tier wins whenever it matches. -/
theorem match_tiers_of_exact {p : ModbusFrame × Option UInt16} (hp : p ∈ found)
    (hslave : p.1.slave = slave) (hcount : p.1.regs.length = count) (haddr : p.2 = some addr) :
    ∃ q ∈ found, match_tiers found slave addr count = some q.1 ∧ q.1.regs.length = count ∧
      q.2 = some addr := by
  cases hfind : found.find? fun p => (p.1.slave == slave && p.1.regs.length == count) &&
      p.2 == some addr with
  | none =>
    have hno := List.find?_eq_none.mp hfind p hp
    simp [hslave, hcount, haddr] at hno
  | some q =>
    have hq := List.find?_some hfind
    simp only [Bool.and_eq_true, beq_iff_eq] at hq
    exact ⟨q, List.mem_of_find?_eq_some hfind, by simp only [match_tiers, hfind], hq.1.2, hq.2⟩

/-- Without a first-tier match the first orphan of the right size wins. -/
theorem match_tiers_of_orphan
    (hexact : ∀ p ∈ found, p.1.regs.length = count → p.2 ≠ some addr)
    {q : ModbusFrame × Option UInt16}
    (hfind : found.find? (fun p => (p.1.slave == slave && p.1.regs.length == count) &&
      p.2 == none) = some q) :
    match_tiers found slave addr count = some q.1 := by
  simp only [match_tiers, find?_context_eq_none hexact, hfind]

/-- Without a first-tier match and without an orphan any response of the right
size wins. -/
theorem match_tiers_of_neither
    (hexact : ∀ p ∈ found, p.1.regs.length = count → p.2 ≠ some addr)
    (horphan : ∀ p ∈ found, p.1.regs.length = count → p.2 ≠ none) :
    match_tiers found slave addr count =
      (found.find? fun p => p.1.slave == slave && p.1.regs.length == count).map Prod.fst := by
  simp only [match_tiers, find?_context_eq_none hexact, find?_context_eq_none horphan]

/-- Whatever the tier, the selected frame is one of the responses, of our slave and of
the size asked for. -/
theorem match_tiers_spec {f : ModbusFrame} (h : match_tiers found slave addr count = some f) :
    (∃ p ∈ found, p.1 = f) ∧ f.slave = slave ∧ f.regs.length = count := by
  have hours : ∀ {keep : ModbusFrame × Option UInt16 → Bool} {p : ModbusFrame × Option UInt16},
      found.find? (fun p => (p.1.slave == slave && p.1.regs.length == count) && keep p) = some p →
      p ∈ found ∧ p.1.slave = slave ∧ p.1.regs.length = count := by
    intro keep p hfind
    have hp := List.find?_some hfind
    simp only [Bool.and_eq_true, beq_iff_eq] at hp
    exact ⟨List.mem_of_find?_eq_some hfind, hp.1.1, hp.1.2⟩
  simp only [match_tiers] at h
  split at h
  case h_1 p hexact =>
    rw [Option.some.injEq] at h
    obtain ⟨hmem, hours⟩ := hours hexact
    exact h ▸ ⟨⟨p, hmem, rfl⟩, hours⟩
  case h_2 =>
    split at h
    case h_1 p horphan =>
      rw [Option.some.injEq] at h
      obtain ⟨hmem, hours⟩ := hours horphan
      exact h ▸ ⟨⟨p, hmem, rfl⟩, hours⟩
    case h_2 =>
      obtain ⟨p, hany, rfl⟩ := Option.map_eq_some_iff.mp h
      have hp := List.find?_some hany
      simp only [Bool.and_eq_true, beq_iff_eq] at hp
      exact ⟨⟨p, List.mem_of_find?_eq_some hany, rfl⟩, hp⟩

end

/-- A selected frame comes from our slave and has the registers asked for. -/
theorem select_response_spec {stream : Bytes} {slave : UInt8} {addr : UInt16} {count : Nat}
    {f : ModbusFrame} (h : select_response stream slave addr count = some f) :
    f.slave = slave ∧ f.regs.length = count :=
  (match_tiers_spec h).2

end inverter_bridge.serial_io
