import InverterBridge.SerialIo.Bus

open inverter_bridge.crc inverter_bridge.modbus

namespace inverter_bridge.serial_io

/-- Whether a frame is a request or a response, which the pairing looks at, and
not an exception, which it looks through. -/
def BusFrame.is_read : BusFrame → Bool
  | .response .. => true
  | .request .. => true
  | .exception .. => false

/-- The last request or response among the frames already seen. -/
def last_read (before : List BusFrame) : Option BusFrame := before.reverse.find? BusFrame.is_read

/-- The address a response of `slave` is paired with after `before`. -/
def context_of (slave : SlaveId) (before : List BusFrame) : Option UInt16 :=
  match last_read before with
  | some (.request requested addr _) => if requested = slave then some addr else none
  | _ => none

/-- The register frame a bus frame carries, if it is a response. -/
def BusFrame.modbus_frame : BusFrame → Option ModbusFrame
  | .response slave regs => some ⟨slave.val, FC_READ_HOLDING, regs.val⟩
  | _ => none

/-- The register frames of a frame sequence, in order. -/
def responses (frames : List BusFrame) : List ModbusFrame := frames.filterMap BusFrame.modbus_frame

/-- Every response of `frames` with the address it is paired with, when `before`
stands in front of them. -/
def paired (before : List BusFrame) : List BusFrame → List (ModbusFrame × Option UInt16)
  | [] => []
  | .response slave regs :: after =>
    (⟨slave.val, FC_READ_HOLDING, regs.val⟩, context_of slave before) ::
      paired (before ++ [.response slave regs]) after
  | frame :: after => paired (before ++ [frame]) after

theorem last_read_append (before : List BusFrame) (frame : BusFrame) :
    last_read (before ++ [frame]) = if frame.is_read then some frame else last_read before := by
  simp only [last_read, List.reverse_append, List.reverse_singleton, List.singleton_append,
    List.find?_cons]
  cases frame.is_read <;> rfl

/-- The pending request the scanner holds after `before`. -/
def pending (before : List BusFrame) : Option UInt16 × Option UInt8 :=
  match last_read before with
  | some (.request slave addr _) => (some addr, some slave.val)
  | _ => (none, none)

theorem context_of_eq_pending (slave : SlaveId) (before : List BusFrame) :
    context_of slave before =
      if (pending before).2 = some slave.val then (pending before).1 else none := by
  rw [context_of, pending]
  rcases last_read before with _ | (_ | _ | _) <;> simp [Subtype.ext_iff]

/-- On a clean bus the scanner returns the paired responses and no error. -/
theorem loop_encode_all (before frames : List BusFrame) (hclear : RequestsUnambiguous frames) :
    responses_with_context_loop (pending before).1 (pending before).2 (encode_all frames) =
      (paired before frames, 0) := by
  induction frames generalizing before with
  | nil => simp [encode_all, responses_with_context_loop, paired]
  | cons frame after ih =>
    have hnext := ih (before ++ [frame]) hclear.tail
    rw [encode_all_cons]
    cases frame with
    | response slave regs =>
      rw [pending, last_read_append] at hnext
      simp only [BusFrame.is_read, if_true] at hnext
      rw [loop_response, hnext, ← context_of_eq_pending]
      rfl
    | request slave addr count =>
      rw [pending, last_read_append] at hnext
      simp only [BusFrame.is_read, if_true] at hnext
      have hhead : validates_as_response
          ((BusFrame.request slave addr count).encode ++ encode_all after) = false :=
        hclear [] slave addr count after rfl
      rw [loop_request _ _ _ _ _ _ hhead, hnext]
      rfl
    | exception slave func excode hfunc =>
      rw [pending, last_read_append] at hnext
      simp only [BusFrame.is_read, Bool.false_eq_true, if_false] at hnext
      rw [loop_exception, pending, hnext]
      rfl

theorem responses_with_context_encode_all {frames : List BusFrame}
    (hclear : RequestsUnambiguous frames) :
    responses_with_context (encode_all frames) = (paired [] frames, 0) :=
  loop_encode_all [] frames hclear

theorem paired_map_fst (before frames : List BusFrame) :
    (paired before frames).map Prod.fst = responses frames := by
  induction frames generalizing before with
  | nil => rfl
  | cons frame after ih =>
    cases frame with
    | response slave regs => rw [paired, List.map_cons, ih]; rfl
    | request slave addr count => rw [paired, ih]; rfl; simp
    | exception slave func excode hfunc => rw [paired, ih]; rfl; simp

theorem paired_append (before first second : List BusFrame) :
    paired before (first ++ second) = paired before first ++ paired (before ++ first) second := by
  induction first generalizing before with
  | nil => simp [paired]
  | cons frame after ih =>
    cases frame <;> simp [paired, ih]

/-- A response is paired with an address exactly when the last request or
response in front of it asks its slave for that address. -/
theorem context_of_eq_some_iff (slave : SlaveId) (before : List BusFrame) (addr : UInt16) :
    context_of slave before = some addr ↔
      ∃ count, last_read before = some (.request slave addr count) := by
  rw [context_of]
  rcases last_read before with _ | (_ | _ | _) <;> simp

/-- `RequestsUnambiguous`, computed. -/
def requests_unambiguous : List BusFrame → Bool
  | [] => true
  | .request slave addr count :: after =>
    !validates_as_response (encode_all (.request slave addr count :: after)) &&
      requests_unambiguous after
  | _ :: after => requests_unambiguous after

theorem requests_unambiguous_iff (frames : List BusFrame) :
    requests_unambiguous frames = true ↔ RequestsUnambiguous frames := by
  constructor
  · intro h before slave addr count after heq
    subst heq
    induction before with
    | nil =>
      rw [List.nil_append, requests_unambiguous, Bool.and_eq_true, Bool.not_eq_true'] at h
      exact h.1
    | cons frame before ih => cases frame <;> simp_all [requests_unambiguous]
  · intro h
    induction frames with
    | nil => rfl
    | cons frame after ih =>
      cases frame with
      | request slave addr count =>
        rw [requests_unambiguous, h [] slave addr count after rfl, ih h.tail]
        rfl
      | response slave regs => exact ih h.tail
      | exception slave func excode hfunc => exact ih h.tail

instance (frames : List BusFrame) : Decidable (RequestsUnambiguous frames) :=
  decidable_of_iff _ (requests_unambiguous_iff frames)

/-- Exact recovery of a clean bus: the responses come back in order with exactly
their words, nothing is counted as corrupt, and each is paired with the address
of the last request or response in front of it, if that is a request to its
slave. -/
theorem responses_with_context_recovers (frames : List BusFrame)
    (hclear : RequestsUnambiguous frames) :
    (responses_with_context (encode_all frames)).1.map Prod.fst = responses frames ∧
    (responses_with_context (encode_all frames)).2 = 0 ∧
    ∀ before slave regs after, frames = before ++ .response slave regs :: after →
      ∃ ctx, (responses_with_context (encode_all frames)).1[(responses before).length]? =
          some (⟨slave.val, FC_READ_HOLDING, regs.val⟩, ctx) ∧
        ∀ addr, ctx = some addr ↔
          ∃ count, last_read before = some (.request slave addr count) := by
  rw [responses_with_context_encode_all hclear]
  refine ⟨paired_map_fst [] frames, rfl, ?_⟩
  intro before slave regs after heq
  refine ⟨context_of slave before, ?_, context_of_eq_some_iff slave before⟩
  have hlen : (responses before).length = (paired [] before).length := by
    rw [← paired_map_fst [], List.length_map]
  rw [heq, paired_append, hlen]
  simp [paired]

/-- One LCD exchange, an exception and a response of ours, recovered. -/
theorem responses_with_context_recovers_exchange :
    RequestsUnambiguous
      [.request ⟨1, by decide⟩ 0x0210 2, .exception ⟨1, by decide⟩ 0x83 2 (by decide),
        .response ⟨1, by decide⟩ ⟨[0x0042, 0xFFFF], by decide⟩] ∧
    (responses_with_context (encode_all
      [.request ⟨1, by decide⟩ 0x0210 2, .exception ⟨1, by decide⟩ 0x83 2 (by decide),
        .response ⟨1, by decide⟩ ⟨[0x0042, 0xFFFF], by decide⟩])).2 = 0 :=
  have hclear : RequestsUnambiguous
      [.request ⟨1, by decide⟩ 0x0210 2, .exception ⟨1, by decide⟩ 0x83 2 (by decide),
        .response ⟨1, by decide⟩ ⟨[0x0042, 0xFFFF], by decide⟩] := by decide +kernel
  ⟨hclear, (responses_with_context_recovers _ hclear).2.1⟩

end inverter_bridge.serial_io
