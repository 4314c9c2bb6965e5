import InverterBridge.Lib.GreedyScan
import InverterBridge.SerialIo.Stream

open GreedyScan
open inverter_bridge.crc inverter_bridge.modbus

namespace inverter_bridge.serial_io

/-- What the scanner takes a window for; a response carries its byte count. -/
inductive Kind where
  | response (bc : UInt8)
  | request
  | exception
  deriving DecidableEq

/-- How many bytes such a window has. -/
def Kind.size : Kind → Nat
  | .response bc => 5 + bc.toNat
  | .request => 8
  | .exception => 5

/-- `stream[p : p + n]`. -/
def slice (stream : Bytes) (p n : Nat) : Bytes := (stream.drop p).take n

/-- A window of `stream` at `p` with an admissible slave, of the given kind, with
a matching CRC. -/
structure Window (stream : Bytes) (p : Nat) (kind : Kind) : Prop where
  within : p + kind.size ≤ stream.length
  slave : ∃ slave, stream[p]? = some slave ∧ 1 ≤ slave ∧ slave ≤ 0xF7
  func : ∃ func, stream[p + 1]? = some func ∧
    match kind with
    | .response bc =>
      func = FC_READ_HOLDING ∧ stream[p + 2]? = some bc ∧ 2 ≤ bc ∧ bc ≤ 250 ∧ bc % 2 = 0
    | .request => func = FC_READ_HOLDING
    | .exception => func &&& EXCEPTION_BIT ≠ 0
  crc : crc_matches (slice stream p kind.size) = true

/-- `frame` is what the response window at `p` says: its slave, its function
code and the big-endian words between header and CRC. -/
structure Carries (stream : Bytes) (p : Nat) (bc : UInt8) (frame : ModbusFrame) : Prop where
  slave : stream[p]? = some frame.slave
  func : stream[p + 1]? = some frame.func
  length : frame.regs.length = bc.toNat / 2
  reg : ∀ k < bc.toNat / 2, ∃ hi lo reg,
    stream[p + 3 + 2 * k]? = some hi ∧ stream[p + 4 + 2 * k]? = some lo ∧
      frame.regs[k]? = some reg ∧ reg.toNat = 256 * hi.toNat + lo.toNat

/-- What the scanner recognizes at the head of `rest`. -/
def recognize (rest : Bytes) : Option Kind :=
  match rest with
  | slave :: func :: bc :: _ =>
    if rest.length ≤ 4 ∨ ¬ (1 ≤ slave ∧ slave ≤ 0xF7) then none
    else if complete_response func bc rest.length ∧ crc_matches (rest.take (5 + bc.toNat)) then
      some (.response bc)
    else if func = FC_READ_HOLDING ∧ valid_request rest then some .request
    else if func &&& EXCEPTION_BIT ≠ 0 ∧ crc_matches (rest.take 5) then some .exception
    else none
  | _ => none

theorem complete_response_iff {func bc : UInt8} {available : Nat} :
    complete_response func bc available = true ↔
      func = FC_READ_HOLDING ∧ (2 ≤ bc ∧ bc ≤ 250 ∧ bc % 2 = 0) ∧ 5 + bc.toNat ≤ available := by
  simp only [complete_response, Bool.and_eq_true, beq_iff_eq, decide_eq_true_eq, and_assoc]

theorem valid_request_iff {rest : Bytes} :
    valid_request rest = true ↔ 8 ≤ rest.length ∧ crc_matches (rest.take 8) = true := by
  simp only [valid_request, Bool.and_eq_true, decide_eq_true_eq]

theorem recognize_size_le {rest : Bytes} {kind : Kind} (h : recognize rest = some kind) :
    kind.size ≤ rest.length := by
  unfold recognize at h
  split at h
  · split_ifs at h with hnone hresponse hrequest hexception
    · cases h
      exact (complete_response_iff.mp hresponse.1).2.2
    · cases h
      exact (valid_request_iff.mp hrequest.2).1
    · cases h
      exact Nat.lt_of_not_le (not_or.mp hnone).1
  · cases h

/-- The scanner of both walks. -/
def frame_scanner : Recognizer UInt8 Kind where
  recognize := recognize
  size := Kind.size
  size_pos kind := by cases kind <;> simp only [Kind.size] <;> omega
  size_le := recognize_size_le

theorem frame_scanner_recognize (rest : Bytes) : frame_scanner.recognize rest = recognize rest :=
  rfl

/-- The windows the walk over `stream` takes, in order. -/
def accepted_windows (stream : Bytes) : List (Nat × Kind) := frame_scanner.accepted 0 stream

/-- The response windows among them, with their byte counts. -/
def response_windows (windows : List (Nat × Kind)) : List (Nat × UInt8) :=
  windows.filterMap fun window =>
    match window.2 with
    | .response bc => some (window.1, bc)
    | _ => none

section

variable {stream : Bytes} {p : Nat}

/-- The header bytes of `stream` at `p`. -/
theorem header_of_drop {slave func bc : UInt8} {tail : Bytes}
    (h : stream.drop p = slave :: func :: bc :: tail) :
    stream[p]? = some slave ∧ stream[p + 1]? = some func ∧ stream[p + 2]? = some bc ∧
      stream.length = p + (tail.length + 3) := by
  have hget (k : Nat) : stream[p + k]? = (slave :: func :: bc :: tail)[k]? := by
    rw [← h, List.getElem?_drop]
  have hlen := congrArg List.length h
  simp only [List.length_drop, List.length_cons] at hlen
  exact ⟨hget 0, hget 1, hget 2, by omega⟩

/-- The bytes from `p` on, with the header bytes that stand there. -/
theorem drop_of_header {slave func bc : UInt8} (hslave : stream[p]? = some slave)
    (hfunc : stream[p + 1]? = some func) (hbc : stream[p + 2]? = some bc) :
    stream.drop p = slave :: func :: bc :: stream.drop (p + 3) := by
  have hlen := (List.getElem?_eq_some_iff.mp hbc).1
  rw [List.drop_eq_getElem_cons (by omega), List.drop_eq_getElem_cons (by omega),
    List.drop_eq_getElem_cons (by omega)]
  rw [List.getElem?_eq_getElem (by omega), Option.some.injEq] at hslave hfunc hbc
  rw [hslave, hfunc, hbc]

/-- Where the scanner recognizes a window, one stands. -/
theorem window_of_recognize {kind : Kind} (h : recognize (stream.drop p) = some kind) :
    Window stream p kind := by
  unfold recognize at h
  split at h
  case h_2 => cases h
  case h_1 slave func bc tail hrest =>
    obtain ⟨hslave, hfunc, hbc, hlen⟩ := header_of_drop hrest
    have hdrop : (stream.drop p).length = stream.length - p := List.length_drop
    split_ifs at h with hnone hresponse hrequest hexception
    all_goals
      rw [not_or, not_not, Nat.not_le] at hnone
      cases h
    · obtain ⟨hfc, hrange, havailable⟩ := complete_response_iff.mp hresponse.1
      refine ⟨?_, ⟨slave, hslave, hnone.2⟩, ⟨func, hfunc, hfc, hbc, hrange⟩, ?_⟩
      · simp only [Kind.size]
        omega
      · exact hresponse.2
    · obtain ⟨havailable, hcrc⟩ := valid_request_iff.mp hrequest.2
      refine ⟨?_, ⟨slave, hslave, hnone.2⟩, ⟨func, hfunc, hrequest.1⟩, ?_⟩
      · simp only [Kind.size]
        omega
      · exact hcrc
    · refine ⟨?_, ⟨slave, hslave, hnone.2⟩, ⟨func, hfunc, hexception.1⟩, ?_⟩
      · simp only [Kind.size]
        omega
      · exact hexception.2

/-- The response interpretation comes first: a response window is recognized as
one, whatever else its bytes could be. -/
theorem recognize_of_response {bc : UInt8} (h : Window stream p (.response bc)) :
    recognize (stream.drop p) = some (.response bc) := by
  obtain ⟨hwithin, ⟨slave, hslave, hrange⟩, ⟨func, hfunc, hfc, hbc, hcount⟩, hcrc⟩ := h
  simp only [Kind.size] at hwithin hcrc
  have hdrop := drop_of_header hslave hfunc hbc
  have hlen : (stream.drop p).length = stream.length - p := List.length_drop
  have hcomplete : complete_response func bc (stream.drop p).length = true :=
    complete_response_iff.mpr ⟨hfc, hcount, by omega⟩
  rw [slice] at hcrc
  unfold recognize
  rw [hdrop] at hlen hcomplete hcrc ⊢
  simp only
  rw [if_neg (by rw [not_or, not_not]; exact ⟨by omega, hrange⟩), if_pos ⟨hcomplete, hcrc⟩]

end

/-- The response the head of `rest` says, when it is one with byte count `bc`. -/
def frame_at_head (rest : Bytes) (bc : UInt8) : ModbusFrame :=
  ⟨rest.getD 0 0, rest.getD 1 0, words ((rest.drop 3).take bc.toNat)⟩

theorem parse_frame_stream_loop_short {rest : Bytes} (h : rest.length ≤ 4) :
    parse_frame_stream_loop rest = ([], 0) := by
  unfold parse_frame_stream_loop
  split
  · rw [if_pos h]
  · rfl

theorem recognize_short {rest : Bytes} (h : rest.length ≤ 4) : recognize rest = none := by
  unfold recognize
  split
  · rw [if_pos (.inl h)]
  · rfl

/-- One step of the walk: what it emits follows from what it recognizes. -/
theorem parse_frame_stream_loop_step (rest : Bytes) :
    (parse_frame_stream_loop rest).1 =
      match recognize rest with
      | some (.response bc) =>
        frame_at_head rest bc :: (parse_frame_stream_loop (rest.drop (5 + bc.toNat))).1
      | some kind => (parse_frame_stream_loop (rest.drop kind.size)).1
      | none => (parse_frame_stream_loop rest.tail).1 := by
  by_cases hshort : rest.length ≤ 4
  · have htail : rest.tail.length ≤ 4 := by
      rw [List.length_tail]
      omega
    rw [recognize_short hshort, parse_frame_stream_loop_short hshort]
    exact (congrArg Prod.fst (parse_frame_stream_loop_short htail)).symm
  · match rest with
    | slave :: func :: bc :: tail =>
      rw [parse_frame_stream_loop, recognize]
      by_cases hslave : 1 ≤ slave ∧ slave ≤ 0xF7
      · rw [if_neg hshort, if_neg (not_not.mpr hslave),
          if_neg (not_or.mpr ⟨hshort, not_not.mpr hslave⟩)]
        dsimp only
        by_cases hframe : complete_response func bc (slave :: func :: bc :: tail).length ∧
            crc_matches ((slave :: func :: bc :: tail).take (5 + bc.toNat))
        · rw [if_pos hframe, if_pos hframe]
          rfl
        · rw [if_neg hframe, if_neg hframe]
          split_ifs <;> rfl
      · rw [if_neg hshort, if_pos hslave, if_pos (.inr hslave)]
        rfl
    | [] | [_] | [_, _] => exact absurd (by simp) hshort

/-- The frame read at the head of a response window carries what the window says. -/
theorem carries_of_window {stream : Bytes} {p : Nat} {bc : UInt8}
    (h : Window stream p (.response bc)) :
    Carries stream p bc (frame_at_head (stream.drop p) bc) := by
  obtain ⟨hwithin, ⟨slave, hslave, -⟩, ⟨func, hfunc, -, -, -, -, heven⟩, -⟩ := h
  simp only [Kind.size] at hwithin
  have hbody : (((stream.drop p).drop 3).take bc.toNat).length = 2 * (bc.toNat / 2) := by
    have hmod : bc.toNat % 2 = 0 := congrArg UInt8.toNat heven
    simp only [List.length_take, List.length_drop]
    omega
  have hbyte {j : Nat} (hj : j < bc.toNat) :
      (((stream.drop p).drop 3).take bc.toNat)[j]? = stream[p + 3 + j]? := by
    rw [List.getElem?_take_of_lt hj, List.getElem?_drop, List.getElem?_drop, Nat.add_assoc]
  refine ⟨?_, ?_, words_length hbody, fun k hk => ?_⟩
  · simp [frame_at_head, hslave]
  · simp [frame_at_head, hfunc]
  · obtain ⟨hi, lo, reg, hhi, hlo, hreg, hvalue⟩ := words_getElem? hbody hk
    rw [hbyte (by omega)] at hhi hlo
    rw [show p + 3 + (2 * k + 1) = p + 4 + 2 * k by omega] at hlo
    exact ⟨hi, lo, reg, hhi, hlo, hreg, hvalue⟩

/-- The frames emitted are read at the heads of the response windows taken, in their order. -/
theorem parse_frame_stream_loop_heads {stream rest : Bytes} {pos : Nat}
    (hrest : stream.drop pos = rest) :
    List.Forall₂ (fun window frame => Window stream window.1 (.response window.2) ∧
        frame = frame_at_head (stream.drop window.1) window.2)
      (response_windows (frame_scanner.accepted pos rest)) (parse_frame_stream_loop rest).1 := by
  induction rest using Recognizer.scan_induction (R := frame_scanner) generalizing pos with
  | nil =>
    rw [Recognizer.accepted, Recognizer.visits_nil, @parse_frame_stream_loop_short [] (by simp)]
    exact .nil
  | token rest kind hkind ih =>
    have hnext := @ih (pos + kind.size) (by rw [← List.drop_drop, hrest]; rfl)
    rw [Recognizer.accepted_of_some hkind, parse_frame_stream_loop_step,
      show recognize rest = some kind from hkind]
    cases kind with
    | response bc =>
      subst hrest
      exact .cons ⟨window_of_recognize hkind, rfl⟩ hnext
    | request => exact hnext
    | exception => exact hnext
  | skip a tail hnone ih =>
    rw [Recognizer.accepted_of_none hnone, parse_frame_stream_loop_step,
      show recognize (a :: tail) = none from hnone]
    exact ih (by rw [← List.drop_drop, hrest]; rfl)

/-- The frames of `parse_frame_stream` are, in order, what the response windows
of one walk say: the walk takes valid windows that do not overlap, and misses a
valid response window only when it starts inside a window taken before. -/
theorem parse_frame_stream_windows (stream : Bytes) :
    (∀ window ∈ accepted_windows stream, Window stream window.1 window.2) ∧
      (accepted_windows stream).Pairwise (fun a b => a.1 + a.2.size ≤ b.1) ∧
      List.Forall₂ (fun window frame => Carries stream window.1 window.2 frame)
        (response_windows (accepted_windows stream)) (parse_frame_stream stream).1 ∧
      ∀ p bc, Window stream p (.response bc) →
        (p, .response bc) ∈ accepted_windows stream ∨
          ∃ window ∈ accepted_windows stream,
            window.1 < p ∧ p < window.1 + window.2.size := by
  refine ⟨fun window hmem => ?_, Recognizer.accepted_pairwise (R := frame_scanner), ?_,
    fun p bc hwindow => ?_⟩
  · exact window_of_recognize (Recognizer.recognize_of_mem_accepted hmem)
  · refine List.Forall₂.imp ?_ (parse_frame_stream_loop_heads rfl)
    rintro window frame ⟨hwindow, rfl⟩
    exact carries_of_window hwindow
  · have hcases := Recognizer.accepted_or_covered (R := frame_scanner)
      (recognize_of_response hwindow)
    obtain htaken | ⟨q, kind, hmem, hcover⟩ := hcases
    · exact .inl htaken
    · exact .inr ⟨(q, kind), hmem, hcover⟩

end inverter_bridge.serial_io
