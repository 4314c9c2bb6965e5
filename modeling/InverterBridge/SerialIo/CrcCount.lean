import InverterBridge.SerialIo.Chunks
import InverterBridge.SerialIo.Received

/-! What is counted as a corrupt response during a query. -/

open Python GreedyScan GrowingBuffer
open inverter_bridge.crc inverter_bridge.modbus

namespace inverter_bridge.serial_io

/-- The scanner calls `on_crc_error` when it stops at the head of these bytes. -/
def calls_on_crc_error : Bytes → Bool
  | slave :: func :: bc :: tail =>
    let rest := slave :: func :: bc :: tail
    4 < rest.length && 1 ≤ slave && slave ≤ 0xF7 && complete_response func bc rest.length &&
      !crc_matches (rest.take (5 + bc.toNat)) && !valid_request rest
  | _ => false

/-- What is left of the bytes when the scanner goes on. -/
def next_rest (rest : Bytes) : Bytes :=
  match recognize rest with
  | some kind => rest.drop kind.size
  | none => rest.tail

theorem calls_on_crc_error_cons {slave func bc : UInt8} {tail : Bytes} :
    calls_on_crc_error (slave :: func :: bc :: tail) = true ↔
      (4 < (slave :: func :: bc :: tail).length ∧ 1 ≤ slave ∧ slave ≤ 0xF7) ∧
        complete_response func bc (slave :: func :: bc :: tail).length = true ∧
        ¬ crc_matches ((slave :: func :: bc :: tail).take (5 + bc.toNat)) = true ∧
        ¬ valid_request (slave :: func :: bc :: tail) = true := by
  simp only [calls_on_crc_error, Bool.and_eq_true, decide_eq_true_eq, Bool.not_eq_true',
    Bool.not_eq_true, and_assoc]

theorem calls_on_crc_error_short {rest : Bytes} (h : rest.length ≤ 4) :
    ¬ calls_on_crc_error rest = true := by
  match rest with
  | slave :: func :: bc :: tail =>
    intro hcalls
    have hlong := (calls_on_crc_error_cons.mp hcalls).1.1
    omega
  | [] | [_] | [_, _] => nofun

/-- One step of the walk: what it counts. -/
theorem parse_frame_stream_loop_errors (rest : Bytes) :
    (parse_frame_stream_loop rest).2 =
      (parse_frame_stream_loop (next_rest rest)).2 + if calls_on_crc_error rest then 1 else 0 := by
  by_cases hshort : rest.length ≤ 4
  · have htail : rest.tail.length ≤ 4 := by
      rw [List.length_tail]
      omega
    rw [next_rest, recognize_short hshort, parse_frame_stream_loop_short hshort,
      if_neg (calls_on_crc_error_short hshort)]
    exact (congrArg Prod.snd (parse_frame_stream_loop_short htail)).symm
  · match rest with
    | slave :: func :: bc :: tail =>
      rw [parse_frame_stream_loop, next_rest, recognize]
      by_cases hslave : 1 ≤ slave ∧ slave ≤ 0xF7
      · rw [if_neg hshort, if_neg (not_not.mpr hslave),
          if_neg (not_or.mpr ⟨hshort, not_not.mpr hslave⟩)]
        dsimp only
        by_cases hframe : complete_response func bc (slave :: func :: bc :: tail).length ∧
            crc_matches ((slave :: func :: bc :: tail).take (5 + bc.toNat))
        · have hquiet : ¬ calls_on_crc_error (slave :: func :: bc :: tail) = true :=
            fun hcalls => (calls_on_crc_error_cons.mp hcalls).2.2.1 hframe.2
          rw [if_pos hframe, if_pos hframe, if_neg hquiet]
          rfl
        · have hcalls : (complete_response func bc (slave :: func :: bc :: tail).length ∧
              ¬ valid_request (slave :: func :: bc :: tail)) ↔
                calls_on_crc_error (slave :: func :: bc :: tail) = true := by
            rw [calls_on_crc_error_cons]
            exact ⟨fun h => ⟨⟨Nat.not_le.mp hshort, hslave⟩, h.1, fun hcrc => hframe ⟨h.1, hcrc⟩, h.2⟩,
              fun h => ⟨h.2.1, h.2.2.2⟩⟩
          rw [if_neg hframe, if_neg hframe]
          simp only [hcalls]
          split_ifs <;> rfl
      · have hquiet : ¬ calls_on_crc_error (slave :: func :: bc :: tail) = true :=
          fun hcalls => hslave (calls_on_crc_error_cons.mp hcalls).1.2
        rw [if_neg hshort, if_pos hslave, if_pos (.inr hslave), if_neg hquiet]
        rfl
    | [] | [_] | [_, _] => exact absurd (by simp) hshort

/-- The scan counts the places it stops at and calls `on_crc_error`. -/
theorem parse_frame_stream_loop_countP {stream rest : Bytes} {pos : Nat}
    (hrest : stream.drop pos = rest) :
    (parse_frame_stream_loop rest).2 = (frame_scanner.visits pos rest).countP
      fun visit => calls_on_crc_error (stream.drop visit.1) := by
  induction rest using Recognizer.scan_induction (R := frame_scanner) generalizing pos with
  | nil =>
    rw [Recognizer.visits_nil, @parse_frame_stream_loop_short [] (by simp)]
    rfl
  | token rest kind hkind ih =>
    have hnext := @ih (pos + kind.size) (by rw [← List.drop_drop, hrest]; rfl)
    rw [Recognizer.visits_of_some hkind, parse_frame_stream_loop_errors, next_rest,
      show recognize rest = some kind from hkind, List.countP_cons, hrest]
    exact congrArg (· + _) hnext
  | skip a tail hnone ih =>
    have hnext := @ih (pos + 1) (by rw [← List.drop_drop, hrest]; rfl)
    rw [Recognizer.visits_of_none hnone, parse_frame_stream_loop_errors, next_rest,
      show recognize (a :: tail) = none from hnone, List.countP_cons, hrest]
    exact congrArg (· + _) hnext

/-! ## Frames that have not arrived to their end -/

/-- The walk over `buf` stops at `p`. -/
def Visited (buf : Bytes) (p : Nat) : Prop := ∃ found, (p, found) ∈ frame_scanner.visits 0 buf

/-- The bytes are the beginning of a frame whose end is missing. -/
def NotYetComplete (rest : Bytes) : Prop :=
  ∃ frame : BusFrame, rest <+: frame.encode ∧ rest ≠ frame.encode

/-- The walk stops where only a `Cut` frame is left of `buf`, and at its head or inside of it
calls `on_crc_error`. -/
def CountsInside (Cut : Bytes → Prop) (buf : Bytes) : Prop :=
  ∃ p q, p ≤ q ∧ Visited buf p ∧ Cut (buf.drop p) ∧ Visited buf q ∧
    calls_on_crc_error (buf.drop q) = true

/-- There are fewer than `n` bytes, and those behind the first `n - 2` are the first ones of
their CRC. -/
def cut_at (n : Nat) (rest : Bytes) : Bool :=
  rest.length < n && (rest.drop (n - 2)).isPrefixOf (crc16 (rest.take (n - 2)))

/-- The header is that of a request or of a response, with too few bytes behind it. -/
def cut_off : Bytes → Bool
  | slave :: func :: bc :: tail =>
    let rest := slave :: func :: bc :: tail
    1 ≤ slave && slave ≤ 0xF7 && func == FC_READ_HOLDING &&
      (cut_at 8 rest || 2 ≤ bc && bc ≤ 250 && bc % 2 == 0 && cut_at (5 + bc.toNat) rest)
  | _ => false

theorem cut_off_cons {slave func bc : UInt8} {tail : Bytes} :
    cut_off (slave :: func :: bc :: tail) = true ↔
      (1 ≤ slave ∧ slave ≤ 0xF7) ∧ func = FC_READ_HOLDING ∧
        (cut_at 8 (slave :: func :: bc :: tail) = true ∨ (2 ≤ bc ∧ bc ≤ 250 ∧ bc % 2 = 0) ∧
          cut_at (5 + bc.toNat) (slave :: func :: bc :: tail) = true) := by
  simp only [cut_off, Bool.and_eq_true, Bool.or_eq_true, decide_eq_true_eq, beq_iff_eq, and_assoc]

/-- The beginning of a body with its CRC is cut off at their length. -/
theorem cut_at_of_prefix {body rest : Bytes} (hpre : rest <+: body ++ crc16 body)
    (hne : rest ≠ body ++ crc16 body) : cut_at (body.length + 2) rest = true := by
  have hlen : rest.length < body.length + 2 := by
    have hle := hpre.length_le
    have hfull : rest.length ≠ (body ++ crc16 body).length := fun h => hne (hpre.eq_of_length h)
    rw [List.length_append, crc16_length] at hle hfull
    omega
  rw [cut_at, Bool.and_eq_true, decide_eq_true_eq, List.isPrefixOf_iff_prefix, Nat.add_sub_cancel]
  refine ⟨hlen, ?_⟩
  obtain hshort | hlong := Nat.le_total rest.length body.length
  · rw [List.drop_eq_nil_of_le hshort]
    exact List.nil_prefix
  · obtain ⟨tail, heq⟩ := hpre
    have htake : rest.take body.length = body := by
      have hkept : (rest ++ tail).take body.length = rest.take body.length :=
        List.take_append_of_le_length hlong
      rw [← hkept, heq, List.take_left]
    have hdrop : rest.drop body.length ++ tail = crc16 body := by
      rw [← List.drop_append_of_le_length hlong, heq, List.drop_left]
    rw [htake]
    exact ⟨tail, hdrop⟩

/-- The first `n` bytes, with zeros for those that are missing. -/
def padded (n : Nat) (rest : Bytes) : Bytes := rest.take n ++ List.replicate (n - rest.length) 0

theorem padded_length (n : Nat) (rest : Bytes) : (padded n rest).length = n := by
  rw [padded, List.length_append, List.length_take, List.length_replicate]
  omega

/-- What is cut off is the beginning of a body with its CRC. -/
theorem prefix_of_cut_at {n : Nat} {rest : Bytes} (h : cut_at (n + 2) rest = true) :
    rest <+: padded n rest ++ crc16 (padded n rest) ∧
      rest ≠ padded n rest ++ crc16 (padded n rest) := by
  rw [cut_at, Bool.and_eq_true, decide_eq_true_eq, List.isPrefixOf_iff_prefix,
    Nat.add_sub_cancel] at h
  constructor
  · obtain hshort | hlong := Nat.le_total rest.length n
    · rw [padded, List.take_of_length_le hshort, List.append_assoc]
      exact List.prefix_append _ _
    · rw [padded, Nat.sub_eq_zero_of_le hlong, List.replicate_zero, List.append_nil]
      obtain ⟨tail, heq⟩ := h.2
      refine ⟨tail, ?_⟩
      rw [← heq, ← List.append_assoc, List.take_append_drop]
  · intro heq
    have hlen := congrArg List.length heq
    rw [List.length_append, padded_length, crc16_length] at hlen
    omega

/-- Six bytes with the header of a read are the body of a request. -/
theorem exists_request {slave : SlaveId} {body : Bytes} (hlen : body.length = 6)
    (hhead : body.take 2 = [slave.val, FC_READ_HOLDING]) :
    ∃ addr count, (BusFrame.request slave addr count).body = body := by
  match body with
  | [s, f, a, b, c, d] =>
    simp only [List.take_succ_cons, List.take_zero, List.cons.injEq, and_true] at hhead
    obtain ⟨rfl, rfl⟩ := hhead
    obtain ⟨ha, hb⟩ := split_join_bytes a b
    obtain ⟨hc, hd⟩ := split_join_bytes c d
    refine ⟨(a.toUInt16 <<< 8) ||| b.toUInt16, (c.toUInt16 <<< 8) ||| d.toUInt16, ?_⟩
    rw [BusFrame.body, request_header, ha, hb, hc, hd]

/-- Seven bytes or more begin a frame whose end is missing exactly when they are cut off. -/
theorem notYetComplete_iff {rest : Bytes} (hlen : 7 ≤ rest.length) :
    NotYetComplete rest ↔ cut_off rest = true := by
  match rest with
  | slave :: func :: bc :: tail =>
    rw [cut_off_cons]
    constructor
    · rintro ⟨frame, hpre, hne⟩
      have hcut := cut_at_of_prefix hpre hne
      cases frame with
      | response slave' regs =>
        have hbody : (BusFrame.response slave' regs).body.length + 2 =
            5 + (2 * regs.val.length).toUInt8.toNat := by
          have hencode := encode_response_length slave' regs
          rwa [BusFrame.encode, List.length_append, crc16_length] at hencode
        have hheader := complete_response_of_registers regs _ (Nat.le_refl _)
        rw [hbody] at hcut
        obtain ⟨rest, heq⟩ := hpre
        simp only [BusFrame.encode, BusFrame.body, List.cons_append, List.cons.injEq] at heq
        obtain ⟨rfl, rfl, rfl, -⟩ := heq
        exact ⟨slave'.property, rfl, .inr ⟨(complete_response_iff.mp hheader).2.1, hcut⟩⟩
      | request slave' addr count =>
        obtain ⟨rest, heq⟩ := hpre
        simp only [BusFrame.encode, BusFrame.body, request_header, List.cons_append,
          List.cons.injEq] at heq
        obtain ⟨rfl, rfl, -⟩ := heq
        exact ⟨slave'.property, rfl, .inl hcut⟩
      | exception slave' func' excode hfunc =>
        have hle := hpre.length_le
        rw [encode_exception_length] at hle
        omega
    · rintro ⟨hslave, rfl, hcut | ⟨hbc, hcut⟩⟩
      · obtain ⟨hpre, hne⟩ := prefix_of_cut_at (n := 6) hcut
        obtain ⟨addr, count, hbody⟩ := @exists_request ⟨slave, hslave⟩
          (padded 6 (slave :: FC_READ_HOLDING :: bc :: tail)) (padded_length 6 _) rfl
        refine ⟨.request ⟨slave, hslave⟩ addr count, ?_⟩
        rw [BusFrame.encode, hbody]
        exact ⟨hpre, hne⟩
      · rw [show 5 + bc.toNat = 3 + bc.toNat + 2 by omega] at hcut
        obtain ⟨hpre, hne⟩ := prefix_of_cut_at hcut
        obtain ⟨regs, -, hbody⟩ := exists_registers hbc (padded_length bc.toNat tail)
        have hpadded : padded (3 + bc.toNat) (slave :: FC_READ_HOLDING :: bc :: tail) =
            (BusFrame.response ⟨slave, hslave⟩ regs).body := by
          rw [hbody, padded, padded, show 3 + bc.toNat = bc.toNat + 1 + 1 + 1 by omega]
          simp only [List.take_succ_cons, List.length_cons, List.cons_append,
            Nat.add_sub_add_right]
        rw [hpadded] at hpre hne
        exact ⟨.response ⟨slave, hslave⟩ regs, hpre, hne⟩

/-! ## During a query -/

/-- Who calls nothing counts nothing inside of a frame. -/
theorem not_countsInside_of_quiet {Cut : Bytes → Prop} {buf : Bytes}
    (hquiet : (responses_with_context buf).2 = 0) : ¬ CountsInside Cut buf := by
  rintro ⟨p, q, -, -, -, ⟨found, hvisit⟩, hcalls⟩
  rw [responses_with_context, (responses_with_context_loop_frames none none buf).2,
    @parse_frame_stream_loop_countP buf buf 0 rfl, List.countP_eq_zero] at hquiet
  exact hquiet _ hvisit hcalls

/-- Where the scanner calls, seven bytes are left. -/
theorem length_of_calls {rest : Bytes} (h : calls_on_crc_error rest = true) : 7 ≤ rest.length := by
  match rest with
  | slave :: func :: bc :: tail =>
    obtain ⟨-, hcomplete, -, -⟩ := calls_on_crc_error_cons.mp h
    obtain ⟨-, ⟨hlo, -, -⟩, havailable⟩ := complete_response_iff.mp hcomplete
    have hmin : 2 ≤ bc.toNat := hlo
    omega

/-- What is counted inside of a frame whose end is missing is counted inside of one that is cut
off. -/
theorem countsInside_iff {buf : Bytes} :
    CountsInside NotYetComplete buf ↔ CountsInside (fun rest => cut_off rest = true) buf := by
  have hcut : ∀ {p q : Nat}, p ≤ q → calls_on_crc_error (buf.drop q) = true →
      (NotYetComplete (buf.drop p) ↔ cut_off (buf.drop p) = true) := by
    intro p q hpq hcalls
    have hlen := length_of_calls hcalls
    rw [List.length_drop] at hlen
    exact notYetComplete_iff (by rw [List.length_drop]; omega)
  constructor
  · rintro ⟨p, q, hpq, hp, hmissing, hq, hcalls⟩
    exact ⟨p, q, hpq, hp, (hcut hpq hcalls).mp hmissing, hq, hcalls⟩
  · rintro ⟨p, q, hpq, hp, hmissing, hq, hcalls⟩
    exact ⟨p, q, hpq, hp, (hcut hpq hcalls).mpr hmissing, hq, hcalls⟩

/-- A response with one corrupted data byte, then one more byte. -/
def corrupted_then_noise : List Bytes :=
  [[0x01, 0x03, 0x02, 0xFF, 0x42] ++ crc16 [0x01, 0x03, 0x02, 0x00, 0x42], [0x00]]

section

variable (slave : UInt8) (addr : UInt16) (count : Nat) (received : Bytes)

/-- The buffer of a query is empty or one of its looks. -/
theorem query_buf {chunks : List Bytes} (hcount : 1 ≤ count ∧ count ≤ 125)
    (hne : ∀ chunk ∈ chunks, chunk ≠ []) :
    (query slave addr count chunks).buf = [] ∨
      (query slave addr count chunks).buf ≠ [] ∧
        (query slave addr count chunks).buf <+: chunks.flatten := by
  rw [query_eq hcount hne]
  dsimp only
  rw [final, List.getLastD_eq_getLast?]
  cases hlast : (looks (answer slave addr count) [] chunks).getLast? with
  | none => exact .inl rfl
  | some look =>
    obtain ⟨hpre, hlen⟩ := look_isPrefix hne (List.mem_of_getLast? hlast)
    exact .inr ⟨List.length_pos_iff.mp hlen, hpre⟩

/-- A query reports what one scan of the bytes it read reports, and at no time anything inside
of a request or response whose end is missing, however the bytes are cut into reads, exactly
when no scan of an unanswered proper prefix reports anything, and none of any prefix at or
behind the head of a frame that is cut off. -/
theorem query_crc_count_iff (hcount : 1 ≤ count ∧ count ≤ 125) :
    (∀ chunks, Chunking received chunks →
      (query slave addr count chunks).crc_errors =
          (responses_with_context (query slave addr count chunks).buf).2 ∧
        ∀ k, ¬ CountsInside NotYetComplete (query slave addr count (chunks.take k)).buf) ↔
    ∀ first, first ≠ [] → first <+: received →
      (first ≠ received → answer slave addr count first = none →
        (responses_with_context first).2 = 0) ∧
      ¬ CountsInside (fun rest => cut_off rest = true) first := by
  have hnil : (responses_with_context []).2 = 0 := by
    rw [responses_with_context, responses_with_context_loop]
    simp
  have hcost := @total_eq_cost_final_iff _ _ received (answer slave addr count)
    (fun b => (responses_with_context b).2) hnil
  constructor
  · intro hclaim first hne hpre
    refine ⟨fun hproper hopen => ?_, ?_⟩
    · refine hcost.mp (fun chunks hchunking => ?_) first hne hpre hproper hopen
      have hsame := (hclaim chunks hchunking).1
      rwa [query_eq hcount hchunking.nonempty] at hsame
    · obtain ⟨rest, hchunking, -⟩ := exists_chunking_of_isPrefix hne hpre
      have hbuf : (query slave addr count [first]).buf = first := by
        rw [query_eq hcount (by simpa using hne)]
        simp [final, looks]
      rw [← countsInside_iff, ← hbuf]
      exact (hclaim _ hchunking).2 1
  · intro hprefixes chunks hchunking
    refine ⟨?_, fun k => ?_⟩
    · rw [query_eq hcount hchunking.nonempty]
      exact hcost.mpr (fun first hne hpre => (hprefixes first hne hpre).1) chunks hchunking
    · have hne : ∀ chunk ∈ chunks.take k, chunk ≠ [] :=
        fun chunk hmem => hchunking.nonempty chunk (List.mem_of_mem_take hmem)
      obtain hempty | ⟨hsome, hpre⟩ := query_buf slave addr count hcount hne
      · rw [hempty]
        exact not_countsInside_of_quiet hnil
      · have hflat : (chunks.take k).flatten <+: received := by
          rw [← hchunking.flatten_eq]
          exact ⟨(chunks.drop k).flatten, by rw [← List.flatten_append, List.take_append_drop]⟩
        rw [countsInside_iff]
        exact (hprefixes _ hsome (hpre.trans hflat)).2

theorem query_crc_count_iff_own_response :
    (query 1 0x0100 1 own_response_bytes).crc_errors =
        (responses_with_context (query 1 0x0100 1 own_response_bytes).buf).2 ∧
      ∀ k, ¬ CountsInside NotYetComplete (query 1 0x0100 1 (own_response_bytes.take k)).buf := by
  have hprefixes : ∀ first ∈ own_response.inits, (responses_with_context first).2 = 0 := by
    decide +kernel
  refine (query_crc_count_iff 1 0x0100 1 own_response (by decide)).mpr (fun first _ hpre => ?_)
    own_response_bytes chunking_own_response_bytes
  have hquiet := hprefixes first ((List.mem_inits _ _).mpr hpre)
  exact ⟨fun _ _ => hquiet, not_countsInside_of_quiet hquiet⟩

/-- One corrupted response is counted again when the next byte arrives. -/
theorem query_counts_corruption_twice :
    ¬ ∀ chunks, Chunking corrupted_then_noise.flatten chunks →
      (query 1 0x0100 1 chunks).crc_errors =
        (responses_with_context (query 1 0x0100 1 chunks).buf).2 := by
  intro honce
  have hchunking : Chunking corrupted_then_noise.flatten corrupted_then_noise :=
    ⟨by decide +kernel, rfl⟩
  have htwice : (query 1 0x0100 1 corrupted_then_noise).crc_errors ≠
      (responses_with_context (query 1 0x0100 1 corrupted_then_noise).buf).2 := by decide +kernel
  exact htwice (honce _ hchunking)

end

/-- Seven of the eight bytes of a request are counted. -/
example : (query 1 0x0100 1 [[0x01, 0x03, 0x02, 0x10, 0x00, 0x13, 0x04]]).crc_errors = 1 ∧
    cut_off [0x01, 0x03, 0x02, 0x10, 0x00, 0x13, 0x04] = true := by
  decide +kernel

end inverter_bridge.serial_io
