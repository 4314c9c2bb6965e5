import InverterBridge.SerialIo.Windows

open GreedyScan
open inverter_bridge.crc inverter_bridge.modbus

namespace inverter_bridge.serial_io

section recognition

variable {stream s t : Bytes} {p : Nat} {kind : Kind}

theorem Kind.size_gt (kind : Kind) : 4 < kind.size := by
  cases kind <;> simp only [Kind.size] <;> omega

/-- A window stays one when more bytes arrive behind it. -/
theorem Window.append (h : Window s p kind) (t : Bytes) : Window (s ++ t) p kind := by
  obtain ⟨hwithin, ⟨slave, hslave, hrange⟩, ⟨func, hfunc, hkind⟩, hcrc⟩ := h
  have hsize := kind.size_gt
  refine ⟨?_, ⟨slave, ?_, hrange⟩, ⟨func, ?_, ?_⟩, ?_⟩
  · rw [List.length_append]
    omega
  · rw [List.getElem?_append_left (by omega)]
    exact hslave
  · rw [List.getElem?_append_left (by omega)]
    exact hfunc
  · cases kind with
    | response bc => rwa [List.getElem?_append_left (by omega)]
    | request => exact hkind
    | exception => exact hkind
  · rw [slice, List.drop_append_of_le_length (by omega),
      List.take_append_of_le_length (by rw [List.length_drop]; omega)]
    exact hcrc

/-- A window that ends within `s` does not need what follows. -/
theorem Window.of_append (h : Window (s ++ t) p kind) (hfits : p + kind.size ≤ s.length) :
    Window s p kind := by
  obtain ⟨hwithin, ⟨slave, hslave, hrange⟩, ⟨func, hfunc, hkind⟩, hcrc⟩ := h
  have hsize := kind.size_gt
  rw [List.getElem?_append_left (by omega)] at hslave hfunc
  rw [slice, List.drop_append_of_le_length (by omega),
    List.take_append_of_le_length (by rw [List.length_drop]; omega)] at hcrc
  refine ⟨hfits, ⟨slave, hslave, hrange⟩, ⟨func, hfunc, ?_⟩, hcrc⟩
  cases kind with
  | response bc => rwa [List.getElem?_append_left (by omega)] at hkind
  | request => exact hkind
  | exception => exact hkind

/-- The bytes a window begins with. -/
theorem Window.head (h : Window stream p kind) :
    ∃ slave func bc tail, stream.drop p = slave :: func :: bc :: tail ∧
      stream[p + 1]? = some func ∧
      ¬ ((slave :: func :: bc :: tail).length ≤ 4 ∨ ¬ (1 ≤ slave ∧ slave ≤ 0xF7)) := by
  obtain ⟨hwithin, ⟨slave, hslave, hrange⟩, ⟨func, hfunc, -⟩, -⟩ := h
  have hsize := kind.size_gt
  have hdrop := drop_of_header hslave hfunc (List.getElem?_eq_getElem (by omega))
  have hlen : (stream.drop p).length = stream.length - p := List.length_drop
  refine ⟨slave, func, _, _, hdrop, hfunc, ?_⟩
  rw [← hdrop, not_or, not_not]
  exact ⟨by omega, hrange⟩

/-- Where no response stands a request is recognized. -/
theorem recognize_of_request (h : Window stream p .request)
    (hno : ∀ bc, ¬ Window stream p (.response bc)) :
    recognize (stream.drop p) = some .request := by
  obtain ⟨slave, func, bc, tail, hdrop, hhead, hvalid⟩ := h.head
  obtain ⟨hwithin, -, ⟨func', hfunc, hread⟩, hcrc⟩ := h
  obtain rfl : func = func' := Option.some.inj (hhead.symm.trans hfunc)
  have hrequest : valid_request (stream.drop p) = true := by
    refine valid_request_iff.mpr ⟨?_, hcrc⟩
    rw [List.length_drop]
    simp only [Kind.size] at hwithin
    omega
  have hresponse : recognize (stream.drop p) ≠ some (.response bc) :=
    fun hfound => hno bc (window_of_recognize hfound)
  unfold recognize at hresponse ⊢
  rw [hdrop] at hrequest hresponse ⊢
  dsimp only at hresponse ⊢
  rw [if_neg hvalid] at hresponse ⊢
  rw [if_neg fun hframe => hresponse (if_pos hframe), if_pos ⟨hread, hrequest⟩]

theorem recognize_of_exception (h : Window stream p .exception) :
    recognize (stream.drop p) = some .exception := by
  obtain ⟨slave, func, bc, tail, hdrop, hhead, hvalid⟩ := h.head
  obtain ⟨hwithin, -, ⟨func', hfunc, hbit⟩, hcrc⟩ := h
  obtain rfl : func = func' := Option.some.inj (hhead.symm.trans hfunc)
  have hread : func ≠ FC_READ_HOLDING := by
    rintro rfl
    exact hbit (by decide)
  rw [slice, hdrop] at hcrc
  unfold recognize
  rw [hdrop]
  dsimp only
  rw [if_neg hvalid, if_neg fun hframe => hread (complete_response_iff.mp hframe.1).1,
    if_neg fun hrequest => hread hrequest.1, if_pos ⟨hbit, hcrc⟩]

/-- Something is recognized wherever a window stands. -/
theorem recognize_ne_none (h : Window stream p kind) : recognize (stream.drop p) ≠ none := by
  by_cases hresponse : ∃ bc, Window stream p (.response bc)
  · obtain ⟨bc, hresponse⟩ := hresponse
    rw [recognize_of_response hresponse]
    exact Option.some_ne_none _
  · have hno := not_exists.mp hresponse
    cases kind with
    | response bc => exact absurd h (hno bc)
    | request =>
      rw [recognize_of_request h hno]
      exact Option.some_ne_none _
    | exception =>
      rw [recognize_of_exception h]
      exact Option.some_ne_none _

/-- More bytes change what is recognized at a place only by completing a window that the
end of `s` cut off, and only a request that was recognized gives way, to a response. -/
theorem recognize_append (s t : Bytes) (p : Nat) :
    recognize ((s ++ t).drop p) = recognize (s.drop p) ∨
      ∃ kind, recognize ((s ++ t).drop p) = some kind ∧ s.length < p + kind.size ∧
        (recognize (s.drop p) = none ∨
          recognize (s.drop p) = some .request ∧ ∃ bc, kind = .response bc) := by
  cases h : recognize (s.drop p) with
  | none =>
    cases hlong : recognize ((s ++ t).drop p) with
    | none => exact .inl rfl
    | some kind =>
      refine .inr ⟨kind, rfl, ?_, .inl rfl⟩
      by_contra hfits
      exact recognize_ne_none ((window_of_recognize hlong).of_append (by omega)) h
  | some kind =>
    have hwindow := (window_of_recognize h).append t
    cases kind with
    | response bc => exact .inl (recognize_of_response hwindow)
    | exception => exact .inl (recognize_of_exception hwindow)
    | request =>
      by_cases hresponse : ∃ bc, Window (s ++ t) p (.response bc)
      · obtain ⟨bc, hresponse⟩ := hresponse
        refine .inr ⟨.response bc, recognize_of_response hresponse, ?_, .inr ⟨rfl, bc, rfl⟩⟩
        by_contra hfits
        rw [recognize_of_response (hresponse.of_append (by omega))] at h
        cases h
      · exact .inl (recognize_of_request hwindow (not_exists.mp hresponse))

end recognition

/-- A response window of `s ++ t` at `p` that `s` alone cuts off. -/
def CutOffResponse (s t : Bytes) (p : Nat) : Prop :=
  ∃ bc, Window (s ++ t) p (.response bc) ∧ s.length < p + (5 + bc.toNat)

/-- Where the walk from `pos` on, over `rest`, stops at a cut off response, it has taken
all its responses before. -/
def StopsBehind (s t : Bytes) (pos : Nat) (rest : Bytes) : Prop :=
  ∀ p, (∃ found, (p, found) ∈ frame_scanner.visits pos rest) → CutOffResponse s t p →
    ∀ q bc, (q, .response bc) ∈ frame_scanner.accepted pos rest → q < p

section walk

variable {s t rest : Bytes} {pos : Nat}

theorem mem_response_windows {windows : List (Nat × Kind)} {q : Nat} {bc : UInt8} :
    (q, bc) ∈ response_windows windows ↔ (q, .response bc) ∈ windows := by
  rw [response_windows, List.mem_filterMap]
  constructor
  · rintro ⟨⟨p, kind⟩, hmem, heq⟩
    cases kind with
    | response bc' =>
      simp only [Option.some.injEq, Prod.mk.injEq] at heq
      obtain ⟨rfl, rfl⟩ := heq
      exact hmem
    | request => cases heq
    | exception => cases heq
  · intro hmem
    exact ⟨_, hmem, rfl⟩

/-- The windows a walk takes stand in the stream, from its start on. -/
theorem window_of_mem_accepted (hrest : s.drop pos = rest) {q : Nat} {kind : Kind}
    (h : (q, kind) ∈ frame_scanner.accepted pos rest) : pos ≤ q ∧ Window s q kind := by
  obtain ⟨hle, -, heq⟩ := Recognizer.of_mem_visits (Recognizer.mem_accepted_iff.mp h)
  refine ⟨hle, window_of_recognize ?_⟩
  rw [← hrest, List.drop_drop, show pos + (q - pos) = q by omega] at heq
  exact heq.symm

/-- `recognize_append`, at the place the walk over `rest` begins. -/
theorem recognize_append_from (hrest : s.drop pos = rest) (hpos : pos ≤ s.length) (t : Bytes) :
    recognize (rest ++ t) = recognize rest ∨
      ∃ kind, recognize (rest ++ t) = some kind ∧ s.length < pos + kind.size ∧
        (recognize rest = none ∨ recognize rest = some .request ∧ ∃ bc, kind = .response bc) := by
  have hchange := recognize_append s t pos
  rw [List.drop_append_of_le_length hpos, hrest] at hchange
  exact hchange

/-- A walk that takes no response gives no frame. -/
theorem frames_eq_nil_iff (hrest : s.drop pos = rest) :
    (parse_frame_stream_loop rest).1 = [] ↔
      ∀ q bc, (q, .response bc) ∉ frame_scanner.accepted pos rest := by
  have hheads := parse_frame_stream_loop_heads hrest
  constructor
  · intro hnil q bc hmem
    rw [hnil, List.forall₂_nil_right_iff] at hheads
    have hmem := mem_response_windows.mpr hmem
    rw [hheads] at hmem
    cases hmem
  · intro hno
    have hnone : response_windows (frame_scanner.accepted pos rest) = [] := by
      apply List.eq_nil_iff_forall_not_mem.mpr
      rintro ⟨q, bc⟩ hmem
      exact hno q bc (mem_response_windows.mp hmem)
    rw [hnone, List.forall₂_nil_left_iff] at hheads
    exact hheads

/-- The first frame of a walk comes from a response it takes. -/
theorem head_of_frames (hrest : s.drop pos = rest) {frame : ModbusFrame}
    {frames : List ModbusFrame} (hframes : (parse_frame_stream_loop rest).1 = frame :: frames) :
    ∃ q bc, (q, .response bc) ∈ frame_scanner.accepted pos rest ∧
      frame = frame_at_head (s.drop q) bc := by
  have hheads := parse_frame_stream_loop_heads hrest
  rw [hframes, List.forall₂_cons_right_iff] at hheads
  obtain ⟨⟨q, bc⟩, windows, ⟨-, hframe⟩, -, hwindows⟩ := hheads
  refine ⟨q, bc, mem_response_windows.mp ?_, hframe⟩
  rw [hwindows]
  exact List.mem_cons_self

/-- A frame read from a shorter window is another frame. -/
theorem frame_at_head_ne {p q : Nat} {bc bc' : UInt8} (h : Window s p (.response bc))
    (h' : Window t q (.response bc')) (hlt : bc.toNat < bc'.toNat) :
    frame_at_head (s.drop p) bc ≠ frame_at_head (t.drop q) bc' := by
  intro heq
  have hregs := (carries_of_window h).length
  rw [heq, (carries_of_window h').length] at hregs
  obtain ⟨-, -, ⟨-, -, -, -, -, -, heven⟩, -⟩ := h
  obtain ⟨-, -, ⟨-, -, -, -, -, -, heven'⟩, -⟩ := h'
  have hmod : bc.toNat % 2 = 0 := congrArg UInt8.toNat heven
  have hmod' : bc'.toNat % 2 = 0 := congrArg UInt8.toNat heven'
  omega

/-- A response window has at least seven bytes. -/
theorem Window.response_fits {q : Nat} {bc : UInt8} (h : Window s q (.response bc)) :
    q + 7 ≤ s.length ∧ q + (5 + bc.toNat) ≤ s.length := by
  obtain ⟨hwithin, -, ⟨-, -, -, -, hmin, -⟩, -⟩ := h
  have hmin : 2 ≤ bc.toNat := UInt8.le_iff_toNat_le.mp hmin
  simp only [Kind.size] at hwithin
  omega

/-- Where the longer stream shows a window that `s` cuts off, the frames that follow in `s`
stay only if there are none. -/
theorem prefix_iff_of_cut (hrest : s.drop pos = rest) (hpos : pos ≤ s.length) {kind : Kind}
    (hkind : recognize (rest ++ t) = some kind) (hcut : s.length < pos + kind.size)
    (hnone : ∀ bc, recognize rest ≠ some (.response bc))
    (hvisit : ∃ found, (pos, found) ∈ frame_scanner.visits pos rest) :
    (parse_frame_stream_loop rest).1 <+: (parse_frame_stream_loop (rest ++ t)).1 ↔
      StopsBehind s t pos rest := by
  have hlong : (s ++ t).drop pos = rest ++ t := by
    rw [List.drop_append_of_le_length hpos, hrest]
  have hlater {q : Nat} {bc : UInt8} (hmem : (q, .response bc) ∈ frame_scanner.accepted pos rest) :
      pos < q := by
    obtain ⟨hle, hwindow⟩ := window_of_mem_accepted hrest hmem
    obtain rfl | hlt := Nat.eq_or_lt_of_le hle
    · exact absurd (hrest ▸ recognize_of_response hwindow) (hnone bc)
    · exact hlt
  have hempty (hshort : s.length < pos + 8) :
      (parse_frame_stream_loop rest).1 <+: (parse_frame_stream_loop (rest ++ t)).1 ↔
        StopsBehind s t pos rest := by
    have hno (q : Nat) (bc : UInt8) : (q, .response bc) ∉ frame_scanner.accepted pos rest := by
      intro hmem
      have hfits := (window_of_mem_accepted hrest hmem).2.response_fits
      have hlater := hlater hmem
      omega
    rw [(frames_eq_nil_iff hrest).mpr hno]
    exact iff_of_true List.nil_prefix fun _ _ _ q bc hmem => absurd hmem (hno q bc)
  cases kind with
  | response bc =>
    have hwindow : Window (s ++ t) pos (.response bc) := window_of_recognize (hlong ▸ hkind)
    constructor
    · intro hpre p _ _ q bc' hmem
      obtain ⟨frame, frames, hframes⟩ := List.exists_cons_of_ne_nil
        (mt (frames_eq_nil_iff hrest).mp fun hno => hno q bc' hmem)
      obtain ⟨q₁, bc₁, hmem₁, rfl⟩ := head_of_frames hrest hframes
      obtain ⟨-, hwindow₁⟩ := window_of_mem_accepted hrest hmem₁
      have hfits := hwindow₁.response_fits
      have hlater := hlater hmem₁
      simp only [Kind.size] at hcut
      rw [parse_frame_stream_loop_step (rest ++ t), hkind, hframes, ← hlong] at hpre
      exact absurd (List.cons_prefix_cons.mp hpre).1
        (frame_at_head_ne hwindow₁ hwindow (by omega))
    · intro hstops
      have hnil := (frames_eq_nil_iff hrest).mpr fun q bc' hmem =>
        absurd (hstops pos hvisit ⟨bc, hwindow, hcut⟩ q bc' hmem)
          (Nat.not_lt_of_lt (hlater hmem))
      rw [hnil]
      exact List.nil_prefix
  | request => exact hempty (by simp only [Kind.size] at hcut; omega)
  | exception => exact hempty (by simp only [Kind.size] at hcut; omega)

/-- Past a place where both streams show the same, the walk over the rest decides. -/
theorem stopsBehind_step {next : Nat} {tail : Bytes} {found : Option Kind}
    (hrest : s.drop pos = rest) (hpos : pos ≤ s.length)
    (hsame : recognize (rest ++ t) = recognize rest) (hnext : pos < next)
    (hvisits : frame_scanner.visits pos rest = (pos, found) :: frame_scanner.visits next tail) :
    StopsBehind s t pos rest ↔ StopsBehind s t next tail := by
  have hlong : (s ++ t).drop pos = rest ++ t := by
    rw [List.drop_append_of_le_length hpos, hrest]
  have hmem {q : Nat} {kind : Kind} : (q, kind) ∈ frame_scanner.accepted pos rest ↔
      (q, some kind) = (pos, found) ∨ (q, kind) ∈ frame_scanner.accepted next tail := by
    rw [Recognizer.mem_accepted_iff, Recognizer.mem_accepted_iff, hvisits, List.mem_cons]
  constructor
  · rintro hstops p ⟨at_p, hvisit⟩ hcut q bc hresponse
    refine hstops p ⟨at_p, ?_⟩ hcut q bc (hmem.mpr (.inr hresponse))
    rw [hvisits]
    exact List.mem_cons_of_mem _ hvisit
  · rintro hstops p ⟨at_p, hvisit⟩ hcut q bc hresponse
    rw [hvisits, List.mem_cons] at hvisit
    obtain heq | hvisit := hvisit
    · cases heq
      obtain ⟨bc', hwindow, hlt⟩ := hcut
      have hkind := recognize_of_response hwindow
      rw [hlong, hsame, ← hrest] at hkind
      have hfits := (window_of_recognize hkind).response_fits
      omega
    · have hlow := (Recognizer.of_mem_visits hvisit).1
      obtain heq | hresponse := hmem.mp hresponse
      · cases heq
        omega
      · exact hstops p ⟨at_p, hvisit⟩ hcut q bc hresponse

theorem frame_at_head_append {bc : UInt8} (hfits : 5 + bc.toNat ≤ rest.length) (t : Bytes) :
    frame_at_head (rest ++ t) bc = frame_at_head rest bc := by
  have hget {i : Nat} (hi : i < 3) : (rest ++ t).getD i 0 = rest.getD i 0 := by
    rw [List.getD_eq_getElem?_getD, List.getElem?_append_left (by omega),
      ← List.getD_eq_getElem?_getD]
  rw [frame_at_head, hget (by omega), hget (by omega), List.drop_append_of_le_length (by omega),
    List.take_append_of_le_length (by rw [List.length_drop]; omega)]
  rfl

/-- A step that takes the same window in both walks leaves the prefix to what follows. -/
theorem frames_prefix_step {kind : Kind} (hkind : recognize rest = some kind)
    (hsame : recognize (rest ++ t) = recognize rest) :
    (parse_frame_stream_loop rest).1 <+: (parse_frame_stream_loop (rest ++ t)).1 ↔
      (parse_frame_stream_loop (rest.drop kind.size)).1 <+:
        (parse_frame_stream_loop (rest.drop kind.size ++ t)).1 := by
  have hfits := recognize_size_le hkind
  rw [← List.drop_append_of_le_length hfits, parse_frame_stream_loop_step rest,
    parse_frame_stream_loop_step (rest ++ t), hsame, hkind]
  cases kind with
  | response bc =>
    dsimp only
    rw [frame_at_head_append hfits, List.cons_prefix_cons]
    exact and_iff_right rfl
  | request => exact Iff.rfl
  | exception => exact Iff.rfl

/-- The walk's induction: as long as both streams show the same the walks agree, and where
they first differ the longer one shows a window that `s` cuts off. -/
theorem walk_prefix_iff (hrest : s.drop pos = rest) (hpos : pos ≤ s.length) :
    (parse_frame_stream_loop rest).1 <+: (parse_frame_stream_loop (rest ++ t)).1 ↔
      StopsBehind s t pos rest := by
  induction rest using Recognizer.scan_induction (R := frame_scanner) generalizing pos with
  | nil =>
    rw [@parse_frame_stream_loop_short [] (by simp)]
    refine iff_of_true List.nil_prefix ?_
    rintro p ⟨found, hvisit⟩
    rw [Recognizer.visits_nil] at hvisit
    cases hvisit
  | token rest kind hkind ih =>
    have hvisits : frame_scanner.visits pos rest =
        (pos, some kind) :: frame_scanner.visits (pos + kind.size) (rest.drop kind.size) :=
      Recognizer.visits_of_some hkind
    have hfits := recognize_size_le hkind
    have hpositive := frame_scanner.size_pos kind
    have hlen : rest.length = s.length - pos := by rw [← hrest, List.length_drop]
    have hdrop : s.drop (pos + kind.size) = rest.drop kind.size := by
      rw [← List.drop_drop, hrest]
    rw [frame_scanner_recognize] at hkind
    obtain hsame | ⟨cut, hcutkind, hcut, hbefore⟩ := recognize_append_from hrest hpos t
    · rw [stopsBehind_step hrest hpos hsame (Nat.lt_add_of_pos_right hpositive) hvisits,
        frames_prefix_step hkind hsame]
      have hnext : pos + kind.size ≤ s.length := by omega
      exact ih hdrop hnext
    · refine prefix_iff_of_cut hrest hpos hcutkind hcut ?_ ⟨_, hvisits ▸ List.mem_cons_self⟩
      intro bc hresponse
      obtain hnone | ⟨hrequest, -⟩ := hbefore
      · rw [hresponse] at hnone
        cases hnone
      · rw [hresponse] at hrequest
        cases hrequest
  | skip a tail hnone ih =>
    have hvisits : frame_scanner.visits pos (a :: tail) =
        (pos, none) :: frame_scanner.visits (pos + 1) tail := Recognizer.visits_of_none hnone
    have hlen : (a :: tail).length = s.length - pos := by rw [← hrest, List.length_drop]
    have hdrop : s.drop (pos + 1) = tail := by
      rw [← List.drop_drop, hrest]
      rfl
    rw [frame_scanner_recognize] at hnone
    obtain hsame | ⟨cut, hcutkind, hcut, -⟩ := recognize_append_from hrest hpos t
    · rw [stopsBehind_step hrest hpos hsame (Nat.lt_succ_self pos) hvisits,
        parse_frame_stream_loop_step (a :: tail), parse_frame_stream_loop_step (a :: tail ++ t),
        hsame, hnone]
      exact ih hdrop (by rw [List.length_cons] at hlen; omega)
    · refine prefix_iff_of_cut hrest hpos hcutkind hcut ?_ ⟨_, hvisits ▸ List.mem_cons_self⟩
      intro bc hresponse
      rw [hnone] at hresponse
      cases hresponse

end walk

/-- Prefix stability: the frames recognized in `s` stay, in place, when `t` arrives exactly
when the walk over `s` stops at no response that `s` cuts off and then takes a response
behind that place. -/
theorem prefix_stable_iff (s t : Bytes) :
    (parse_frame_stream s).1 <+: (parse_frame_stream (s ++ t)).1 ↔
      ∀ p, (∃ found, (p, found) ∈ frame_scanner.visits 0 s) →
        (∃ bc, Window (s ++ t) p (.response bc) ∧ s.length < p + (5 + bc.toNat)) →
        ∀ q bc, (q, .response bc) ∈ accepted_windows s → q < p :=
  walk_prefix_iff rfl (Nat.zero_le _)

/-- A response of five registers, cut off inside its data: the bytes that have arrived hold
a whole response of one register, which is gone once the rest is there. -/
theorem frame_lost_when_more_arrives :
    ∃ s t, (parse_frame_stream s).1 = [⟨1, FC_READ_HOLDING, [0x1234]⟩] ∧
      (parse_frame_stream (s ++ t)).1 =
        [⟨1, FC_READ_HOLDING, [0x0103, 0x0212, 0x34B5, 0x3300, 0x0000]⟩] ∧
      ¬ (parse_frame_stream s).1 <+: (parse_frame_stream (s ++ t)).1 := by
  have hbefore : (parse_frame_stream
      [0x01, 0x03, 0x0A, 0x01, 0x03, 0x02, 0x12, 0x34, 0xB5, 0x33]).1 =
      [⟨1, FC_READ_HOLDING, [0x1234]⟩] := by
    rw [parse_frame_stream, parse_frame_stream_loop_step,
      show recognize [0x01, 0x03, 0x0A, 0x01, 0x03, 0x02, 0x12, 0x34, 0xB5, 0x33] = none by
        decide +kernel]
    dsimp only [List.tail]
    rw [parse_frame_stream_loop_step,
      show recognize [0x03, 0x0A, 0x01, 0x03, 0x02, 0x12, 0x34, 0xB5, 0x33] = none by
        decide +kernel]
    dsimp only [List.tail]
    rw [parse_frame_stream_loop_step,
      show recognize [0x0A, 0x01, 0x03, 0x02, 0x12, 0x34, 0xB5, 0x33] = none by decide +kernel]
    dsimp only [List.tail]
    rw [parse_frame_stream_loop_step,
      show recognize [0x01, 0x03, 0x02, 0x12, 0x34, 0xB5, 0x33] = some (.response 2) by
        decide +kernel]
    dsimp only
    rw [parse_frame_stream_loop_short (by decide)]
    decide +kernel
  have hwhole : (parse_frame_stream ([0x01, 0x03, 0x0A, 0x01, 0x03, 0x02, 0x12, 0x34, 0xB5, 0x33] ++
      [0x00, 0x00, 0x00, 0x54, 0xB1])).1 =
      [⟨1, FC_READ_HOLDING, [0x0103, 0x0212, 0x34B5, 0x3300, 0x0000]⟩] := by
    rw [parse_frame_stream, parse_frame_stream_loop_step,
      show recognize ([0x01, 0x03, 0x0A, 0x01, 0x03, 0x02, 0x12, 0x34, 0xB5, 0x33] ++
        [0x00, 0x00, 0x00, 0x54, 0xB1]) = some (.response 10) by decide +kernel]
    dsimp only
    rw [parse_frame_stream_loop_short (by decide)]
    decide +kernel
  refine ⟨_, _, hbefore, hwhole, ?_⟩
  rw [hbefore, hwhole]
  decide

end inverter_bridge.serial_io
