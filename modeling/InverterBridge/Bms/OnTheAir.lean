import InverterBridge.Bms.AcceptedFrames
import InverterBridge.Bms.OctopusFrames
import InverterBridge.Bms.Turns
import InverterBridge.SerialIo.Received

/-! What the BMS stores and publishes came over the air, and no answer is lost. -/

open Python Trace
open inverter_bridge.crc inverter_bridge.parsers
open inverter_bridge.modbus (words word_bytes word_bytes_length)

namespace inverter_bridge.bms.octopus_protocol

/-! ## The registers of an accepted frame -/

/-- A frame with these registers: its header, the registers and, after whatever follows them, the
CRC of all before it. -/
structure Holds (slave count : UInt8) (regs : List UInt16) (frame : Bytes) : Prop where
  registers : ∃ rest, 2 ≤ rest.length ∧ frame = slave :: 0x04 :: count :: (word_bytes regs ++ rest)
  crc : verify_crc frame = true

variable {slave count : UInt8} {frame : Bytes}

/-- A body of words and more is made of registers and the rest. -/
theorem exists_registers {body : Bytes} {n : Nat} (h : 2 * n ≤ body.length) :
    ∃ regs : Vector UInt16 n, body = word_bytes regs.toList ++ body.drop (2 * n) := by
  have htake : (body.take (2 * n)).length = 2 * n := by rw [List.length_take]; omega
  have hwords := serial_io.word_bytes_words htake
  have hlength : (words (body.take (2 * n))).length = n := by
    have hbytes := congrArg List.length hwords
    rw [word_bytes_length] at hbytes
    omega
  refine ⟨⟨(words (body.take (2 * n))).toArray, by simpa using hlength⟩, ?_⟩
  rw [Vector.toList_mk, List.toList_toArray, hwords, List.take_append_drop]

/-- A frame that holds the registers its header announces gets past every check. -/
theorem Holds.parse_response {regs : List UInt16} (h : Holds slave count regs frame)
    (hslave : 1 ≤ slave ∧ slave ≤ 4) (hcount : count.toNat = 2 * regs.length) :
    parse_response frame =
      if count = PIA_BYTE_COUNT then (parse_pia slave (word_bytes regs) frame).map .pia
      else if count = PIB_BYTE_COUNT then (parse_pib slave (word_bytes regs) frame).map .pib
      else
        .error ⟨s!"unknown byte_count 0x{hex_padded_upper 2 count.toNat} ({count.toNat}); expected 0x24 (PIA) or 0x34 (PIB)"⟩ := by
  obtain ⟨⟨rest, hrest, rfl⟩, hcrc⟩ := h
  have hpack : ¬ (slave < 1 ∨ 4 < slave) := by
    rintro (hlow | hhigh)
    · exact absurd hslave.1 (UInt8.not_le.mpr hlow)
    · exact absurd hslave.2 (UInt8.not_le.mpr hhigh)
  have hfc : ¬ (0x04 : UInt8) ≠ 0x04 := not_not.mpr rfl
  have hlen : (slave :: 0x04 :: count :: (word_bytes regs ++ rest)).length =
      3 + count.toNat + rest.length := by
    simp only [List.length_cons, List.length_append, word_bytes_length]
    omega
  have htake : (word_bytes regs ++ rest).take count.toNat = word_bytes regs :=
    List.take_left' (by rw [word_bytes_length, hcount])
  unfold octopus_protocol.parse_response
  dsimp only
  rw [hlen, if_neg (by omega), if_neg (not_not.mpr hcrc), if_neg hfc, if_neg hpack,
    if_neg (by omega), htake]

/-- What is accepted holds the registers that its type has. -/
theorem holds_of_parse_response {response : Response} {n : Nat}
    (hparse : octopus_protocol.parse_response frame = .ok response)
    (hn : response.byte_count.toNat = 2 * n) :
    ∃ slave, (1 ≤ slave ∧ slave ≤ 4) ∧
      ∃ regs : Vector UInt16 n, Holds slave response.byte_count regs.toList frame := by
  obtain ⟨count, ⟨slave, body, rfl, hlow, hhigh, -⟩, hlength, -⟩ :=
    parse_response_ok_iff.mp ⟨response, hparse⟩
  obtain ⟨hcrc, slave', body', heq, -⟩ := parse_response_ok hparse
  simp only [List.cons.injEq, true_and] at heq
  obtain ⟨rfl, rfl, rfl⟩ := heq
  simp only [List.length_cons] at hlength
  obtain ⟨regs, hbody⟩ := @exists_registers body n (by omega)
  refine ⟨slave, ⟨hlow, hhigh⟩, regs, ⟨body.drop (2 * n), ?_, ?_⟩, hcrc⟩
  · rw [List.length_drop]
    omega
  · rw [← hbody]

theorem pia_of_parse_response {data : PiaData}
    (hparse : octopus_protocol.parse_response frame = .ok (.pia data)) :
    ∃ slave, ∃ regs : Vector UInt16 18,
      Holds slave PIA_BYTE_COUNT regs.toList frame ∧ PiaDecodes slave regs data := by
  obtain ⟨slave, hslave, regs, hholds⟩ := @holds_of_parse_response _ _ 18 hparse rfl
  change Holds slave PIA_BYTE_COUNT regs.toList frame at hholds
  have hcount : PIA_BYTE_COUNT.toNat = 2 * regs.toList.length := by simp [PIA_BYTE_COUNT]
  have haccepted := hholds.parse_response hslave hcount
  rw [if_pos rfl, parse_pia_word_bytes, hparse] at haccepted
  cases haccepted
  exact ⟨slave, regs, hholds, rfl, rfl, by rw [s16_eq_toInt], rfl, rfl, rfl, rfl, rfl⟩

/-- The fields are those of the frame that is made of the same registers. -/
theorem pib_of_parse_response {data : PibData}
    (hparse : octopus_protocol.parse_response frame = .ok (.pib data)) :
    ∃ slave, ∃ regs : Vector UInt16 26,
      Holds slave PIB_BYTE_COUNT regs.toList frame ∧ PibDecodes slave regs data := by
  obtain ⟨slave, hslave, regs, hholds⟩ := @holds_of_parse_response _ _ 26 hparse rfl
  change Holds slave PIB_BYTE_COUNT regs.toList frame at hholds
  have hcount : PIB_BYTE_COUNT.toNat = 2 * regs.toList.length := by simp [PIB_BYTE_COUNT]
  have htype : PIB_BYTE_COUNT ≠ PIA_BYTE_COUNT := by decide
  have haccepted := hholds.parse_response hslave hcount
  rw [if_neg htype, if_pos rfl, parse_pib_word_bytes, hparse] at haccepted
  obtain ⟨made, hmade, hdecodes, -⟩ := parse_response_pib hslave regs
  rw [parse_response_make_response hslave hcount, if_neg htype, if_pos rfl,
    parse_pib_word_bytes] at hmade
  cases haccepted
  cases hmade
  exact ⟨slave, regs, hholds, hdecodes.pack, hdecodes.cells_length, hdecodes.cells,
    hdecodes.temps_length, hdecodes.temps, hdecodes.env, hdecodes.pcb⟩

/-- A frame with the registers of a PIA response is accepted. -/
theorem Holds.exists_pia {regs : Vector UInt16 18} (h : Holds slave PIA_BYTE_COUNT regs.toList frame)
    (hslave : 1 ≤ slave ∧ slave ≤ 4) :
    ∃ data, octopus_protocol.parse_response frame = .ok (.pia data) := by
  rw [h.parse_response hslave (by simp [PIA_BYTE_COUNT]), if_pos rfl, parse_pia_word_bytes]
  exact ⟨_, rfl⟩

theorem Holds.exists_pib {regs : Vector UInt16 26} (h : Holds slave PIB_BYTE_COUNT regs.toList frame)
    (hslave : 1 ≤ slave ∧ slave ≤ 4) :
    ∃ data, octopus_protocol.parse_response frame = .ok (.pib data) := by
  rw [h.parse_response hslave (by simp [PIB_BYTE_COUNT]), if_neg (by decide), if_pos rfl,
    parse_pib_word_bytes]
  exact ⟨_, rfl⟩

end inverter_bridge.bms.octopus_protocol

open inverter_bridge.bms.octopus_protocol

namespace inverter_bridge.bms.ble_client

/-! ## The frame that answers a request -/

variable {during : Exchange} {slave byte_count : UInt8} {frame : Bytes}

/-- The frames notified up to the end of the wait of an attempt. -/
def Exchange.arrived (during : Exchange) (attempt : Nat) : List Bytes :=
  during.before_wait ++ (List.range (attempt + 1)).flatMap during.arrivals

/-- The frame that an attempt takes, when each attempt before it has taken one. -/
def Exchange.taken (during : Exchange) (attempt : Nat) : Option Bytes :=
  if during.times_out attempt then none else (during.arrived attempt)[attempt]?

/-- One of the `n` attempts from `attempt` on takes the frame, and those before it take frames that
the filter drops. -/
def Exchange.AnsweredFrom (during : Exchange) (slave byte_count : UInt8) (frame : Bytes)
    (attempt n : Nat) : Prop :=
  ∃ i < n, during.taken (attempt + i) = some frame ∧ header_matches slave byte_count frame = true ∧
    ∀ j < i, ∃ other, during.taken (attempt + j) = some other ∧
      header_matches slave byte_count other = false

/-- The request is written, and one of its three attempts takes the frame. -/
def Exchange.AnsweredWith (during : Exchange) (slave byte_count : UInt8) (frame : Bytes) : Prop :=
  during.write_error = none ∧ during.AnsweredFrom slave byte_count frame 0 3

theorem Exchange.arrived_succ (attempt : Nat) :
    during.arrived (attempt + 1) = during.arrived attempt ++ during.arrivals (attempt + 1) := by
  rw [Exchange.arrived, List.range_succ, List.flatMap_append, List.flatMap_singleton,
    ← List.append_assoc]
  rfl

/-- The first of the attempts takes the frame, or one that the filter drops. -/
theorem Exchange.answeredFrom_succ {attempt n : Nat} :
    during.AnsweredFrom slave byte_count frame attempt (n + 1) ↔
      ∃ response, during.taken attempt = some response ∧
        if header_matches slave byte_count response = true then response = frame
        else during.AnsweredFrom slave byte_count frame (attempt + 1) n := by
  constructor
  · rintro ⟨i, hi, htaken, hheader, hbefore⟩
    cases i with
    | zero => exact ⟨frame, htaken, by rw [if_pos hheader]⟩
    | succ i =>
      obtain ⟨other, hother, hdropped⟩ := hbefore 0 (Nat.succ_pos i)
      refine ⟨other, hother, ?_⟩
      rw [if_neg (Bool.eq_false_iff.mp hdropped)]
      refine ⟨i, Nat.lt_of_succ_lt_succ hi, ?_, hheader, fun j hj => ?_⟩
      · rw [Nat.add_assoc, Nat.add_comm 1]
        exact htaken
      · rw [Nat.add_assoc, Nat.add_comm 1]
        exact hbefore (j + 1) (Nat.succ_lt_succ hj)
  · rintro ⟨response, htaken, h⟩
    split_ifs at h with hmatch
    · subst h
      exact ⟨0, Nat.succ_pos n, htaken, hmatch, nofun⟩
    · obtain ⟨i, hi, htaken', hheader, hbefore⟩ := h
      refine ⟨i + 1, Nat.succ_lt_succ hi, ?_, hheader, fun j hj => ?_⟩
      · rw [Nat.add_comm i, ← Nat.add_assoc]
        exact htaken'
      · cases j with
        | zero => exact ⟨response, htaken, Bool.eq_false_iff.mpr hmatch⟩
        | succ j =>
          rw [Nat.add_comm j, ← Nat.add_assoc]
          exact hbefore j (Nat.lt_of_succ_lt_succ hj)

/-- The queue behind attempts that have taken a frame each. -/
theorem Exchange.get_eq {attempt : Nat} {notify_q : List Bytes}
    (hqueue : notify_q ++ during.arrivals attempt = (during.arrived attempt).drop attempt) :
    (during.get attempt notify_q).1 = during.taken attempt ∧
      (during.taken attempt ≠ none →
        (during.get attempt notify_q).2 = (during.arrived attempt).drop (attempt + 1) ∧
          attempt + 1 ≤ (during.arrived attempt).length) := by
  unfold Exchange.get Exchange.taken
  dsimp only
  rw [hqueue]
  split_ifs
  · exact ⟨rfl, fun h => absurd rfl h⟩
  · cases hdrop : (during.arrived attempt).drop attempt with
    | nil =>
      have hnone : (during.arrived attempt)[attempt]? = none :=
        List.getElem?_eq_none (List.drop_eq_nil_iff.mp hdrop)
      exact ⟨hnone.symm, fun h => absurd hnone h⟩
    | cons response rest =>
      have hlt : attempt < (during.arrived attempt).length := by
        by_contra hge
        rw [List.drop_eq_nil_of_le (not_lt.mp hge)] at hdrop
        cases hdrop
      rw [List.drop_eq_getElem_cons hlt, List.cons.injEq] at hdrop
      refine ⟨?_, fun _ => ⟨hdrop.2.symm, hlt⟩⟩
      rw [List.getElem?_eq_getElem hlt, hdrop.1]

/-- The loop from an attempt on, when each one before it has taken a frame. -/
theorem await_response_ok_iff {attempt n : Nat} {notify_q : List Bytes}
    (hqueue : notify_q ++ during.arrivals attempt = (during.arrived attempt).drop attempt) :
    (await_response during slave byte_count notify_q (List.range' attempt n)).1 = .ok frame ↔
      during.AnsweredFrom slave byte_count frame attempt n := by
  induction n generalizing attempt notify_q with
  | zero =>
    refine iff_of_false nofun ?_
    rintro ⟨i, hi, -⟩
    exact Nat.not_lt_zero i hi
  | succ n ih =>
    obtain ⟨htaken, hrest⟩ := Exchange.get_eq hqueue
    rw [List.range'_succ, await_response, Exchange.answeredFrom_succ, ← htaken]
    cases hget : during.get attempt notify_q with
    | mk response rest =>
      rw [hget] at htaken hrest
      cases response with
      | none =>
        refine iff_of_false nofun ?_
        rintro ⟨response, hnone, -⟩
        cases hnone
      | some response =>
        obtain ⟨hqueue', hlength⟩ := hrest (by rw [← htaken]; exact Option.some_ne_none _)
        have hnext : rest ++ during.arrivals (attempt + 1) =
            (during.arrived (attempt + 1)).drop (attempt + 1) := by
          rw [Exchange.arrived_succ, List.drop_append_of_le_length hlength, ← hqueue']
        dsimp only
        simp only [Option.some.injEq, exists_eq_left']
        split_ifs with hmatch
        · exact ⟨Except.ok.inj, congrArg Except.ok⟩
        · exact ih hnext

theorem OctopusBleClient.request_ok_iff (self : OctopusBleClient) :
    (self.request during slave byte_count).1 = .ok frame ↔
      self.is_connected = true ∧ during.AnsweredWith slave byte_count frame := by
  unfold OctopusBleClient.request Exchange.AnsweredWith
  by_cases hconnected : self.is_connected = true
  · rw [if_neg (not_not.mpr hconnected), and_iff_right hconnected]
    cases during.write_error with
    | some message => exact iff_of_false nofun fun h => nomatch h.1
    | none =>
      have hqueue : during.before_wait ++ during.arrivals 0 = (during.arrived 0).drop 0 := by
        simp [Exchange.arrived]
      have hawait := @await_response_ok_iff during slave byte_count frame 0 3 _ hqueue
      rw [← List.range_eq_range'] at hawait
      simpa using hawait
  · rw [if_pos hconnected]
    exact iff_of_false nofun fun h => hconnected h.1

end inverter_bridge.bms.ble_client

open inverter_bridge.config inverter_bridge.bms.ble_client

namespace inverter_bridge.bms.service

/-! ## The polls as requests over the air -/

/-- The world in which the polls are requests of a client: the client when a poll begins, and what
goes on during the poll. -/
def World.over_the_air (w : World) (client : Nat → OctopusBleClient) (exchange : Nat → Exchange) :
    World :=
  { w with
    poll_pia := fun k pack => ((client k).poll_pia (exchange k) pack).1
    poll_pib := fun k pack => ((client k).poll_pib (exchange k) pack).1 }

/-- Poll `k` is made while there is a connection, and its request to `pack` is answered with a frame
of so many bytes that holds these registers. -/
def Heard (client : Nat → OctopusBleClient) (exchange : Nat → Exchange) (k pack : Nat)
    (count : UInt8) (regs : List UInt16) : Prop :=
  (client k).is_connected = true ∧ ∃ frame,
    (exchange k).AnsweredWith pack.toUInt8 count frame ∧ Holds pack.toUInt8 count regs frame

section

variable {w : World} {client : Nat → OctopusBleClient} {exchange : Nat → Exchange} {k pack : Nat}

theorem one_le_slave (hpack : 1 ≤ pack ∧ pack ≤ 4) : 1 ≤ pack.toUInt8 ∧ pack.toUInt8 ≤ 4 := by
  have hslave := slave_of_pack hpack
  rw [UInt8.le_iff_toNat_le, UInt8.le_iff_toNat_le, hslave]
  exact hpack

theorem poll_pia_ok_iff (hpack : 1 ≤ pack ∧ pack ≤ 4) {data : PiaData} :
    ((client k).poll_pia (exchange k) pack).1 = .ok data ↔
      ∃ frame, ((client k).request (exchange k) pack.toUInt8 PIA_BYTE_COUNT).1 = .ok frame ∧
        parse_response frame = .ok (.pia data) := by
  have hrange : 1 ≤ (pack : Int) ∧ (pack : Int) ≤ 4 := by omega
  unfold OctopusBleClient.poll_pia
  rw [if_neg (not_not.mpr hrange), Int.toNat_natCast, ← PIA_BYTE_COUNT]
  cases hrequest : (client k).request (exchange k) pack.toUInt8 PIA_BYTE_COUNT with
  | mk answer notify_q =>
    cases answer with
    | error e => simp
    | ok frame =>
      cases hparse : parse_response frame with
      | error e => simp [hparse]
      | ok response =>
        cases response with
        | pia result => simp [hparse]
        | pib result => simp [hparse]

theorem poll_pib_ok_iff (hpack : 1 ≤ pack ∧ pack ≤ 4) {data : PibData} :
    ((client k).poll_pib (exchange k) pack).1 = .ok data ↔
      ∃ frame, ((client k).request (exchange k) pack.toUInt8 PIB_BYTE_COUNT).1 = .ok frame ∧
        parse_response frame = .ok (.pib data) := by
  have hrange : 1 ≤ (pack : Int) ∧ (pack : Int) ≤ 4 := by omega
  unfold OctopusBleClient.poll_pib
  rw [if_neg (not_not.mpr hrange), Int.toNat_natCast, ← PIB_BYTE_COUNT]
  cases hrequest : (client k).request (exchange k) pack.toUInt8 PIB_BYTE_COUNT with
  | mk answer notify_q =>
    cases answer with
    | error e => simp
    | ok frame =>
      cases hparse : parse_response frame with
      | error e => simp [hparse]
      | ok response =>
        cases response with
        | pia result => simp [hparse]
        | pib result => simp [hparse]

/-- The filter lets no frame of another slave through. -/
theorem slave_of_answered {during : Exchange} {slave slave' count count' : UInt8} {frame : Bytes}
    {regs : List UInt16} (h : during.AnsweredWith slave count frame)
    (hholds : Holds slave' count' regs frame) : slave' = slave := by
  obtain ⟨-, i, -, -, hheader, -⟩ := h
  obtain ⟨⟨rest, -, rfl⟩, -⟩ := hholds
  simp only [header_matches, Bool.and_eq_true, beq_iff_eq] at hheader
  exact hheader.1.1

/-- A PIA poll returns what was heard. -/
theorem heard_of_poll_pia (hpack : 1 ≤ pack ∧ pack ≤ 4) {data : PiaData}
    (hpoll : ((client k).poll_pia (exchange k) pack).1 = .ok data) :
    ∃ regs : Vector UInt16 18, Heard client exchange k pack PIA_BYTE_COUNT regs.toList ∧
      PiaDecodes pack.toUInt8 regs data := by
  obtain ⟨frame, hrequest, hparse⟩ := (poll_pia_ok_iff hpack).mp hpoll
  obtain ⟨hconnected, hanswered⟩ := (OctopusBleClient.request_ok_iff _).mp hrequest
  obtain ⟨slave, regs, hholds, hdecodes⟩ := pia_of_parse_response hparse
  obtain rfl := slave_of_answered hanswered hholds
  exact ⟨regs, ⟨hconnected, frame, hanswered, hholds⟩, hdecodes⟩

theorem heard_of_poll_pib (hpack : 1 ≤ pack ∧ pack ≤ 4) {data : PibData}
    (hpoll : ((client k).poll_pib (exchange k) pack).1 = .ok data) :
    ∃ regs : Vector UInt16 26, Heard client exchange k pack PIB_BYTE_COUNT regs.toList ∧
      PibDecodes pack.toUInt8 regs data := by
  obtain ⟨frame, hrequest, hparse⟩ := (poll_pib_ok_iff hpack).mp hpoll
  obtain ⟨hconnected, hanswered⟩ := (OctopusBleClient.request_ok_iff _).mp hrequest
  obtain ⟨slave, regs, hholds, hdecodes⟩ := pib_of_parse_response hparse
  obtain rfl := slave_of_answered hanswered hholds
  exact ⟨regs, ⟨hconnected, frame, hanswered, hholds⟩, hdecodes⟩

/-- A poll that fails has heard nothing. -/
theorem not_heard_of_poll_pia (hpack : 1 ≤ pack ∧ pack ≤ 4) {e : PollError}
    (hpoll : ((client k).poll_pia (exchange k) pack).1 = .error e) (regs : Vector UInt16 18) :
    ¬ Heard client exchange k pack PIA_BYTE_COUNT regs.toList := by
  rintro ⟨hconnected, frame, hanswered, hholds⟩
  obtain ⟨data, hparse⟩ := hholds.exists_pia (one_le_slave hpack)
  have hok := (poll_pia_ok_iff hpack).mpr
    ⟨frame, (OctopusBleClient.request_ok_iff _).mpr ⟨hconnected, hanswered⟩, hparse⟩
  rw [hpoll] at hok
  cases hok

theorem not_heard_of_poll_pib (hpack : 1 ≤ pack ∧ pack ≤ 4) {e : PollError}
    (hpoll : ((client k).poll_pib (exchange k) pack).1 = .error e) (regs : Vector UInt16 26) :
    ¬ Heard client exchange k pack PIB_BYTE_COUNT regs.toList := by
  rintro ⟨hconnected, frame, hanswered, hholds⟩
  obtain ⟨data, hparse⟩ := hholds.exists_pib (one_le_slave hpack)
  have hok := (poll_pib_ok_iff hpack).mpr
    ⟨frame, (OctopusBleClient.request_ok_iff _).mpr ⟨hconnected, hanswered⟩, hparse⟩
  rw [hpoll] at hok
  cases hok

/-- The client raises nothing that the loop does not expect. -/
theorem expected_over_the_air {packs : Nat} (hpacks : packs ≤ 4) :
    Expected (w.over_the_air client exchange) packs := by
  intro k pack e hone hle hpoll
  have hpack : 1 ≤ pack ∧ pack ≤ 4 := ⟨hone, hle.trans hpacks⟩
  obtain hpia | hpib := hpoll
  · have hspec := (client k).poll_pia_spec (exchange k) hpack
    rw [show ((client k).poll_pia (exchange k) pack).1 = .error e from hpia] at hspec
    exact hspec
  · have hspec := (client k).poll_pib_spec (exchange k) hpack
    rw [show ((client k).poll_pib (exchange k) pack).1 = .error e from hpib] at hspec
    exact hspec

end

/-- Where an event comes from: a stored reading has the registers heard by the poll whose turn it
is; a poll that failed has heard nothing; and what is published is that of the event before. -/
def OffTheAir (client : Nat → OctopusBleClient) (exchange : Nat → Exchange) (packs : Nat)
    (station : Station) (before : List Event) : Event → Prop
  | .pia_stored pack data _ =>
    turn before + 1 = pack ∧ pack ≤ packs ∧ ∃ regs : Vector UInt16 18,
      Heard client exchange (polls_ended before) pack PIA_BYTE_COUNT regs.toList ∧
        PiaDecodes pack.toUInt8 regs data
  | .pib_stored pack data _ =>
    turn before + 1 = packs + pack ∧ pack ≤ packs ∧ ∃ regs : Vector UInt16 26,
      Heard client exchange (polls_ended before) pack PIB_BYTE_COUNT regs.toList ∧
        PibDecodes pack.toUInt8 regs data
  | .poll_failed pack _ =>
    1 ≤ pack ∧ pack ≤ packs ∧
      (turn before + 1 = pack ∧ (∀ regs : Vector UInt16 18,
        ¬ Heard client exchange (polls_ended before) pack PIA_BYTE_COUNT regs.toList) ∨
      turn before + 1 = packs + pack ∧ ∀ regs : Vector UInt16 26,
        ¬ Heard client exchange (polls_ended before) pack PIB_BYTE_COUNT regs.toList)
  | .published values => Announced station before values
  | _ => True

/-- The BMS end to end: in every run, over all reconnections and with any notifications at any time,
the polls of a cycle are those of packs 1 to `pack_count` in turn, first PIA and then PIB; a poll
stores a reading exactly if its request was answered with a frame that holds registers of the pack
and of the type, and the reading is what these registers say; and every value that is published is
the reading stored just before, the aggregate of the packs selected just before, the energy of all
the calls so far, or the counters. -/
theorem readings_off_the_air (w : World) (client : Nat → OctopusBleClient)
    (exchange : Nat → Exchange) (cfg : BmsCfg) (hpacks : cfg.pack_count ≤ 4) (station : Station)
    (sessions n : Nat) :
    EachAt (OffTheAir client exchange cfg.pack_count.toNat station)
      (after (w.over_the_air client exchange) cfg station sessions n).trace := by
  have hfour : cfg.pack_count.toNat ≤ 4 := by omega
  have hturned := turned_after (w.over_the_air client exchange) cfg station sessions n
    (expected_over_the_air hfour)
  intro before event later htrace
  have hevent := hturned.explained before event later htrace
  cases event with
  | pia_stored pack data seen_t =>
    obtain ⟨hle, hturn, hpoll⟩ := hevent
    exact ⟨hturn, hle, heard_of_poll_pia ⟨by omega, by omega⟩ hpoll⟩
  | pib_stored pack data seen_t =>
    obtain ⟨hone, hle, hturn, hpoll⟩ := hevent
    exact ⟨hturn, hle, heard_of_poll_pib ⟨hone, by omega⟩ hpoll⟩
  | poll_failed pack connected =>
    obtain ⟨-, hone, hle, hfailed⟩ := hevent
    refine ⟨hone, hle, hfailed.imp ?_ ?_⟩
    · rintro ⟨hturn, e, hpoll⟩
      exact ⟨hturn, not_heard_of_poll_pia ⟨hone, by omega⟩ hpoll⟩
    · rintro ⟨hturn, e, hpoll⟩
      exact ⟨hturn, not_heard_of_poll_pib ⟨hone, by omega⟩ hpoll⟩
  | published values => exact hevent
  | _ => trivial

/-- Of the frames that come in, the third is the response of pack 1. -/
def third_frame : Exchange where
  before_wait := [[0x01, 0x04], make_response 2 (List.replicate 18 0)]
  write_error := none
  arrivals attempt := if attempt = 2 then [make_response 1 (List.replicate 18 7)] else []
  times_out _ := false

def Event.soc_pct : Event → Option ℚ
  | .pia_stored _ data _ => some data.soc_pct
  | _ => none

theorem readings_off_the_air_third_frame :
    let trace := (after (pib_only_world.over_the_air (fun _ => ⟨true, []⟩) fun _ => third_frame)
      { pack_count := 1 } fresh_station 1 1).trace
    trace.filterMap Event.soc_pct = [7 / 10] ∧
      EachAt (OffTheAir (fun _ => ⟨true, []⟩) (fun _ => third_frame) 1 fresh_station) trace :=
  ⟨by decide +kernel, readings_off_the_air pib_only_world _ _ { pack_count := 1 } (by decide) _ 1 1⟩

end inverter_bridge.bms.service
