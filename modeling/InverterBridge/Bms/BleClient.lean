import InverterBridge.Bms.OctopusProtocol

open Python
open inverter_bridge.crc inverter_bridge.bms.octopus_protocol

namespace inverter_bridge.bms.ble_client

/-- An exception that a poll raises. -/
inductive PollError where
  | TimeoutError (message : String)
  | BleakError (message : String)
  | DecodeError (message : String)
  | ValueError (message : String)
  | RuntimeError (message : String)
  deriving DecidableEq

/-- The exceptions a caller of `poll_pia` and `poll_pib` counts as a failed poll. -/
def PollError.is_failed_poll : PollError → Bool
  | .TimeoutError _ | .BleakError _ | .DecodeError _ => true
  | .ValueError _ | .RuntimeError _ => false

/-- The client between two requests: whether it is connected, and the frames that were
notified and not read yet. -/
structure OctopusBleClient where
  is_connected : Bool
  notify_q : List Bytes

/-- What happens during one request: the frames notified until the request is written,
the `BleakError` that writing raises, and for each wait the frames notified during it and
whether it times out. -/
structure Exchange where
  before_wait : List Bytes
  write_error : Option String
  arrivals : Nat → List Bytes
  times_out : Nat → Bool

/-- `await asyncio.wait_for(self._notify_q.get(), timeout)` in the given attempt: the
frame at the head of the queue, if one comes before the timeout, and the queue left. -/
def Exchange.get (during : Exchange) (attempt : Nat) (notify_q : List Bytes) :
    Option Bytes × List Bytes :=
  let notify_q := notify_q ++ during.arrivals attempt
  if during.times_out attempt then (none, notify_q)
  else
    match notify_q with
    | [] => (none, [])
    | response :: notify_q => (some response, notify_q)

/-- The filter on the header: slave, function and byte count. -/
def header_matches (slave expected_byte_count : UInt8) : Bytes → Bool
  | r0 :: r1 :: r2 :: _ => r0 == slave && r1 == 0x04 && r2 == expected_byte_count
  | _ => false

/-- The loop over the attempts in `_request`. -/
def await_response (during : Exchange) (slave expected_byte_count : UInt8)
    (notify_q : List Bytes) : List Nat → Except PollError Bytes × List Bytes
  | [] =>
    (.error (.TimeoutError
      s!"3 frames spurios consecutivos sin response valido slave={slave.toNat}"), notify_q)
  | attempt :: attempts =>
    match during.get attempt notify_q with
    | (none, notify_q) => (.error (.TimeoutError ""), notify_q)
    | (some response, notify_q) =>
      if header_matches slave expected_byte_count response then (.ok response, notify_q)
      else await_response during slave expected_byte_count notify_q attempts

/-- `_request(frame, slave, expected_byte_count)`, with the queue it leaves: what was
queued before is thrown away. -/
def OctopusBleClient.request (self : OctopusBleClient) (during : Exchange)
    (slave expected_byte_count : UInt8) : Except PollError Bytes × List Bytes :=
  if ¬ self.is_connected then (.error (.BleakError "not connected"), self.notify_q)
  else
    match during.write_error with
    | some message => (.error (.BleakError message), during.before_wait)
    | none =>
      await_response during slave expected_byte_count during.before_wait (List.range 3)

/-- The type of a decoded response. -/
def type_name : Response → String
  | .pia _ => "PiaData"
  | .pib _ => "PibData"

/-- `poll_pia(pack)`, with the queue it leaves. -/
def OctopusBleClient.poll_pia (self : OctopusBleClient) (during : Exchange) (pack : Int) :
    Except PollError PiaData × List Bytes :=
  if ¬ (1 ≤ pack ∧ pack ≤ 4) then
    (.error (.ValueError s!"pack debe ser 1..4, got {pack}"), self.notify_q)
  else
    match self.request during pack.toNat.toUInt8 0x24 with
    | (.error e, notify_q) => (.error e, notify_q)
    | (.ok response, notify_q) =>
      match parse_response response with
      | .error e => (.error (.DecodeError e.message), notify_q)
      | .ok (.pia result) => (.ok result, notify_q)
      | .ok result =>
        (.error (.RuntimeError s!"expected PiaData, got {type_name result}"), notify_q)

/-- `poll_pib(pack)`, with the queue it leaves. -/
def OctopusBleClient.poll_pib (self : OctopusBleClient) (during : Exchange) (pack : Int) :
    Except PollError PibData × List Bytes :=
  if ¬ (1 ≤ pack ∧ pack ≤ 4) then
    (.error (.ValueError s!"pack debe ser 1..4, got {pack}"), self.notify_q)
  else
    match self.request during pack.toNat.toUInt8 0x34 with
    | (.error e, notify_q) => (.error e, notify_q)
    | (.ok response, notify_q) =>
      match parse_response response with
      | .error e => (.error (.DecodeError e.message), notify_q)
      | .ok (.pib result) => (.ok result, notify_q)
      | .ok result =>
        (.error (.RuntimeError s!"expected PibData, got {type_name result}"), notify_q)

/-- The frames notified while the request is under way. -/
def Exchange.Notified (during : Exchange) (frame : Bytes) : Prop :=
  frame ∈ during.before_wait ∨ ∃ attempt, frame ∈ during.arrivals attempt

/-- A frame that a request for `slave` and `byte_count` takes for its response, with a
valid CRC. -/
structure Answers (during : Exchange) (slave byte_count : UInt8) (frame : Bytes) : Prop where
  notified : during.Notified frame
  header : header_matches slave byte_count frame = true
  crc : verify_crc frame = true

section

variable {during : Exchange} {slave byte_count : UInt8} {notify_q : List Bytes}

/-- What a wait takes out and what it leaves was in the queue, or came in during it. -/
theorem Exchange.get_notified {attempt : Nat} (hqueue : ∀ frame ∈ notify_q, during.Notified frame) :
    (∀ frame ∈ (during.get attempt notify_q).1, during.Notified frame) ∧
      ∀ frame ∈ (during.get attempt notify_q).2, during.Notified frame := by
  have hall : ∀ frame ∈ notify_q ++ during.arrivals attempt, during.Notified frame :=
    List.forall_mem_append.mpr ⟨hqueue, fun frame hframe => .inr ⟨attempt, hframe⟩⟩
  unfold Exchange.get
  dsimp only
  split_ifs
  · exact ⟨nofun, hall⟩
  · split
    case h_1 => exact ⟨nofun, nofun⟩
    case h_2 response rest heq =>
      rw [heq, List.forall_mem_cons] at hall
      refine ⟨fun frame hframe => ?_, hall.2⟩
      cases hframe
      exact hall.1

/-- A response that is accepted was notified and passes the filter; otherwise the request
times out. -/
theorem await_response_spec {attempts : List Nat}
    (hqueue : ∀ frame ∈ notify_q, during.Notified frame) :
    match (await_response during slave byte_count notify_q attempts).1 with
    | .error e => ∃ message, e = .TimeoutError message
    | .ok response => during.Notified response ∧ header_matches slave byte_count response = true := by
  induction attempts generalizing notify_q with
  | nil => exact ⟨_, rfl⟩
  | cons attempt attempts ih =>
    obtain ⟨hresponse, hrest⟩ := @Exchange.get_notified during notify_q attempt hqueue
    unfold await_response
    match hget : during.get attempt notify_q with
    | (none, rest) => exact ⟨"", rfl⟩
    | (some response, rest) =>
      rw [hget] at hresponse hrest
      dsimp only
      split_ifs with hmatch
      · exact ⟨hresponse response rfl, hmatch⟩
      · exact ih hrest

theorem OctopusBleClient.request_spec (self : OctopusBleClient) :
    match (self.request during slave byte_count).1 with
    | .error e => e.is_failed_poll = true
    | .ok response => during.Notified response ∧ header_matches slave byte_count response = true := by
  unfold OctopusBleClient.request
  by_cases hconnected : self.is_connected
  · rw [if_neg (not_not.mpr hconnected)]
    cases during.write_error with
    | some message => rfl
    | none =>
      have hawait := @await_response_spec during slave byte_count during.before_wait (List.range 3)
        fun _ hframe => .inl hframe
      dsimp only
      cases hresult : (await_response during slave byte_count during.before_wait (List.range 3)).1 with
      | ok response =>
        rw [hresult] at hawait
        exact hawait
      | error e =>
        rw [hresult] at hawait
        obtain ⟨message, rfl⟩ := hawait
        rfl
  · rw [if_pos hconnected]
    rfl

/-- The filter and the decoder agree on the pack and the type of a response. -/
theorem OctopusBleClient.request_decoded {self : OctopusBleClient} {frame : Bytes}
    {response : Response} (hrequest : (self.request during slave byte_count).1 = .ok frame)
    (hparse : parse_response frame = .ok response) :
    Answers during slave byte_count frame ∧ response.byte_count = byte_count ∧
      response.pack = slave.toNat := by
  have hspec := @OctopusBleClient.request_spec during slave byte_count self
  rw [hrequest] at hspec
  obtain ⟨hnotified, hheader⟩ := hspec
  obtain ⟨hcrc, slave', body, rfl, hpack⟩ := parse_response_ok hparse
  refine ⟨⟨hnotified, hheader, hcrc⟩, ?_⟩
  simp only [header_matches, Bool.and_eq_true, beq_iff_eq] at hheader
  exact ⟨hheader.2, by rw [hpack, hheader.1.1]⟩

end

/-- The slave address of a pack is its number. -/
theorem slave_of_pack {pack : Nat} (hpack : 1 ≤ pack ∧ pack ≤ 4) : pack.toUInt8.toNat = pack := by
  rw [Nat.toUInt8_eq, UInt8.toNat_ofNat']
  omega

theorem OctopusBleClient.poll_pia_spec (self : OctopusBleClient) (during : Exchange) {pack : Nat}
    (hpack : 1 ≤ pack ∧ pack ≤ 4) :
    match (self.poll_pia during pack).1 with
    | .error e => e.is_failed_poll = true
    | .ok pia => pia.pack = pack ∧ ∃ frame,
      Answers during pack.toUInt8 PIA_BYTE_COUNT frame ∧ parse_response frame = .ok (.pia pia) := by
  have hrange : 1 ≤ (pack : Int) ∧ (pack : Int) ≤ 4 := by omega
  have hfailed := @OctopusBleClient.request_spec during pack.toUInt8 PIA_BYTE_COUNT self
  have hdecoded := @OctopusBleClient.request_decoded during pack.toUInt8 PIA_BYTE_COUNT self
  unfold OctopusBleClient.poll_pia
  rw [if_neg (not_not.mpr hrange), Int.toNat_natCast, ← PIA_BYTE_COUNT]
  match hrequest : self.request during pack.toUInt8 PIA_BYTE_COUNT with
  | (.error e, notify_q) =>
    rw [hrequest] at hfailed
    exact hfailed
  | (.ok frame, notify_q) =>
    rw [hrequest] at hdecoded
    dsimp only
    cases hparse : parse_response frame with
    | error e => rfl
    | ok response =>
      obtain ⟨hanswers, hcount, hslave⟩ := hdecoded rfl hparse
      cases response with
      | pia data => exact ⟨hslave.trans (slave_of_pack hpack), frame, hanswers, hparse⟩
      | pib data => exact absurd hcount (show PIB_BYTE_COUNT ≠ PIA_BYTE_COUNT by decide)

theorem OctopusBleClient.poll_pib_spec (self : OctopusBleClient) (during : Exchange) {pack : Nat}
    (hpack : 1 ≤ pack ∧ pack ≤ 4) :
    match (self.poll_pib during pack).1 with
    | .error e => e.is_failed_poll = true
    | .ok pib => pib.pack = pack ∧ ∃ frame,
      Answers during pack.toUInt8 PIB_BYTE_COUNT frame ∧ parse_response frame = .ok (.pib pib) := by
  have hrange : 1 ≤ (pack : Int) ∧ (pack : Int) ≤ 4 := by omega
  have hfailed := @OctopusBleClient.request_spec during pack.toUInt8 PIB_BYTE_COUNT self
  have hdecoded := @OctopusBleClient.request_decoded during pack.toUInt8 PIB_BYTE_COUNT self
  unfold OctopusBleClient.poll_pib
  rw [if_neg (not_not.mpr hrange), Int.toNat_natCast, ← PIB_BYTE_COUNT]
  match hrequest : self.request during pack.toUInt8 PIB_BYTE_COUNT with
  | (.error e, notify_q) =>
    rw [hrequest] at hfailed
    exact hfailed
  | (.ok frame, notify_q) =>
    rw [hrequest] at hdecoded
    dsimp only
    cases hparse : parse_response frame with
    | error e => rfl
    | ok response =>
      obtain ⟨hanswers, hcount, hslave⟩ := hdecoded rfl hparse
      cases response with
      | pia data => exact absurd hcount (show PIA_BYTE_COUNT ≠ PIB_BYTE_COUNT by decide)
      | pib data => exact ⟨hslave.trans (slave_of_pack hpack), frame, hanswers, hparse⟩

/-- A poll of a pack fails in one of the expected ways, or returns data of that pack and of
the type asked for, decoded from a frame with a valid CRC that came in meanwhile and
passed the filter. -/
theorem poll_attribution (self : OctopusBleClient) (during : Exchange) {pack : Nat}
    (hpack : 1 ≤ pack ∧ pack ≤ 4) :
    (match (self.poll_pia during pack).1 with
      | .error e => e.is_failed_poll = true
      | .ok pia => pia.pack = pack ∧ ∃ frame,
        Answers during pack.toUInt8 PIA_BYTE_COUNT frame ∧ parse_response frame = .ok (.pia pia)) ∧
    (match (self.poll_pib during pack).1 with
      | .error e => e.is_failed_poll = true
      | .ok pib => pib.pack = pack ∧ ∃ frame,
        Answers during pack.toUInt8 PIB_BYTE_COUNT frame ∧ parse_response frame = .ok (.pib pib)) :=
  ⟨self.poll_pia_spec during hpack, self.poll_pib_spec during hpack⟩

/-- The three frames of a poll: one of another pack, a corrupted one and the response. -/
def noisy_exchange : Exchange where
  before_wait := []
  write_error := none
  arrivals attempt :=
    let body (pack : UInt8) : Bytes := [pack, 0x04, 0x24] ++ List.replicate 36 0
    let crc := (crc16_modbus (body 2)).toUInt8 :: [(crc16_modbus (body 2) >>> 8).toUInt8]
    [[body 1 ++ [0, 0], [0x02, 0x03], body 2 ++ crc].getD attempt []]
  times_out _ := false

theorem poll_attribution_noisy : ∃ pia,
    ((⟨true, []⟩ : OctopusBleClient).poll_pia noisy_exchange (2 : Nat)).1 = .ok pia ∧
      pia.pack = 2 := by
  have hok : ((⟨true, []⟩ : OctopusBleClient).poll_pia noisy_exchange (2 : Nat)).1.isOk := by
    decide +kernel
  have hpolled := @poll_attribution ⟨true, []⟩ noisy_exchange 2 (by decide)
  generalize ((⟨true, []⟩ : OctopusBleClient).poll_pia noisy_exchange (2 : Nat)).1 = polled
    at hpolled hok ⊢
  cases polled with
  | ok pia => exact ⟨pia, rfl, hpolled.1.1⟩
  | error e => cases hok

end inverter_bridge.bms.ble_client
