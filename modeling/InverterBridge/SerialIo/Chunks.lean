import Mathlib.Data.List.Infix
import InverterBridge.SerialIo.Query
import InverterBridge.SerialIo.SharedBus

open Python GrowingBuffer
open inverter_bridge.crc inverter_bridge.modbus

namespace inverter_bridge.serial_io

/-- `buf` contains `slave, 0x83, code` followed by its CRC, wherever those bytes
come from. -/
def ExceptionWindow (slave : UInt8) (buf : Bytes) : Prop :=
  ∃ before code after, buf = before ++ ([slave, 0x83, code] ++ crc16 [slave, 0x83, code] ++ after)

/-- The window stands at the very head of `buf`. -/
def ExceptionHead (slave : UInt8) (buf : Bytes) : Prop :=
  ∃ code after, buf = [slave, 0x83, code] ++ crc16 [slave, 0x83, code] ++ after

theorem exceptionWindow_cons_iff {slave b : UInt8} {tail : Bytes} :
    ExceptionWindow slave (b :: tail) ↔
      ExceptionHead slave (b :: tail) ∨ ExceptionWindow slave tail := by
  constructor
  · rintro ⟨before, code, after, heq⟩
    cases before with
    | nil => exact .inl ⟨code, after, heq⟩
    | cons b' before =>
      rw [List.cons_append, List.cons.injEq] at heq
      exact .inr ⟨before, code, after, heq.2⟩
  · rintro (⟨code, after, heq⟩ | ⟨before, code, after, rfl⟩)
    · exact ⟨[], code, after, heq⟩
    · exact ⟨b :: before, code, after, rfl⟩

theorem exceptionHead_iff {slave b : UInt8} {tail : Bytes} :
    ExceptionHead slave (b :: tail) ↔
      (b = slave ∧ tail.head? = some 0x83) ∧ 5 ≤ (b :: tail).length ∧
        crc_matches ((b :: tail).take 5) = true := by
  constructor
  · rintro ⟨code, after, heq⟩
    have htake : (b :: tail).take 5 = [slave, 0x83, code] ++ crc16 [slave, 0x83, code] := by
      rw [heq]
      rfl
    refine ⟨?_, by simp [heq], by rw [htake, crc_matches_append]⟩
    simp only [List.cons_append, List.cons.injEq] at heq
    exact ⟨heq.1, by rw [heq.2, List.head?_cons]⟩
  · rintro ⟨⟨rfl, hhead⟩, hlen, hcrc⟩
    match tail with
    | m :: code :: c1 :: c2 :: after =>
      rw [List.head?_cons, Option.some.injEq] at hhead
      subst hhead
      simp only [List.take_succ_cons, List.take_zero, crc_matches, beq_iff_eq] at hcrc
      exact ⟨code, after, congrArg (b :: 0x83 :: code :: · ++ after) hcrc.symm⟩

/-- The substring search finds an exception exactly when such a window is there. -/
theorem find_exception_isSome_iff (slave : UInt8) (buf : Bytes) :
    (find_exception slave buf).isSome = true ↔ ExceptionWindow slave buf := by
  induction buf with
  | nil => simp [find_exception, ExceptionWindow]
  | cons b tail ih =>
    rw [exceptionWindow_cons_iff, exceptionHead_iff, find_exception]
    split_ifs with hmarker hlen hcrc
    · exact iff_of_true rfl (.inl ⟨hmarker, hlen, hcrc⟩)
    · rw [ih]
      exact ⟨.inr, fun h => h.resolve_left fun hhead => hcrc hhead.2.2⟩
    · refine iff_of_false (by simp) ?_
      rintro (hhead | ⟨before, code, after, rfl⟩)
      · exact hlen hhead.2.1
      · simp only [List.length_cons, List.length_append, crc16_length] at hlen
        omega
    · rw [ih]
      exact ⟨.inr, fun h => h.resolve_left fun hhead => hmarker hhead.1⟩

/-- One response of our own, as it arrives on a quiet bus. -/
def own_response : Bytes := (BusFrame.response ⟨1, slave_1_admitted⟩ ⟨[0x1000], by decide⟩).encode

/-- It can arrive one byte at a time. -/
def own_response_bytes : List Bytes := own_response.map fun b => [b]

theorem chunking_own_response_bytes : Chunking own_response own_response_bytes :=
  ⟨by decide +kernel, by decide +kernel⟩

/-- The LCD's read of another block of our size, then our own response. -/
def decoy_then_own : List Bytes :=
  [encode_all (lcd_frames ⟨1, slave_1_admitted⟩
      [⟨0x0300, 1, .registers ⟨[0xDEAD], by decide⟩ rfl⟩]),
    own_response]

/-- The LCD's read of a block the slave refuses. -/
def lcd_refused : Bytes :=
  encode_all (lcd_frames ⟨1, slave_1_admitted⟩ [⟨0x0300, 1, .exception 0x83 0x02 (by decide)⟩])

section

variable (slave : UInt8) (addr : UInt16) (count : Nat) (received : Bytes)

/-- The outcome does not depend on how the received bytes are cut into reads
exactly when no proper prefix is answered in its own way. -/
theorem query_chunk_independent_iff (hcount : 1 ≤ count ∧ count ≤ 125) :
    (∀ chunks, Chunking received chunks →
      (query slave addr count chunks).outcome = (query slave addr count [received]).outcome) ↔
    ∀ first, first ≠ [] → first <+: received → first ≠ received →
      answer slave addr count first = none ∨
        answer slave addr count first = answer slave addr count received := by
  obtain rfl | hreceived := eq_or_ne received []
  · refine iff_of_true ?_ fun first hne hpre => absurd (List.prefix_nil.mp hpre) hne
    intro chunks hchunking
    have hnil : chunks = [] := by
      by_contra hne
      obtain ⟨chunk, rest, rfl⟩ := List.exists_cons_of_ne_nil hne
      have hflat := hchunking.flatten_eq
      rw [List.flatten_cons] at hflat
      exact hchunking.nonempty chunk (by simp) (List.append_eq_nil_iff.mp hflat).1
    subst hnil
    simp only [query, build_read_holding_request_ok slave addr hcount, query_loop, if_true]
  · rw [← result_chunk_independent_iff hreceived]
    refine forall_congr' fun chunks => imp_congr_right fun hchunking => ?_
    have hone : ∀ chunk ∈ [received], chunk ≠ [] := by simpa using hreceived
    rw [query_eq hcount hchunking.nonempty, query_eq hcount hone]
    constructor
    · intro hsame
      rcases hl : result (answer slave addr count) [] chunks with _ | (f | e) <;>
        rcases hr : result (answer slave addr count) [] [received] with _ | (f' | e') <;>
        simp_all [outcome_of]
    · intro hsame
      rcases result_cases (answer slave addr count) chunks [] with
        ⟨look, -, hres, hsome⟩ | ⟨hres, hfinal, -⟩
      · rw [hres] at hsame
        rw [hres, ← hsame]
        obtain ⟨found, hfound⟩ := Option.isSome_iff_exists.mp hsome
        cases found <;> simp [hfound, outcome_of]
      · have hall : final (answer slave addr count) [] [received] = received := by
          simp [final, looks]
        rw [hfinal, hall, hchunking.flatten_eq, hsame, List.nil_append]

theorem query_chunk_independent_iff_own_response :
    (query 1 0x0100 1 own_response_bytes).outcome = (query 1 0x0100 1 [own_response]).outcome := by
  have hprefixes : ∀ first ∈ own_response.inits, first ≠ [] → first ≠ own_response →
      answer 1 0x0100 1 first = none ∨
        answer 1 0x0100 1 first = answer 1 0x0100 1 own_response := by decide +kernel
  exact (query_chunk_independent_iff 1 0x0100 1 own_response (by decide)).mpr
    (fun first hne hpre hproper => hprefixes first ((List.mem_inits _ _).mpr hpre) hne hproper)
    own_response_bytes chunking_own_response_bytes

/-- Delivered in two reads the decoy is returned, in one read our own response. -/
theorem query_depends_on_chunks :
    ¬ ∀ chunks, Chunking decoy_then_own.flatten chunks →
      (query 1 0x0204 1 chunks).outcome = (query 1 0x0204 1 [decoy_then_own.flatten]).outcome := by
  intro hindep
  have hchunking : Chunking decoy_then_own.flatten decoy_then_own := ⟨by decide +kernel, rfl⟩
  have hdiffer : (query 1 0x0204 1 decoy_then_own).outcome ≠
      (query 1 0x0204 1 [decoy_then_own.flatten]).outcome := by decide +kernel
  exact hdiffer (hindep _ hchunking)

/-- A query never raises `ModbusException`, however the bytes are cut, exactly
when every prefix that contains an exception window is already answered by a
frame. -/
theorem query_never_raises_iff (hcount : 1 ≤ count ∧ count ≤ 125) :
    (∀ chunks, Chunking received chunks →
      ∀ e, (query slave addr count chunks).outcome ≠ .modbusException e) ↔
    ∀ first, first ≠ [] → first <+: received → ExceptionWindow slave first →
      (select_response first slave addr count).isSome = true := by
  have hraised : ∀ first, (∀ b, answer slave addr count first = some b → ¬ b.isRight = true) ↔
      (ExceptionWindow slave first → (select_response first slave addr count).isSome = true) := by
    intro first
    rw [← find_exception_isSome_iff]
    rcases hselect : select_response first slave addr count with _ | f <;>
      rcases hexc : find_exception slave first with _ | e <;>
      simp [answer, hselect, hexc]
  have houtcome : ∀ chunks, Chunking received chunks →
      ((∀ e, (query slave addr count chunks).outcome ≠ .modbusException e) ↔
        ∀ b, result (answer slave addr count) [] chunks = some b → ¬ b.isRight = true) := by
    intro chunks hchunking
    rw [query_eq hcount hchunking.nonempty]
    rcases hres : result (answer slave addr count) [] chunks with _ | (f | e) <;> simp [outcome_of]
  have hnever := result_never_iff (answer slave addr count) received
    fun b => b.isRight = true
  rw [forall_congr' fun chunks => imp_congr_right (houtcome chunks), hnever]
  exact forall_congr' fun first => imp_congr_right fun _ => imp_congr_right fun _ => hraised first

theorem query_never_raises_iff_own_response :
    (query 1 0x0100 1 own_response_bytes).outcome ≠ .modbusException ⟨1, 0x03, 0x02⟩ := by
  have hnone : ∀ first ∈ own_response.inits, find_exception 1 first = none := by decide +kernel
  refine (query_never_raises_iff 1 0x0100 1 own_response (by decide)).mpr
    (fun first _ hpre hwindow => ?_) own_response_bytes chunking_own_response_bytes _
  rw [← find_exception_isSome_iff, hnone first ((List.mem_inits _ _).mpr hpre)] at hwindow
  cases hwindow

/-- The slave's refusal of an LCD request is raised as if it answered ours. -/
theorem query_raises_lcd_exception :
    ¬ ∀ chunks, Chunking lcd_refused chunks →
      ∀ e, (query 1 0x0100 1 chunks).outcome ≠ .modbusException e := by
  intro hnever
  have hraised : (query 1 0x0100 1 [lcd_refused]).outcome = .modbusException ⟨1, 0x03, 0x02⟩ := by
    decide +kernel
  exact hnever [lcd_refused] ⟨by decide +kernel, by simp⟩ _ hraised

end

end inverter_bridge.serial_io
