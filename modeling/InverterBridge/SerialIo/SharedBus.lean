import InverterBridge.SerialIo.Select

open inverter_bridge.crc inverter_bridge.modbus

namespace inverter_bridge.serial_io

/-- The registers of a response of exactly `count` registers. -/
def BusFrame.registers_of_size (count : Nat) : BusFrame → Option Registers
  | .response _ regs => if regs.val.length = count then some regs else none
  | _ => none

/-- What the slave sends back to one request of the LCD. -/
inductive LcdReply (count : UInt16) where
  | registers (regs : Registers) (hcount : regs.val.length = count.toNat)
  | exception (func excode : UInt8) (hfunc : func &&& EXCEPTION_BIT ≠ 0)

/-- One exchange between the LCD and our slave. -/
structure LcdTransaction where
  addr : UInt16
  count : UInt16
  reply : LcdReply count

def LcdReply.frame {count : UInt16} (slave : SlaveId) : LcdReply count → BusFrame
  | .registers regs _ => .response slave regs
  | .exception func excode hfunc => .exception slave func excode hfunc

/-- The request of an exchange, then its reply. -/
def LcdTransaction.frames (slave : SlaveId) (t : LcdTransaction) : List BusFrame :=
  [.request slave t.addr t.count, t.reply.frame slave]

/-- The LCD's side of the bus. -/
def lcd_frames (slave : SlaveId) (lcd : List LcdTransaction) : List BusFrame :=
  lcd.flatMap (LcdTransaction.frames slave)

/-- The registers an exchange was answered with. -/
def LcdTransaction.answer (t : LcdTransaction) : Option Registers :=
  match t.reply with
  | .registers regs _ => some regs
  | .exception .. => none

/-- A shared bus while we wait for `addr`: our own response `own`, whose request
does not echo, stands at an arbitrary place among the LCD's frames. -/
structure SharedBus where
  slave : SlaveId
  addr : UInt16
  own : Registers
  lcd : List LcdTransaction
  before : List BusFrame
  after : List BusFrame
  hsplit : before ++ after = lcd_frames slave lcd
  hclear : RequestsUnambiguous (before ++ .response slave own :: after)

namespace SharedBus

/-- The bytes on the wire. -/
def stream (bus : SharedBus) : Bytes :=
  encode_all (bus.before ++ .response bus.slave bus.own :: bus.after)

/-- The number of registers we asked for. -/
def count (bus : SharedBus) : Nat := bus.own.val.length

/-- `regs` is the data of the address we asked for: our own response, or what
the LCD got when it read that address. -/
def HoldsData (bus : SharedBus) (regs : List UInt16) : Prop :=
  regs = bus.own.val ∨
    ∃ t ∈ bus.lcd, t.addr = bus.addr ∧ ∃ words, t.answer = some words ∧ regs = words.val

/-- The selection returns a frame of ours that holds the data of our address. -/
def AddressCorrect (bus : SharedBus) : Prop :=
  ∃ regs, select_response bus.stream bus.slave.val bus.addr bus.count =
    some ⟨bus.slave.val, FC_READ_HOLDING, regs⟩ ∧ bus.HoldsData regs

/-- The LCD itself read our block, in our size, and was answered. -/
def LcdReadOurs (bus : SharedBus) : Prop :=
  ∃ t ∈ bus.lcd, t.addr = bus.addr ∧ ∃ words, t.answer = some words ∧ words.val.length = bus.count

/-- The LCD's reply that our response has cut off from its request, if it has
our size. -/
def displaced (bus : SharedBus) : Option Registers :=
  bus.after.head?.bind (BusFrame.registers_of_size bus.count)

/-- The first LCD reply of our size in front of our response. -/
def earlier_lookalike (bus : SharedBus) : Option Registers :=
  bus.before.findSome? (BusFrame.registers_of_size bus.count)

/-- The LCD reply that is preferred to a response of ours that stands behind an
unanswered request. -/
def decoy (bus : SharedBus) : Option Registers := bus.displaced <|> bus.earlier_lookalike

/-- No decoy can win: the LCD has read our block, or our response does not stand
behind a request for another address, or there is no decoy with other data. -/
def DecoyFree (bus : SharedBus) : Prop :=
  bus.LcdReadOurs ∨ context_of bus.slave bus.before = none ∨
    context_of bus.slave bus.before = some bus.addr ∨
    ∀ regs, bus.decoy = some regs → regs = bus.own

end SharedBus

/-- The paired responses of complete LCD exchanges. -/
def lcd_paired (slave : SlaveId) (lcd : List LcdTransaction) :
    List (ModbusFrame × Option UInt16) :=
  lcd.filterMap fun t => t.answer.map fun regs =>
    (⟨slave.val, FC_READ_HOLDING, regs.val⟩, some t.addr)

theorem lcd_frames_cons (slave : SlaveId) (t : LcdTransaction) (lcd : List LcdTransaction) :
    lcd_frames slave (t :: lcd) =
      .request slave t.addr t.count :: t.reply.frame slave :: lcd_frames slave lcd := rfl

/-- A response right behind a request is paired with the address of that request. -/
theorem context_of_append_request (slave : SlaveId) (before : List BusFrame) (addr count : UInt16) :
    context_of slave (before ++ [.request slave addr count]) = some addr := by
  rw [context_of_eq_some_iff, last_read_append]
  exact ⟨count, rfl⟩

theorem context_of_append_response (slave other : SlaveId) (before : List BusFrame)
    (regs : Registers) : context_of slave (before ++ [.response other regs]) = none := by
  rw [context_of, last_read_append]
  rfl

/-- Complete exchanges are paired correctly whatever stands in front of them. -/
theorem paired_lcd_frames (slave : SlaveId) (before : List BusFrame) (lcd : List LcdTransaction) :
    paired before (lcd_frames slave lcd) = lcd_paired slave lcd := by
  induction lcd generalizing before with
  | nil => rfl
  | cons t lcd ih =>
    obtain ⟨addr, count, reply⟩ := t
    rw [lcd_frames_cons]
    cases reply with
    | registers regs hcount =>
      simp only [paired, LcdReply.frame, context_of_append_request, ih]
      rfl
    | exception func excode hfunc =>
      simp only [paired, LcdReply.frame, ih]
      rfl

/-- A reply behind another response is paired with no address. -/
theorem paired_cut_reply (slave other : SlaveId) (before : List BusFrame) (own : Registers)
    (t : LcdTransaction) (later : List LcdTransaction) :
    paired (before ++ [.response other own]) (t.reply.frame slave :: lcd_frames slave later) =
      (t.answer.map fun regs => (⟨slave.val, FC_READ_HOLDING, regs.val⟩, none)).toList ++
        lcd_paired slave later := by
  obtain ⟨addr, count, reply⟩ := t
  cases reply with
  | registers regs hcount =>
    simp only [LcdReply.frame, paired, context_of_append_response, paired_lcd_frames]
    rfl
  | exception func excode hfunc =>
    simp only [LcdReply.frame, paired, paired_lcd_frames]
    rfl

theorem registers_of_size_reply (slave : SlaveId) (size : Nat) (t : LcdTransaction) :
    (t.reply.frame slave).registers_of_size size =
      t.answer.filter fun regs => regs.val.length = size := by
  obtain ⟨addr, count, reply⟩ := t
  cases reply with
  | registers regs hcount =>
    simp [LcdReply.frame, BusFrame.registers_of_size, LcdTransaction.answer, Option.filter]
  | exception func excode hfunc => rfl

/-- Cutting the LCD's frames anywhere cuts between two exchanges or inside one. -/
theorem lcd_frames_split (slave : SlaveId) {before after : List BusFrame}
    {lcd : List LcdTransaction} (hsplit : before ++ after = lcd_frames slave lcd) :
    (∃ earlier later, lcd = earlier ++ later ∧ before = lcd_frames slave earlier ∧
      after = lcd_frames slave later) ∨
    ∃ earlier t later, lcd = earlier ++ t :: later ∧
      before = lcd_frames slave earlier ++ [.request slave t.addr t.count] ∧
      after = t.reply.frame slave :: lcd_frames slave later := by
  induction lcd generalizing before with
  | nil =>
    obtain ⟨rfl, rfl⟩ := List.append_eq_nil_iff.mp hsplit
    exact .inl ⟨[], [], rfl, rfl, rfl⟩
  | cons t lcd ih =>
    rw [lcd_frames_cons] at hsplit
    match before with
    | [] => exact .inl ⟨[], t :: lcd, rfl, rfl, by rwa [lcd_frames_cons]⟩
    | [frame] =>
      rw [List.singleton_append, List.cons.injEq] at hsplit
      obtain ⟨rfl, rfl⟩ := hsplit
      exact .inr ⟨[], t, lcd, rfl, rfl, rfl⟩
    | frame :: frame' :: before =>
      simp only [List.cons_append, List.cons.injEq] at hsplit
      obtain ⟨rfl, rfl, hrest⟩ := hsplit
      obtain ⟨earlier, later, rfl, rfl, rfl⟩ | ⟨earlier, t', later, rfl, rfl, rfl⟩ := ih hrest
      · exact .inl ⟨t :: earlier, later, rfl, rfl, rfl⟩
      · exact .inr ⟨t :: earlier, t', later, rfl, rfl, rfl⟩

theorem mem_lcd_paired {slave : SlaveId} {lcd : List LcdTransaction}
    {p : ModbusFrame × Option UInt16} :
    p ∈ lcd_paired slave lcd ↔ ∃ t ∈ lcd, ∃ regs, t.answer = some regs ∧
      p = (⟨slave.val, FC_READ_HOLDING, regs.val⟩, some t.addr) := by
  simp only [lcd_paired, List.mem_filterMap, Option.map_eq_some_iff]
  exact exists_congr fun t => and_congr_right fun _ => exists_congr fun regs =>
    and_congr_right fun _ => eq_comm

/-- The first exchange answered with `count` registers, seen in the frames and in
the paired responses. -/
theorem find?_lcd_paired (slave : SlaveId) (count : Nat) (lcd : List LcdTransaction) :
    ((lcd_paired slave lcd).find? fun p => p.1.slave == slave.val && p.1.regs.length == count).map
        Prod.fst =
      ((lcd_frames slave lcd).findSome? (BusFrame.registers_of_size count)).map
        fun regs => ⟨slave.val, FC_READ_HOLDING, regs.val⟩ := by
  induction lcd with
  | nil => rfl
  | cons t lcd ih =>
    obtain ⟨addr, size, reply⟩ := t
    rw [lcd_frames_cons, List.findSome?_cons_of_isNone rfl]
    cases reply with
    | registers regs hcount =>
      change ((_ :: lcd_paired slave lcd).find? _).map _ = _
      by_cases hsize : regs.val.length = count
      · simp [LcdReply.frame, BusFrame.registers_of_size, hsize]
      · rw [List.find?_cons_of_neg (by simp [hsize]), ih, List.findSome?_cons_of_isNone]
        simp [LcdReply.frame, BusFrame.registers_of_size, hsize]
    | exception func excode hfunc =>
      rw [List.findSome?_cons_of_isNone rfl]
      exact ih

namespace SharedBus

/-- The paired responses of the whole bus: complete exchanges, ours with the
request it stands behind, a displaced reply as an orphan, complete exchanges. -/
theorem paired_eq (bus : SharedBus) : ∃ earlier later,
    (∀ t ∈ earlier ++ later, t ∈ bus.lcd) ∧
    (∀ t ∈ bus.lcd, t ∈ earlier ++ later ∨
      context_of bus.slave bus.before = some t.addr) ∧
    bus.before.findSome? (BusFrame.registers_of_size bus.count) =
      (lcd_frames bus.slave earlier).findSome? (BusFrame.registers_of_size bus.count) ∧
    ∃ cut : Option Registers, bus.displaced = cut.filter (fun regs => regs.val.length = bus.count) ∧
      (cut.isSome → context_of bus.slave bus.before ≠ none) ∧
      paired [] (bus.before ++ .response bus.slave bus.own :: bus.after) =
        lcd_paired bus.slave earlier ++
          (⟨bus.slave.val, FC_READ_HOLDING, bus.own.val⟩, context_of bus.slave bus.before) ::
            ((cut.map fun regs => (⟨bus.slave.val, FC_READ_HOLDING, regs.val⟩, none)).toList ++
              lcd_paired bus.slave later) := by
  rcases lcd_frames_split bus.slave bus.hsplit with
    ⟨earlier, later, hlcd, hbefore, hafter⟩ | ⟨earlier, t, later, hlcd, hbefore, hafter⟩
  · refine ⟨earlier, later, by simp [hlcd], fun t ht => .inl (hlcd ▸ ht), by rw [hbefore], none,
      ?_, by simp, ?_⟩
    · rw [displaced, hafter]
      cases later <;> rfl
    · rw [paired_append, List.nil_append, hbefore, paired_lcd_frames, paired, hafter,
        paired_lcd_frames]
      rfl
  · have hctx : context_of bus.slave bus.before = some t.addr := by
      rw [hbefore, context_of_append_request]
    refine ⟨earlier, later, ?_, ?_, ?_, t.answer, ?_, by simp [hctx], ?_⟩
    · intro t' ht'
      rw [hlcd]
      rcases List.mem_append.mp ht' with h | h <;> simp [h]
    · intro t' ht'
      rw [hlcd] at ht'
      simp only [List.mem_append, List.mem_cons] at ht' ⊢
      obtain h | rfl | h := ht'
      · exact .inl (.inl h)
      · exact .inr hctx
      · exact .inl (.inr h)
    · rw [hbefore, List.findSome?_append]
      simp [BusFrame.registers_of_size]
    · rw [displaced, hafter]
      exact registers_of_size_reply bus.slave bus.count t
    · have hpre : paired [] bus.before = lcd_paired bus.slave earlier := by
        rw [hbefore, paired_append, paired_lcd_frames]
        simp [paired]
      rw [paired_append, List.nil_append, paired, hctx, hafter, hpre, paired_cut_reply]

/-- Unless the LCD has read our block, data of our size is ours only if it is our
own response. -/
theorem holdsData_iff_own {bus : SharedBus} (hread : ¬ bus.LcdReadOurs) {regs : Registers}
    (hsize : regs.val.length = bus.count) : bus.HoldsData regs.val ↔ regs = bus.own := by
  constructor
  · rintro (hown | ⟨t, ht, haddr, words, hwords, hregs⟩)
    · exact Subtype.ext hown
    · exact absurd ⟨t, ht, haddr, words, hwords, hregs ▸ hsize⟩ hread
  · rintro rfl
    exact .inl rfl

/-- When the selection returns a reply of our size without the LCD having read
our block, it is correct exactly if that reply carries the words of our own. -/
theorem addressCorrect_iff_of_select {bus : SharedBus} (hread : ¬ bus.LcdReadOurs)
    {regs : Registers} (hsize : regs.val.length = bus.count)
    (hselect : select_response bus.stream bus.slave.val bus.addr bus.count =
      some ⟨bus.slave.val, FC_READ_HOLDING, regs.val⟩) :
    bus.AddressCorrect ↔ regs = bus.own := by
  rw [← holdsData_iff_own hread hsize, AddressCorrect]
  constructor
  · rintro ⟨words, heq, hdata⟩
    rw [hselect, Option.some.injEq, ModbusFrame.mk.injEq] at heq
    exact heq.2.2 ▸ hdata
  · exact fun hdata => ⟨regs.val, hselect, hdata⟩

/-- The responses the scanner finds on the bus, with their addresses. -/
def found (bus : SharedBus) : List (ModbusFrame × Option UInt16) :=
  paired [] (bus.before ++ .response bus.slave bus.own :: bus.after)

theorem select_eq_match_tiers (bus : SharedBus) :
    select_response bus.stream bus.slave.val bus.addr bus.count =
      match_tiers bus.found bus.slave.val bus.addr bus.count := by
  rw [select_response, stream, responses_with_context_encode_all bus.hclear, found]

/-- The first tier has a match when the LCD read our block or our response stands
behind a request for it. -/
theorem exists_exact {bus : SharedBus}
    (hours : bus.LcdReadOurs ∨ context_of bus.slave bus.before = some bus.addr) :
    ∃ p ∈ bus.found, p.1.slave = bus.slave.val ∧ p.1.regs.length = bus.count ∧
      p.2 = some bus.addr := by
  obtain ⟨earlier, later, -, hcover, -, cut, -, -, hfound⟩ := bus.paired_eq
  rw [found, hfound]
  obtain ⟨t, ht, haddr, regs, hregs, hsize⟩ | hctx := hours
  · obtain h | hctx := hcover t ht
    · refine ⟨(⟨bus.slave.val, FC_READ_HOLDING, regs.val⟩, some t.addr), ?_, rfl, hsize, by rw [haddr]⟩
      obtain h | h := List.mem_append.mp h
      · exact List.mem_append_left _ (mem_lcd_paired.mpr ⟨t, h, regs, hregs, rfl⟩)
      · simp [mem_lcd_paired.mpr ⟨t, h, regs, hregs, rfl⟩]
    · exact ⟨_, List.mem_append_right _ (List.mem_cons_self ..), rfl, rfl, by rw [hctx, haddr]⟩
  · exact ⟨_, List.mem_append_right _ (List.mem_cons_self ..), rfl, rfl, hctx⟩

/-- Everything paired with our address is data of our address. -/
theorem exact_sound {bus : SharedBus} {q : ModbusFrame × Option UInt16} (hq : q ∈ bus.found)
    (haddr : q.2 = some bus.addr) :
    ∃ regs, q.1 = ⟨bus.slave.val, FC_READ_HOLDING, regs⟩ ∧ bus.HoldsData regs ∧
      (context_of bus.slave bus.before = some bus.addr ∨
        (q.1.regs.length = bus.count → bus.LcdReadOurs)) := by
  obtain ⟨earlier, later, hmem, -, -, cut, -, -, hfound⟩ := bus.paired_eq
  rw [found, hfound] at hq
  have hexchange {lcd : List LcdTransaction} (hlcd : ∀ t ∈ lcd, t ∈ bus.lcd)
      (hq : q ∈ lcd_paired bus.slave lcd) :
      ∃ regs, q.1 = ⟨bus.slave.val, FC_READ_HOLDING, regs⟩ ∧ bus.HoldsData regs ∧
        (context_of bus.slave bus.before = some bus.addr ∨
          (q.1.regs.length = bus.count → bus.LcdReadOurs)) := by
    obtain ⟨t, ht, regs, hregs, rfl⟩ := mem_lcd_paired.mp hq
    have heq : t.addr = bus.addr := by simpa using haddr
    exact ⟨regs.val, rfl, .inr ⟨t, hlcd t ht, heq, regs, hregs, rfl⟩,
      .inr fun hsize => ⟨t, hlcd t ht, heq, regs, hregs, hsize⟩⟩
  simp only [List.mem_append, List.mem_cons, Option.mem_toList,
    Option.map_eq_some_iff] at hq
  obtain h | rfl | ⟨regs, -, rfl⟩ | h := hq
  · exact hexchange (fun t ht => hmem t (List.mem_append_left _ ht)) h
  · exact ⟨bus.own.val, rfl, .inl rfl, .inl haddr⟩
  · cases haddr
  · exact hexchange (fun t ht => hmem t (List.mem_append_right _ ht)) h

/-- Complete exchanges are never orphans. -/
theorem find?_orphan_lcd_paired (slave : SlaveId) (count : Nat) (lcd : List LcdTransaction) :
    (lcd_paired slave lcd).find? (fun p => (p.1.slave == slave.val && p.1.regs.length == count) &&
      p.2 == none) = none := by
  rw [List.find?_eq_none]
  intro p hp
  obtain ⟨t, -, regs, -, rfl⟩ := mem_lcd_paired.mp hp
  simp

/-- With nothing pending in front of it, our response is the first orphan. -/
theorem find?_orphan_own {bus : SharedBus} (hctx : context_of bus.slave bus.before = none) :
    bus.found.find? (fun p => (p.1.slave == bus.slave.val && p.1.regs.length == bus.count) &&
      p.2 == none) = some (⟨bus.slave.val, FC_READ_HOLDING, bus.own.val⟩, none) := by
  obtain ⟨earlier, later, -, -, -, cut, -, -, hfound⟩ := bus.paired_eq
  rw [found, hfound, List.find?_append, find?_orphan_lcd_paired, Option.none_or,
    List.find?_cons_of_pos (by simp [hctx, count]), hctx]

/-- A displaced reply of our size is the first orphan when our own is none. -/
theorem find?_orphan_displaced {bus : SharedBus} {regs : Registers}
    (hctx : context_of bus.slave bus.before ≠ none) (hdisplaced : bus.displaced = some regs) :
    regs.val.length = bus.count ∧
      bus.found.find? (fun p => (p.1.slave == bus.slave.val && p.1.regs.length == bus.count) &&
        p.2 == none) = some (⟨bus.slave.val, FC_READ_HOLDING, regs.val⟩, none) := by
  obtain ⟨earlier, later, -, -, -, cut, hcut, -, hfound⟩ := bus.paired_eq
  rw [hdisplaced, eq_comm, Option.filter_eq_some_iff, decide_eq_true_eq] at hcut
  obtain ⟨hsome, hsize⟩ := hcut
  refine ⟨hsize, ?_⟩
  rw [found, hfound, List.find?_append, find?_orphan_lcd_paired, Option.none_or,
    List.find?_cons_of_neg (by simp [hctx]), hsome, Option.map_some, Option.toList_some,
    List.singleton_append, List.find?_cons_of_pos (by simp [hsize])]

/-- Otherwise there is no orphan of our size. -/
theorem no_orphan {bus : SharedBus} (hctx : context_of bus.slave bus.before ≠ none)
    (hdisplaced : bus.displaced = none) :
    ∀ p ∈ bus.found, p.1.regs.length = bus.count → p.2 ≠ none := by
  obtain ⟨earlier, later, -, -, -, cut, hcut, -, hfound⟩ := bus.paired_eq
  intro p hp hsize
  rw [found, hfound] at hp
  simp only [List.mem_append, List.mem_cons, Option.mem_toList,
    Option.map_eq_some_iff] at hp
  obtain h | rfl | ⟨regs, hregs, rfl⟩ | h := hp
  · obtain ⟨t, -, regs, -, rfl⟩ := mem_lcd_paired.mp h
    simp
  · exact hctx
  · rw [hdisplaced, hregs, Option.filter_some, if_pos (by simpa using hsize)] at hcut
    cases hcut
  · obtain ⟨t, -, regs, -, rfl⟩ := mem_lcd_paired.mp h
    simp

/-- The first response of our size is an earlier reply to the LCD, or our own. -/
theorem find?_ours (bus : SharedBus) :
    (bus.found.find? fun p => p.1.slave == bus.slave.val && p.1.regs.length == bus.count).map
      Prod.fst =
    some ⟨bus.slave.val, FC_READ_HOLDING, (bus.earlier_lookalike.getD bus.own).val⟩ := by
  obtain ⟨earlier, later, -, -, hearlier, cut, -, -, hfound⟩ := bus.paired_eq
  rw [found, hfound, List.find?_append, Option.map_or, find?_lcd_paired, ← hearlier,
    ← earlier_lookalike, List.find?_cons_of_pos (by simp [count])]
  cases bus.earlier_lookalike <;> rfl

theorem earlier_lookalike_size {bus : SharedBus} {regs : Registers}
    (hlook : bus.earlier_lookalike = some regs) : regs.val.length = bus.count := by
  obtain ⟨frame, -, hframe⟩ := List.exists_of_findSome?_eq_some hlook
  cases frame <;> simp [BusFrame.registers_of_size] at hframe
  exact hframe.2 ▸ hframe.1

end SharedBus

/-- The selection returns data of the address we asked for exactly when no decoy
of another address can win. -/
theorem select_response_address_correct_iff (bus : SharedBus) :
    bus.AddressCorrect ↔ bus.DecoyFree := by
  have hselect := bus.select_eq_match_tiers
  by_cases hours : bus.LcdReadOurs ∨ context_of bus.slave bus.before = some bus.addr
  · -- the first tier matches, and all it can match is data of our address
    obtain ⟨p, hp, hslave, hcount, haddr⟩ := SharedBus.exists_exact hours
    obtain ⟨q, hq, htier, -, hqaddr⟩ := match_tiers_of_exact hp hslave hcount haddr
    obtain ⟨regs, hregs, hdata, -⟩ := SharedBus.exact_sound hq hqaddr
    refine iff_of_true ⟨regs, by rw [hselect, htier, hregs], hdata⟩ ?_
    exact hours.imp_right fun h => .inr (.inl h)
  · obtain ⟨hread, hctx⟩ := not_or.mp hours
    have hnoexact : ∀ p ∈ bus.found, p.1.regs.length = bus.count → p.2 ≠ some bus.addr := by
      intro p hp hsize haddr
      obtain ⟨_, _, _, h | h⟩ := SharedBus.exact_sound hp haddr
      · exact hctx h
      · exact hread (h hsize)
    by_cases hown : context_of bus.slave bus.before = none
    · rw [match_tiers_of_orphan hnoexact (SharedBus.find?_orphan_own hown)] at hselect
      exact iff_of_true ⟨bus.own.val, hselect, .inl rfl⟩ (.inr (.inl hown))
    · have hfree : bus.DecoyFree ↔ ∀ regs, bus.decoy = some regs → regs = bus.own := by
        simp [SharedBus.DecoyFree, hread, hown, hctx]
      rw [hfree, SharedBus.decoy]
      cases hdisplaced : bus.displaced with
      | some regs =>
        obtain ⟨hsize, horphan⟩ := SharedBus.find?_orphan_displaced hown hdisplaced
        rw [match_tiers_of_orphan hnoexact horphan] at hselect
        rw [SharedBus.addressCorrect_iff_of_select hread hsize hselect]
        simp
      | none =>
        rw [match_tiers_of_neither hnoexact (SharedBus.no_orphan hown hdisplaced),
          bus.find?_ours] at hselect
        cases hlook : bus.earlier_lookalike with
        | none =>
          rw [hlook, Option.getD_none] at hselect
          exact iff_of_true ⟨bus.own.val, hselect, .inl rfl⟩ (by simp)
        | some regs =>
          rw [hlook, Option.getD_some] at hselect
          rw [SharedBus.addressCorrect_iff_of_select hread
            (SharedBus.earlier_lookalike_size hlook) hselect]
          simp

/-- The LCD asks for `0x023A`, our response to `0x010F` lands in front of the
reply, and the reply is taken for ours. -/
def overtaken_bus : SharedBus where
  slave := ⟨1, slave_1_admitted⟩
  addr := 0x010F
  own := ⟨[0x0ABC, 0x0010, 0x0123], by decide⟩
  lcd := [⟨0x023A, 3, .registers ⟨[0xDEAD, 0xDEAD, 0xDEAD], by decide⟩ rfl⟩]
  before := [.request ⟨1, slave_1_admitted⟩ 0x023A 3]
  after := [.response ⟨1, slave_1_admitted⟩ ⟨[0xDEAD, 0xDEAD, 0xDEAD], by decide⟩]
  hsplit := rfl
  hclear := by decide +kernel

theorem overtaken_bus_not_address_correct : ¬ overtaken_bus.AddressCorrect := by
  have hselect : select_response overtaken_bus.stream overtaken_bus.slave.val overtaken_bus.addr
      overtaken_bus.count = some ⟨1, 3, [0xDEAD, 0xDEAD, 0xDEAD]⟩ := by decide +kernel
  rintro ⟨regs, heq, hdata⟩
  rw [hselect, Option.some.injEq, ModbusFrame.mk.injEq] at heq
  obtain ⟨-, -, rfl⟩ := heq
  obtain h | ⟨t, ht, haddr, -⟩ := hdata
  · exact absurd h (by decide)
  · rw [List.mem_singleton.mp ht] at haddr
    exact absurd haddr (by decide)

end inverter_bridge.serial_io
