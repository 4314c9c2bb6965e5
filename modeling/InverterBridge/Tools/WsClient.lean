import InverterBridge.Lib.PyValue
import InverterBridge.Lib.RequestReply

open Python RequestReply

/-! `WSClient`, which `rename_ha_entities.py` and `purge_ha_zombies.py` both have: its commands to
the entity registry of Home Assistant, and the loop that sends them one by one. -/

namespace tools.ws_client

/-- `config/entity_registry/list`, `update` and `remove`. -/
inductive Command where
  | list
  | update (entity_id new_entity_id : String)
  | remove (entity_id : String)

/-- The items of a `result` frame. -/
abbrev Reply := List (Scalar × PyValue)

/-- `bool(reply.get(key))`. -/
def truthy (key : String) (reply : Reply) : Bool :=
  ((PyValue.lookup key reply).map PyValue.truthy).getD false

def succeeded (reply : Reply) : Bool := truthy "success" reply

/-- The replies that say that the registry was changed. -/
def carried_out : Command → Reply → Bool
  | .list, _ => false
  | .update _ _, reply | .remove _, reply => succeeded reply

theorem carried_out_of_ne {command : Command} {reply : Reply} (h : command ≠ .list) :
    carried_out command reply = succeeded reply := by
  cases command with
  | list => exact absurd rfl h
  | update old new => rfl
  | remove entity_id => rfl

section

-- The texts `str` gives of what is not a string.
variable (text : PyValue → String)

/-- `str(item.get("unique_id") or "")`. -/
def unique_id_of (item : List (Scalar × PyValue)) : String :=
  match PyValue.lookup "unique_id" item with
  | some v => if v.truthy then v.to_str text else ""
  | none => ""

/-- The entity id and the unique id of an item of the list, if it is an entry. -/
def read_entry : PyValue → Option (String × String)
  | .dict item =>
    match PyValue.lookup "entity_id" item with
    | some (.scalar (.str entity_id)) =>
      if entity_id = "" then none else some (entity_id, unique_id_of text item)
    | _ => none
  | _ => none

/-- What `list_entity_registry` makes of the reply: `None` where it raises a `RuntimeError`. -/
def list_entity_registry (reply : Reply) : Option (List (String × String)) :=
  if succeeded reply then
    match PyValue.or_empty (PyValue.lookup "result" reply) with
    | .list items => some (items.filterMap (read_entry text))
    | _ => none
  else none

/-- The text of a refusal. -/
def refusal (reply : Reply) : String :=
  -- `reply.get("error") or {}`
  let message : Option PyValue :=
    match PyValue.lookup "error" reply with
    | none => none
    | some err =>
      if err.truthy then
        match err with
        | .dict entries => PyValue.lookup "message" entries
        | err => some (.scalar (.str (err.to_str text)))
      else none
  match message with
  | some message => if message.truthy then message.to_str text else "unknown error"
  | none => "unknown error"

/-- What `update_entity_id` and `remove_entity` return, for a reply or a timeout. -/
def outcome : Except String Reply → Bool × Option String
  | .error e => (false, some e)
  | .ok reply => if succeeded reply then (true, none) else (false, some (refusal text reply))

end

/-- `err or "?"`. -/
def err_or_unknown : Option String → String
  | some err => if err = "" then "?" else err
  | none => "?"

/-- What one of the tools does with the registry: the items that it applies, or else its exit
code. -/
structure Tool (ι : Type) where
  items : List (String × String) → Except Int (List ι)
  command : ι → Command

namespace Tool

variable {ι : Type} (tool : Tool ι) (text : PyValue → String)

/-- What was listed, the items that are applied, and how the first of them ended. -/
def applying : List (Command × Except String Reply) →
    Option (List (String × String) × List ι × List (Command × Except String Reply))
  | (_, .ok reply) :: rest =>
    match list_entity_registry text reply with
    | none => none
    | some registry =>
      match tool.items registry with
      | .error _ => none
      | .ok items => some (registry, items, rest)
  | _ => none

/-- The command that comes next in `_run_async`, after those that were answered or timed out. -/
def next : List (Command × Except String Reply) → Option Command
  | [] => some .list
  | ended :: told =>
    match tool.applying text (ended :: told) with
    | none => none
    | some (_, items, rest) => items[rest.length]?.map tool.command

/-- A turn of the loop of `_apply`. -/
def apply_item {δ : Type} (failure : ι → String → δ) (applied : Nat × List δ)
    (item : ι × Except String Reply) : Nat × List δ :=
  match outcome text item.2 with
  | (true, _) => (applied.1 + 1, applied.2)
  | (false, err) => (applied.1, applied.2 ++ [failure item.1 (err_or_unknown err)])

/-- `_apply`, with what each of the commands came to. -/
def apply {δ : Type} (failure : ι → String → δ) (items : List ι)
    (told : List (Command × Except String Reply)) : Nat × List δ :=
  (items.zip (told.map Prod.snd)).foldl (apply_item text failure) (0, [])

/-- The exit code of `_run_async`, when it has one. -/
def run_async : List (Command × Except String Reply) → Option Int
  | [] => none
  | (_, .error _) :: _ => some 4
  | (_, .ok reply) :: told =>
    match list_entity_registry text reply with
    | none => some 4
    | some registry =>
      match tool.items registry with
      | .error code => some code
      | .ok items =>
        if told.length < items.length then none
        else if (apply text (fun _ err => err) items told).2.isEmpty then some 0 else some 6

/-- The tool and the server it talks to. -/
def parties {σ κ : Type} (serve : κ → σ → Command → σ × Reply) :
    Parties σ Command Reply String κ :=
  ⟨serve, tool.next text⟩

/-! ## What a run of the tool sends and reports -/

section

variable {tool text} {σ κ δ : Type} {serve : κ → σ → Command → σ × Reply} {init : σ}
  {s : State σ Command Reply String κ} {told rest : List (Command × Except String Reply)}
  {registry : List (String × String)} {items : List ι}

theorem applying_eq_some_iff : tool.applying text told = some (registry, items, rest) ↔
    (∃ c reply, told = (c, .ok reply) :: rest ∧ list_entity_registry text reply = some registry) ∧
      tool.items registry = .ok items := by
  constructor
  · intro h
    unfold applying at h
    split at h
    case h_2 => cases h
    case h_1 c reply rest' =>
    split at h
    case h_1 => cases h
    case h_2 registry' hlist =>
    split at h
    case h_1 => cases h
    case h_2 items' hitems =>
    cases h
    exact ⟨⟨c, reply, rfl, hlist⟩, hitems⟩
  · rintro ⟨⟨c, reply, rfl, hlist⟩, hitems⟩
    simp only [applying, hlist, hitems]

theorem next_take (happlying : tool.applying text told = some (registry, items, rest)) {n : Nat}
    (hle : n ≤ rest.length) : tool.next text (told.take (n + 1)) = items[n]?.map tool.command := by
  obtain ⟨⟨c, reply, rfl, hlist⟩, hitems⟩ := applying_eq_some_iff.mp happlying
  have htake : tool.applying text ((c, .ok reply) :: rest.take n) =
      some (registry, items, rest.take n) :=
    applying_eq_some_iff.mpr ⟨⟨c, reply, rfl, hlist⟩, hitems⟩
  rw [List.take_succ_cons, next, htake]
  simp only [List.length_take_of_le hle]

theorem length_told (happlying : tool.applying text told = some (registry, items, rest)) :
    told.length = rest.length + 1 := by
  obtain ⟨⟨c, reply, rfl, -⟩, -⟩ := applying_eq_some_iff.mp happlying
  rfl

/-- The commands are sent in the order of the items. -/
theorem sent_items (h : (tool.parties text serve).Correlated init s)
    (happlying : tool.applying text s.told = some (registry, items, rest)) {n : Nat} {command : Command}
    (hsent : s.sent[n + 1]? = some command) : items[n]?.map tool.command = some command := by
  have hle : n ≤ rest.length := by
    have hlt := (List.getElem?_eq_some_iff.mp hsent).1
    have hlength := h.sent_length
    rw [length_told happlying] at hlength
    omega
  rw [← next_take happlying hle]
  exact h.chosen (n + 1) command hsent

/-- The first command asks for the list. -/
theorem sent_list (h : (tool.parties text serve).Correlated init s) {command : Command}
    (hsent : s.sent[0]? = some command) : command = .list := by
  have hchosen : tool.next text (s.told.take 0) = some command := h.chosen 0 command hsent
  rw [List.take_zero] at hchosen
  exact (Option.some.inj hchosen).symm

theorem told_sent (h : (tool.parties text serve).Correlated init s) {n : Nat}
    {ended : Command × Except String Reply} (htold : s.told[n]? = some ended) :
    s.sent[n]? = some ended.1 := by
  have hget : (s.told.map Prod.fst)[n]? = some ended.1 := by
    rw [List.getElem?_map, htold]
    rfl
  obtain ⟨later, hlater⟩ := h.told_sent
  rw [← hlater, List.getElem?_append_left (List.getElem?_eq_some_iff.mp hget).1, hget]

theorem told_list (h : (tool.parties text serve).Correlated init s)
    (happlying : tool.applying text s.told = some (registry, items, rest)) :
    ∃ reply, s.told = (.list, .ok reply) :: rest ∧
      list_entity_registry text reply = some registry := by
  obtain ⟨⟨c, reply, htold, hlist⟩, -⟩ := applying_eq_some_iff.mp happlying
  have hfirst : s.told[0]? = some (c, .ok reply) := by
    rw [htold]
    rfl
  obtain rfl : c = .list := sent_list h (told_sent h hfirst)
  exact ⟨reply, htold, hlist⟩

/-- What was told after the list are the items, in their order. -/
theorem told_items (h : (tool.parties text serve).Correlated init s)
    (happlying : tool.applying text s.told = some (registry, items, rest)) {n : Nat}
    {ended : Command × Except String Reply} (hended : rest[n]? = some ended) :
    items[n]?.map tool.command = some ended.1 := by
  obtain ⟨reply, htold, -⟩ := told_list h happlying
  refine sent_items h happlying (told_sent h ?_)
  rwa [htold, List.getElem?_cons_succ]

/-- No more is told than there are items. -/
theorem rest_length_le (h : (tool.parties text serve).Correlated init s)
    (happlying : tool.applying text s.told = some (registry, items, rest)) :
    rest.length ≤ items.length := by
  by_contra hlt
  obtain ⟨i, hi, -⟩ := Option.map_eq_some_iff.mp
    (told_items h happlying (List.getElem?_eq_getElem (Nat.lt_of_not_le hlt)))
  exact Nat.lt_irrefl _ (List.getElem?_eq_some_iff.mp hi).1

/-- After the last item, nothing more is sent. -/
theorem finished (h : (tool.parties text serve).Correlated init s)
    (happlying : tool.applying text s.told = some (registry, items, rest))
    (hdone : rest.length = items.length) : s.sent.length = s.told.length := by
  refine Nat.le_antisymm (Nat.le_of_not_lt fun hlt => ?_) h.told_length_le
  rw [length_told happlying] at hlt
  have hlast := sent_items h happlying (List.getElem?_eq_getElem hlt)
  rw [List.getElem?_eq_none hdone.ge] at hlast
  cases hlast

/-! ## The loop that applies the items -/

/-- Whether an item with this end is reported as done. -/
def reported_ok : Except String Reply → Bool
  | .error _ => false
  | .ok reply => succeeded reply

theorem outcome_fst (ended : Except String Reply) : (outcome text ended).1 = reported_ok ended := by
  cases ended with
  | error e => rfl
  | ok reply =>
    rw [outcome, reported_ok]
    cases succeeded reply <;> rfl

section

variable (failure : ι → String → δ)

theorem foldl_apply_item (pairs : List (ι × Except String Reply)) (applied : Nat × List δ) :
    pairs.foldl (apply_item text failure) applied =
      (applied.1 + (pairs.map Prod.snd).countP reported_ok,
        applied.2 ++ pairs.filterMap fun item =>
          if reported_ok item.2 then none
          else some (failure item.1 (err_or_unknown (outcome text item.2).2))) := by
  induction pairs generalizing applied with
  | nil => simp
  | cons item pairs ih =>
    have hfst := @outcome_fst text item.2
    rw [List.foldl_cons, ih, apply_item]
    cases houtcome : outcome text item.2 with
    | mk ok err =>
      rw [houtcome] at hfst
      cases ok with
      | true => simp [← hfst, Nat.add_assoc, Nat.add_comm 1]
      | false => simp [← hfst, houtcome]

variable {failure : ι → String → δ}

theorem apply_eq (hlength : rest.length = items.length) :
    apply text failure items rest = ((rest.map Prod.snd).countP reported_ok,
      (items.zip (rest.map Prod.snd)).filterMap fun item =>
        if reported_ok item.2 then none
        else some (failure item.1 (err_or_unknown (outcome text item.2).2))) := by
  rw [apply, foldl_apply_item, Nat.zero_add, List.nil_append,
    List.map_snd_zip (by rw [List.length_map, hlength])]

theorem foldl_apply_item_total (pairs : List (ι × Except String Reply)) (applied : Nat × List δ) :
    (pairs.foldl (apply_item text failure) applied).1 +
        (pairs.foldl (apply_item text failure) applied).2.length =
      applied.1 + applied.2.length + pairs.length := by
  induction pairs generalizing applied with
  | nil => rfl
  | cons item pairs ih =>
    have hitem : (apply_item text failure applied item).1 +
        (apply_item text failure applied item).2.length = applied.1 + applied.2.length + 1 := by
      unfold apply_item
      split
      · exact Nat.add_right_comm applied.1 1 applied.2.length
      · rw [List.length_append]
        rfl
    rw [List.foldl_cons, ih, hitem, List.length_cons, Nat.add_assoc, Nat.add_comm 1]

variable (failure) in
/-- Every item is counted or listed as a failure. -/
theorem apply_total (hlength : rest.length = items.length) :
    (apply text failure items rest).1 + (apply text failure items rest).2.length = items.length := by
  rw [apply, foldl_apply_item_total, List.length_zip, List.length_map, hlength, Nat.min_self]
  exact Nat.zero_add _

/-- What was carried out was asked for: it is the command of an item. -/
theorem served_item (h : (tool.parties text serve).Correlated init s)
    (happlying : tool.applying text s.told = some (registry, items, rest)) {answer : Command × Reply}
    (hanswer : answer ∈ answers s.log) (hcarried : carried_out answer.1 answer.2 = true) :
    ∃ i ∈ items, answer.1 = tool.command i := by
  simp only [answers, List.mem_filterMap] at hanswer
  obtain ⟨change, hlog, hread⟩ := hanswer
  cases change with
  | foreign f => cases hread
  | served id command choice reply' =>
    cases hread
    obtain ⟨n, -, hsent⟩ := h.served id command choice reply' hlog
    cases n with
    | zero =>
      rw [sent_list h hsent] at hcarried
      cases hcarried
    | succ n =>
      obtain ⟨i, hi, hcommand⟩ := Option.map_eq_some_iff.mp (sent_items h happlying hsent)
      exact ⟨i, List.mem_of_getElem? hi, hcommand.symm⟩

variable (failure) in
/-- In every interleaving with the server, with answers that come late and others at work: what is
reported as done was done, and what was done is reported so or timed out. -/
theorem accounts (h : (tool.parties text serve).Correlated init s)
    (happlying : tool.applying text s.told = some (registry, items, rest))
    (hcommand : ∀ i, tool.command i ≠ .list) (hdone : rest.length = items.length) :
    let n_ok := (apply text failure items rest).1
    let done := (answers s.log).countP fun a => carried_out a.1 a.2
    n_ok ≤ done ∧ done ≤ n_ok + rest.countP Parties.timed_out := by
  obtain ⟨reply, htold, -⟩ := told_list h happlying
  have htold_where : s.told.countP (Parties.told_where carried_out) =
      (rest.map Prod.snd).countP reported_ok := by
    rw [htold, List.countP_cons_of_neg Bool.false_ne_true, List.countP_map]
    refine List.countP_congr fun ended hmem => ?_
    obtain ⟨n, hn⟩ := List.getElem?_of_mem hmem
    obtain ⟨i, -, hi⟩ := Option.map_eq_some_iff.mp (told_items h happlying hn)
    have hwhere : Parties.told_where carried_out ended = reported_ok ended.2 := by
      rw [Parties.told_where, ← hi]
      cases ended.2 with
      | error e => rfl
      | ok reply => exact carried_out_of_ne (hcommand i)
    rw [hwhere]
    rfl
  have htimed_out : s.told.countP Parties.timed_out = rest.countP Parties.timed_out := by
    rw [htold]
    exact List.countP_cons_of_neg Bool.false_ne_true
  have hle := h.countP_told_le carried_out
  have hge := h.countP_answers_le carried_out
  rw [finished h happlying hdone, Nat.sub_self, Nat.add_zero] at hge
  rw [htold_where] at hle hge
  rw [htimed_out] at hge
  rw [apply_eq hdone]
  exact ⟨hle, hge⟩

end

end

end Tool

/-! ## The server -/

def ids (registry : List (String × String)) : List String := registry.map Prod.fst

/-- What a command that is carried out makes of the registry. -/
def Command.change (registry : List (String × String)) : Command → List (String × String)
  | .list => registry
  | .update old new => registry.map fun e => if e.1 = old then (new, e.2) else e
  | .remove entity_id => registry.filter fun e => e.1 ≠ entity_id

/-- An entity must be registered to be renamed or removed, and the new id must be free. -/
def Command.Allowed (registry : List (String × String)) : Command → Prop
  | .list => True
  | .update old new => old ∈ ids registry ∧ new ∉ ids registry
  | .remove entity_id => entity_id ∈ ids registry

/-- The registry after an answer. -/
def effect (registry : List (String × String)) (answer : Command × Reply) :
    List (String × String) :=
  if carried_out answer.1 answer.2 then answer.1.change registry else registry

/-- What is relied on of a server that holds an entity registry: it lists it as it is, and does
what it says that it did, and only that. -/
structure HomeAssistant {σ κ : Type} (text : PyValue → String)
    (registry : σ → List (String × String)) (serve : κ → σ → Command → σ × Reply) : Prop where
  list : ∀ choice s, succeeded (serve choice s .list).2 = true →
    list_entity_registry text (serve choice s .list).2 = some (registry s)
  effect : ∀ choice s command, registry (serve choice s command).1 =
    effect (registry s) (command, (serve choice s command).2)
  allowed : ∀ choice s command, carried_out command (serve choice s command).2 = true →
    command.Allowed (registry s)

instance (registry : List (String × String)) (command : Command) :
    Decidable (command.Allowed registry) :=
  match command with
  | .list => isTrue trivial
  | .update old new => inferInstanceAs (Decidable (old ∈ ids registry ∧ new ∉ ids registry))
  | .remove entity_id => inferInstanceAs (Decidable (entity_id ∈ ids registry))

def entry_item (e : String × String) : PyValue :=
  .dict [PyValue.text_entry "entity_id" e.1, PyValue.text_entry "unique_id" e.2]

/-- A server that holds nothing but a registry, and refuses what it is told to refuse. -/
def serve_registry (refuse : Bool) (registry : List (String × String)) (command : Command) :
    List (String × String) × Reply :=
  if refuse ∨ ¬ command.Allowed registry ∨ ∃ e ∈ registry, e.1 = "" then
    (registry, [(.str "success", .scalar (.bool false))])
  else
    (command.change registry, [(.str "success", .scalar (.bool true)),
      (.str "result", .list (registry.map entry_item))])

theorem read_entry_entry_item (text : PyValue → String) {e : String × String} (he : e.1 ≠ "") :
    read_entry text (entry_item e) = some e := by
  have hid : PyValue.lookup "entity_id" [PyValue.text_entry "entity_id" e.1,
      PyValue.text_entry "unique_id" e.2] = some (.scalar (.str e.1)) := rfl
  have hunique : unique_id_of text [PyValue.text_entry "entity_id" e.1,
      PyValue.text_entry "unique_id" e.2] = e.2 := by
    show (if Scalar.truthy (.str e.2) then e.2 else "") = e.2
    by_cases hempty : e.2 = "" <;> simp [Scalar.truthy, hempty]
  rw [entry_item, read_entry, hid]
  simp only [if_neg he, hunique]

/-- The list is read as it is, so this is a server of the kind that is relied on. -/
theorem homeAssistant_serve_registry (text : PyValue → String) :
    HomeAssistant text id serve_registry where
  list refuse r hreply := by
    unfold serve_registry at hreply ⊢
    split at hreply
    case isTrue => cases hreply
    case isFalse hserved =>
    rw [if_neg hserved]
    have hnames : ∀ e ∈ r, e.1 ≠ "" := fun e he hempty => hserved (.inr (.inr ⟨e, he, hempty⟩))
    have hread : (r.map entry_item).filterMap (read_entry text) = r := by
      rw [List.filterMap_map]
      calc r.filterMap (read_entry text ∘ entry_item)
        _ = r.filterMap some := List.filterMap_congr fun e he => read_entry_entry_item text (hnames e he)
        _ = r := List.filterMap_some
    have hresult : PyValue.or_empty (some (.list (r.map entry_item))) = .list (r.map entry_item) := by
      cases r <;> rfl
    have hlookup : PyValue.lookup "result" [(.str "success", .scalar (.bool true)),
        (.str "result", .list (r.map entry_item))] = some (.list (r.map entry_item)) := rfl
    simp only [list_entity_registry, if_pos hreply, hlookup, hresult, hread, id]
  effect refuse r command := by
    unfold serve_registry
    split
    case isTrue => cases command <;> rfl
    case isFalse => cases command <;> rfl
  allowed refuse r command hcarried := by
    unfold serve_registry at hcarried
    split at hcarried
    case isTrue => cases command <;> cases hcarried
    case isFalse hserved => exact not_not.mp fun hnot => hserved (.inr (.inl hnot))

/-- Of two items, the first times out, and is done and answered while the tool waits for the
second. -/
def late_answer : List (Act (List (String × String)) String Bool) :=
  [.send, .serve 0 false, .receive, .send, .time_out "", .send, .serve 0 false, .serve 0 false,
    .receive, .receive]

/-- The two items, each answered before the next. -/
def prompt_answers : List (Act (List (String × String)) String Bool) :=
  [.send, .push, .serve 0 false, .receive, .receive, .send, .serve 0 false, .receive, .send,
    .serve 0 false, .receive]

namespace Tool

section

variable {ι : Type} {tool : Tool ι} {text : PyValue → String} {σ κ : Type}
  {registry : σ → List (String × String)} {serve : κ → σ → Command → σ × Reply} {init : σ}
  {s : State σ Command Reply String κ} {rest : List (Command × Except String Reply)}
  {listed : List (String × String)} {items : List ι}

/-- When nobody else has a part in it, the registry is listed as it was at the start. -/
theorem listed_eq {acts : List (Act σ String κ)} (hserver : HomeAssistant text registry serve)
    (hrun : TransitionSystem.run (tool.parties text serve).step (.init init) acts = some s)
    (halone : alone s.log = true)
    (happlying : tool.applying text s.told = some (listed, items, rest)) :
    listed = registry init := by
  have h := Parties.run_correlated hrun
  obtain ⟨reply, htold, hlist⟩ := told_list h happlying
  have hreply : succeeded reply = true := by
    by_contra hnot
    rw [list_entity_registry, if_neg hnot] at hlist
    cases hlist
  let Q (r : List (String × String)) (answer : Command × Reply) : Prop :=
    answer.1 = .list → succeeded answer.2 = true → list_entity_registry text answer.2 = some r
  have hserve : ∀ choice s command, Q (registry s) (command, (serve choice s command).2) := by
    rintro choice s command rfl
    exact hserver.list choice s
  have heach := Parties.eachAt_answers (Q := Q) hserver.effect hserve h.answered halone
  have hfirst := h.first .list reply (by rw [htold]; rfl)
  cases hanswers : answers s.log with
  | nil => simp [hanswers] at hfirst
  | cons answer later =>
    rw [hanswers, List.getElem?_cons_zero, Option.some.injEq] at hfirst
    have hinit : list_entity_registry text reply = some (registry init) :=
      heach [] (.list, reply) later (by rw [hanswers, hfirst]; rfl) rfl hreply
    exact Option.some.inj (hlist.symm.trans hinit)

/-- When nobody else has a part in it, what the items preserve when they are allowed, the session
preserves, however it goes. -/
theorem session_preserves {acts : List (Act σ String κ)} {I : Nat → List (String × String) → Prop}
    (hserver : HomeAssistant text registry serve)
    (hrun : TransitionSystem.run (tool.parties text serve).step (.init init) acts = some s)
    (halone : alone s.log = true)
    (happlying : tool.applying text s.told = some (listed, items, rest))
    (hinit : I 0 (registry init)) (hitem : ∀ i ∈ items, ∀ n r, I n r → (tool.command i).Allowed r →
      I (n + 1) (Command.change r (tool.command i))) :
    I ((answers s.log).countP fun a => carried_out a.1 a.2) (registry s.server) := by
  have h := Parties.run_correlated hrun
  let Q (r : List (String × String)) (answer : Command × Reply) : Prop :=
    carried_out answer.1 answer.2 = true → answer.1.Allowed r
  have heach := Parties.eachAt_answers (Q := Q) hserver.effect hserver.allowed h.answered halone
  rw [h.server, Parties.replay_view hserver.effect h.answered halone]
  refine Trace.EachAt.foldl_preserves (Q := Q)
    (I := fun before r => I (before.countP fun a => carried_out a.1 a.2) r) heach hinit ?_
  intro before r answer hmem hr hallowed
  rw [List.countP_append, List.countP_singleton, effect]
  split
  case isFalse => exact hr
  case isTrue hcarried =>
  obtain ⟨i, hi, hcommand⟩ := served_item h happlying hmem hcarried
  have hcommand_allowed : answer.1.Allowed r := hallowed hcarried
  rw [hcommand] at hcommand_allowed ⊢
  exact hitem i hi _ r hr hcommand_allowed

/-- With exit code 0 after the items were applied, each of them is reported as done. -/
theorem reported_of_exit_zero (h : (tool.parties text serve).Correlated init s)
    (happlying : tool.applying text s.told = some (listed, items, rest))
    (hexit : tool.run_async text s.told = some 0) :
    rest.length = items.length ∧ ∀ ended ∈ rest, reported_ok ended.2 = true := by
  have hle := rest_length_le h happlying
  obtain ⟨reply, htold, hlist⟩ := told_list h happlying
  simp only [htold, run_async, hlist, (applying_eq_some_iff.mp happlying).2] at hexit
  split at hexit
  case isTrue => cases hexit
  case isFalse hge =>
  have hlength : rest.length = items.length := by omega
  refine ⟨hlength, fun ended hmem => ?_⟩
  split at hexit
  case isFalse => cases hexit
  case isTrue hempty =>
  have htotal : (apply text (fun (_ : ι) err => err) items rest).1 = items.length := by
    rw [← apply_total (fun _ err => err) hlength, List.isEmpty_iff.mp hempty]
    rfl
  rw [apply_eq hlength, ← hlength, ← List.length_map Prod.snd] at htotal
  exact List.countP_eq_length.mp htotal ended.2 (List.mem_map_of_mem hmem)

/-- The answers after the list, when each item is reported as done. -/
theorem told_answers_items (h : (tool.parties text serve).Correlated init s)
    (happlying : tool.applying text s.told = some (listed, items, rest))
    (hlength : rest.length = items.length) (hok : ∀ ended ∈ rest, reported_ok ended.2 = true) :
    (Parties.told_answers rest).map Prod.fst = items.map tool.command ∧
      ∀ answer ∈ Parties.told_answers rest, succeeded answer.2 = true := by
  have hfst : rest.map Prod.fst = items.map tool.command := by
    refine List.ext_getElem? fun n => ?_
    rw [List.getElem?_map, List.getElem?_map]
    cases hn : rest[n]? with
    | none => rw [List.getElem?_eq_none (hlength ▸ List.getElem?_eq_none_iff.mp hn)]; rfl
    | some ended => exact (told_items h happlying hn).symm
  rw [← hfst]
  clear hfst hlength happlying
  induction rest with
  | nil => exact ⟨rfl, nofun⟩
  | cons ended rest ih =>
    obtain ⟨hrest, hall⟩ := ih fun e he => hok e (List.mem_cons_of_mem _ he)
    obtain ⟨command, ended⟩ := ended
    have hended : reported_ok ended = true := hok (command, ended) List.mem_cons_self
    cases ended with
    | error e => cases hended
    | ok reply =>
      refine ⟨congrArg (command :: ·) hrest, ?_⟩
      rintro answer (_ | ⟨_, hmem⟩)
      · exact hended
      · exact hall answer hmem

theorem foldl_effect {told : List (Command × Reply)}
    (hdone : ∀ answer ∈ told, carried_out answer.1 answer.2 = true) (r : List (String × String)) :
    told.foldl effect r = (told.map Prod.fst).foldl Command.change r := by
  induction told generalizing r with
  | nil => rfl
  | cons answer told ih =>
    rw [List.foldl_cons, List.map_cons, List.foldl_cons, effect,
      if_pos (hdone answer List.mem_cons_self)]
    exact ih (fun a ha => hdone a (List.mem_cons_of_mem _ ha)) _

/-- When nobody else has a part in it, exit code 0 means that each of the items was allowed in its
turn and done. -/
theorem registry_of_exit_zero {acts : List (Act σ String κ)}
    (hserver : HomeAssistant text registry serve)
    (hrun : TransitionSystem.run (tool.parties text serve).step (.init init) acts = some s)
    (halone : alone s.log = true)
    (happlying : tool.applying text s.told = some (listed, items, rest))
    (hexit : tool.run_async text s.told = some 0) (hcommand : ∀ i, tool.command i ≠ .list) :
    registry s.server = (items.map tool.command).foldl Command.change (registry init) ∧
      Trace.EachAt (fun before command =>
        command.Allowed (before.foldl Command.change (registry init))) (items.map tool.command) := by
  have h := Parties.run_correlated hrun
  obtain ⟨hlength, hok⟩ := reported_of_exit_zero h happlying hexit
  obtain ⟨reply, htold, hlist⟩ := told_list h happlying
  have hprompt : ∀ ended ∈ s.told, Parties.timed_out ended = false := by
    rw [htold]
    rintro ended (_ | ⟨_, hmem⟩)
    · rfl
    · have hended := hok ended hmem
      obtain ⟨command, ended⟩ := ended
      cases ended with
      | error e => cases hended
      | ok reply => rfl
  have hanswers : answers s.log = (.list, reply) :: Parties.told_answers rest := by
    rw [Parties.run_in_order hrun hprompt (finished h happlying hlength), htold]
    rfl
  obtain ⟨hcommands, hsucceeded⟩ := told_answers_items h happlying hlength hok
  have hdone : ∀ answer ∈ Parties.told_answers rest, carried_out answer.1 answer.2 = true := by
    intro answer hmem
    have hfst : answer.1 ∈ items.map tool.command := hcommands ▸ List.mem_map_of_mem hmem
    obtain ⟨i, -, hi⟩ := List.mem_map.mp hfst
    rw [carried_out_of_ne (hi ▸ hcommand i)]
    exact hsucceeded answer hmem
  let Q (r : List (String × String)) (answer : Command × Reply) : Prop :=
    carried_out answer.1 answer.2 = true → answer.1.Allowed r
  have heach := Parties.eachAt_answers (Q := Q) hserver.effect hserver.allowed h.answered halone
  rw [hanswers] at heach
  refine ⟨?_, ?_⟩
  · rw [h.server, Parties.replay_view hserver.effect h.answered halone, hanswers, List.foldl_cons,
      ← hcommands]
    exact foldl_effect hdone _
  · rw [← hcommands]
    intro before command later hsplit
    obtain ⟨first, last, htold_answers, rfl, hlast⟩ := List.map_eq_append_iff.mp hsplit
    obtain ⟨answer, last, rfl, rfl, -⟩ := List.map_eq_cons_iff.mp hlast
    have hanswer : answer ∈ Parties.told_answers rest := by simp [htold_answers]
    have hallowed : answer.1.Allowed _ :=
      heach ((.list, reply) :: first) answer last (by rw [htold_answers]; rfl) (hdone answer hanswer)
    rw [List.foldl_cons, foldl_effect fun a ha => hdone a (by simp [htold_answers, ha])] at hallowed
    exact hallowed

end

end Tool

end tools.ws_client
