import Mathlib.Data.List.Nodup
import InverterBridge.MqttPublisher.Discovery

open Python

namespace inverter_bridge.mqtt_publisher

/-- What a sensor key names: a value of the site, of the inverter with a number, or of
the daemon itself. -/
inductive SensorKey where
  | site (name : String)
  | inverter (i : Nat) (name : String)
  | daemon (name : String)

namespace SensorKey

/-- The key. -/
def text : SensorKey → String
  | .site name => name
  | .inverter i name => Text.numbered "inverter" i name
  | .daemon name => "_meta/" ++ name

/-- The part of its topic between the common head and `/state`. -/
def path : SensorKey → String
  | .site name => s!"total/{name}"
  | .inverter i name => s!"inverter_{i}/{name}"
  | .daemon name => "_meta/" ++ name

def unique_id : SensorKey → String
  | .site name => s!"total_{name}"
  | .inverter i name => Text.numbered "inverter" i name
  | .daemon name => "meta_" ++ name

/-- The name of a site value does not look like one of the other two. -/
def Proper : SensorKey → Prop
  | .site name => ¬ "_meta/".toList <+: name.toList ∧ ¬ "inverter_".toList <+: name.toList
  | _ => True

instance (k : SensorKey) : Decidable k.Proper :=
  match k with
  | .site name => inferInstanceAs
      (Decidable (¬ "_meta/".toList <+: name.toList ∧ ¬ "inverter_".toList <+: name.toList))
  | .inverter _ _ | .daemon _ => .isTrue trivial

end SensorKey

theorem numbered_eq_append (i : Nat) (name : String) :
    Text.numbered "inverter" i name = "inverter_" ++ (toString i ++ String.singleton '_' ++ name) := by
  apply String.toList_inj.mp
  rw [Text.toList_numbered]
  simp

theorem not_prefix_numbered (i : Nat) (name : String) :
    ¬ "_meta/".toList <+: (Text.numbered "inverter" i name).toList := by
  rw [numbered_eq_append, String.toList_append]
  simp

theorem underscore_not_mem_toString (i : Nat) : '_' ∉ (toString i).toList := by
  rw [Nat.toString_eq_ofList_toDigits, String.toList_ofList]
  exact Nat.underscore_not_in_toDigits

/-- The topic path and the unique id that the key of a sensor is mapped to. -/
theorem SensorKey.key_to_topic_path_text {k : SensorKey} (h : k.Proper) :
    key_to_topic_path k.text = k.path := by
  cases k with
  | site name =>
    rw [text, key_to_topic_path, Text.after_eq_none h.1, Text.after_eq_none h.2]
    rfl
  | inverter i name =>
    have hafter : Text.after "inverter_" (Text.numbered "inverter" i name) =
        some (toString i ++ String.singleton '_' ++ name) := by
      rw [numbered_eq_append, Text.after_append]
    rw [text, key_to_topic_path, Text.after_eq_none (not_prefix_numbered i name), hafter,
      Option.bind_some, Text.split_once_append (underscore_not_mem_toString i)]
    rfl
  | daemon name =>
    rw [text, key_to_topic_path, Text.after_append]
    rfl

theorem SensorKey.key_to_unique_id_text {k : SensorKey} (h : k.Proper) :
    key_to_unique_id k.text = k.unique_id := by
  cases k with
  | site name =>
    rw [text, key_to_unique_id, Text.after_eq_none h.1, Text.after_eq_none h.2]
    rfl
  | inverter i name =>
    have hafter : Text.after "inverter_" (Text.numbered "inverter" i name) =
        some (toString i ++ String.singleton '_' ++ name) := by
      rw [numbered_eq_append, Text.after_append]
    rw [text, key_to_unique_id, Text.after_eq_none (not_prefix_numbered i name), hafter]
    rfl
  | daemon name =>
    rw [text, key_to_unique_id, Text.after_append]
    rfl

/-- Topic paths and unique ids are spelled alike, with different separators. -/
def SensorKey.spelled (sep c : Char) (head : List Char) : SensorKey → List Char
  | .site name => ['t', 'o', 't', 'a', 'l', sep] ++ name.toList
  | .inverter i name =>
    ['i', 'n', 'v', 'e', 'r', 't', 'e', 'r', '_'] ++ (Nat.toDigits 10 i ++ sep :: name.toList)
  | .daemon name => c :: (head ++ name.toList)

theorem SensorKey.spelled_inj {sep c : Char} {head : List Char} (hsep : sep.isDigit = false)
    (hsite : c ≠ 't') (hinverter : c ≠ 'i') {k k' : SensorKey}
    (heq : k.spelled sep c head = k'.spelled sep c head) : k = k' := by
  cases k with
  | site name =>
    cases k' with
    | site name' =>
      rw [spelled, spelled, List.append_cancel_left_eq, String.toList_inj] at heq
      rw [heq]
    | inverter => simp [spelled] at heq
    | daemon => simp [spelled, hsite.symm] at heq
  | inverter i name =>
    cases k' with
    | inverter j name' =>
      rw [spelled, spelled, List.append_cancel_left_eq] at heq
      obtain ⟨rfl, hname⟩ := Text.toDigits_append_cons_inj hsep heq
      rw [String.toList_inj.mp hname]
    | site => simp [spelled] at heq
    | daemon => simp [spelled, hinverter.symm] at heq
  | daemon name =>
    cases k' with
    | daemon name' =>
      rw [spelled, spelled, List.cons.injEq, List.append_cancel_left_eq, String.toList_inj] at heq
      rw [heq.2]
    | site => simp [spelled, hsite] at heq
    | inverter => simp [spelled, hinverter] at heq

/-- The path of a sensor's topic is its alone. -/
theorem SensorKey.path_inj {k k' : SensorKey} (heq : k.path = k'.path) : k = k' := by
  have hpath : ∀ k : SensorKey, k.path.toList = k.spelled '/' '_' "meta/".toList := by
    intro k
    cases k <;> simp [path, spelled, toString]
  have hspelled := congrArg String.toList heq
  rw [hpath, hpath] at hspelled
  exact spelled_inj rfl (by decide) (by decide) hspelled

/-- So is its unique id. -/
theorem SensorKey.unique_id_inj {k k' : SensorKey} (heq : k.unique_id = k'.unique_id) : k = k' := by
  have hid : ∀ k : SensorKey, k.unique_id.toList = k.spelled '_' 'm' "eta_".toList := by
    intro k
    cases k <;> simp [unique_id, spelled, Text.toList_numbered, toString]
  have hspelled := congrArg String.toList heq
  rw [hid, hid] at hspelled
  exact spelled_inj rfl (by decide) (by decide) hspelled

end inverter_bridge.mqtt_publisher
