import Mathlib.Data.List.Basic

/-! Text files as `pathlib.Path` reads them. -/

namespace Python

/-- The file at a path. -/
inductive TextFile where
  | missing
  | unreadable
  | present (contents : ByteArray)

/-- An exception of `path.read_text()`. -/
inductive ReadError where
  | OSError
  | UnicodeDecodeError
  deriving DecidableEq

/-- The strict UTF-8 decoder. -/
def decode_utf8 (contents : ByteArray) : Option (List Char) :=
  (String.fromUTF8? contents).map String.toList

/-- Every line end read in text mode is a newline. -/
def translate_newlines : List Char → List Char
  | '\r' :: '\n' :: cs => '\n' :: translate_newlines cs
  | '\r' :: cs => '\n' :: translate_newlines cs
  | c :: cs => c :: translate_newlines cs
  | [] => []

/-- `text.encode("utf-8")`. -/
def encode_utf8 (text : List Char) : ByteArray := (String.ofList text).toUTF8

theorem decode_encode_utf8 (text : List Char) : decode_utf8 (encode_utf8 text) = some text := by
  have hvalid : (String.ofList text).toUTF8.IsValidUTF8 := (String.ofList text).isValidUTF8
  rw [decode_utf8, encode_utf8, String.fromUTF8?, dif_pos hvalid]
  exact congrArg some String.toList_ofList

theorem translate_newlines_eq {text : List Char} (htext : '\r' ∉ text) :
    translate_newlines text = text := by
  induction text with
  | nil => rfl
  | cons c text ih =>
    rw [List.mem_cons, not_or] at htext
    rw [translate_newlines, ih htext.2]
    · rintro cs rfl
      exact absurd rfl htext.1
    · exact fun hc => htext.1 hc.symm

namespace TextFile

/-- `path.exists()`. -/
def exists_ : TextFile → Bool
  | .missing => false
  | .unreadable | .present _ => true

/-- `path.read_text()` with the given decoder. -/
def read_text (decode : ByteArray → Option (List Char)) : TextFile → Except ReadError (List Char)
  | .missing | .unreadable => .error .OSError
  | .present contents =>
    match decode contents with
    | some text => .ok (translate_newlines text)
    | none => .error .UnicodeDecodeError

/-- A text without carriage returns is read as it was written. -/
theorem read_text_encode_utf8 {text : List Char} (htext : '\r' ∉ text) :
    (TextFile.present (encode_utf8 text)).read_text decode_utf8 = .ok text := by
  rw [read_text, decode_encode_utf8]
  exact congrArg Except.ok (translate_newlines_eq htext)

end TextFile

end Python
