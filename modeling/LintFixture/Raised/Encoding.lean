import LintFixture.Raised.Argument
import LintFixture.Text.Quoted

/-!
# Faults of encoding and decoding

Such a fault says which characters of a text could not be brought into another form, and why. The
wording of what goes wrong in asking for a text leaves out where in memory the fault lies.
-/

namespace LintFixture

namespace Raised

/-- A character by its number, in as few digits as are usual for it. -/
def numbered (c : Char) : String :=
  String.ofList <|
    if c.toNat ≤ 0xff then '\\' :: 'x' :: Text.hexDigits 2 c.toNat
    else if c.toNat ≤ 0xffff then '\\' :: 'u' :: Text.hexDigits 4 c.toNat
    else '\\' :: 'U' :: Text.hexDigits 8 c.toNat

/-- The characters at fault: a single one by its number, several ones by their places. A single
one before the start of the text cannot be told, and asking for it goes wrong. -/
def spanText (kind text : String) (start stop : Int) : Except Raised String :=
  if stop = start + 1 then
    if start < 0 then
      .error (.failure "SystemError" ("<built-in method __format__ of " ++ kind
        ++ " object> returned a result with an exception set"))
    else
      .ok (match text.toList[start.toNat]? with
        | some c => "character '" ++ numbered c ++ "' in position " ++ toString start
        | none => severalText)
  else .ok severalText
where
  severalText := "characters in position " ++ toString start ++ "-" ++ toString (stop - 1)

/-- The text of a fault of encoding. -/
def encodeText (args : List Value) : Except Fault (Except Raised String) := do
  expectExactly "function" 5 args
  match args with
  | [encoding, object, start, stop, reason] =>
    let encoding ← textAt "" 1 encoding
    let object ← textAt "" 2 object
    let start ← placeIn start
    let stop ← placeIn stop
    let reason ← textAt "" 5 reason
    return (spanText "UnicodeEncodeError" object start stop).map fun span =>
      "'" ++ encoding ++ "' codec can't encode " ++ span ++ ": " ++ reason
  | _ => return .ok ""

/-- The text of a fault of mapping characters. -/
def mappingText (args : List Value) : Except Fault (Except Raised String) := do
  expectExactly "function" 4 args
  match args with
  | [object, start, stop, reason] =>
    let object ← textAt "" 1 object
    let start ← placeIn start
    let stop ← placeIn stop
    let reason ← textAt "" 4 reason
    return (spanText "UnicodeTranslateError" object start stop).map fun span =>
      "can't translate " ++ span ++ ": " ++ reason
  | _ => return .ok ""

/-- A fault of decoding cannot be made, as no value is a sequence of bytes. -/
def decodeFault (args : List Value) : Except Fault (Except Raised String) := do
  expectExactly "function" 5 args
  match args with
  | [encoding, object, start, stop, reason] =>
    let _ ← textAt "" 1 encoding
    let _ ← placeIn start
    let _ ← placeIn stop
    let _ ← textAt "" 5 reason
    .error (.badType ("a bytes-like object is required, not '" ++ object.kind ++ "'"))
  | _ => return .ok ""

end Raised

end LintFixture
