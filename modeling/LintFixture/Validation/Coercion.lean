import LintFixture.Validation.WholeText
import LintFixture.Value

/-!
# Reading values as numbers, texts and truth values

A whole number may also be written as a truth value, a floating point number without fraction or a
text, and a truth value as a number or a word. Texts are taken only from texts. `Fields` gives
mappings and objects with attributes one shape.
-/

namespace LintFixture

namespace Value

/-- A floating point number as the whole number that it is equal to. The least number of a word is
refused with those beyond. -/
def floatToInt (x : Binary64) : Validated Int :=
  match x.toInt? with
  | some n => if fitsWord n && n != -0x8000000000000000 then .ok n else .fail .intParsingSize
  | none => .fail (if x.isFinite then .intFromFloat else .finiteNumber)

/-- Reads a value as a whole number. -/
def toInt : Value → Validated Int
  | bool b => .ok (if b then 1 else 0)
  | int n => .ok n
  | float x => floatToInt x
  | text s => WholeText.read s
  | _ => .fail .intType

/-- Reads a value as a whole number that is not negative. -/
def toNonnegative (v : Value) : Validated Int :=
  match v.toInt with
  | .ok n => if 0 ≤ n then .ok n else .fail .greaterThanEqual
  | .error issues => .error issues

/-- The words for truth and falsity, in lower case. -/
def readBool? (s : String) : Option Bool :=
  let word := s.toList.map Char.toLower
  if ["1", "t", "y", "on", "yes", "true"].any (·.toList == word) then some true
  else if ["0", "f", "n", "off", "no", "false"].any (·.toList == word) then some false
  else none

/-- A number as a truth value. Numbers beyond a word are not even looked at. -/
def intToBool (n : Int) : Validated Bool :=
  if n = 0 then .ok false else if n = 1 then .ok true
  else .fail (if fitsWord n then .boolParsing else .boolType)

/-- Reads a value as a truth value. -/
def toBool : Value → Validated Bool
  | bool b => .ok b
  | int n => intToBool n
  | float x =>
    match floatToInt x with
    | .ok n => intToBool n
    | .error _ => .fail .boolType
  | text s =>
    match readBool? s with
    | some b => .ok b
    | none => .fail .boolParsing
  | _ => .fail .boolType

/-- Takes a text. -/
def toText : Value → Validated String
  | text s => .ok s
  | _ => .fail .stringType

/-- Takes a list, or the named fields of a setting. -/
def toList : Value → Validated (List Value)
  | list items => .ok items
  | setting enabled options => .ok (settingPairs enabled options)
  | _ => .fail .tupleType

end Value

/-- The named parts of a value. -/
abbrev Fields := String → Option Value

namespace Fields

/-- The parts of a mapping. -/
def ofEntries (entries : List (String × Value)) : Fields := fun name => entries.lookup name

/-- A part that has to be there. -/
def required (fields : Fields) (name : String) (check : Value → Validated α) : Validated α :=
  Validated.under (.key name) <|
    match fields name with
    | some v => check v
    | none => .fail .missing

/-- A part that has a default. -/
def defaulted (fields : Fields) (name : String) (absent : α) (check : Value → Validated α) :
    Validated α :=
  match fields name with
  | some v => Validated.under (.key name) (check v)
  | none => .ok absent

/-- A part that may be absent or null. -/
def optional (fields : Fields) (name : String) (check : Value → Validated α) :
    Validated (Option α) :=
  fields.defaulted name none fun
    | .null => .ok none
    | v => (check v).map some

end Fields

end LintFixture
