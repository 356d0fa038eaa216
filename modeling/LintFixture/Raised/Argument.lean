import LintFixture.Items

/-!
# Arguments of what is raised

A collaborator names a class and its arguments. Arguments that do not suit the class are a fault of
their own, which then is what the collaborator raises. Most classes show their arguments only when
they are asked for a text, and have none if an argument holds a number that is too long for one.
-/

namespace LintFixture

namespace Fault

/-- An argument of an unsuitable kind. -/
def badType (text : String) : Fault := .raised (.failure "TypeError" text)

/-- An argument of a suitable kind with an unsuitable value. -/
def badValue (text : String) : Fault := .raised (.failure "ValueError" text)

end Fault

namespace Raised

/-- The text of arguments: nothing, the argument itself, or all of them in parentheses. -/
def argumentText : List Value → String
  | [] => ""
  | [v] => v.display
  | args => Value.tupleText (Value.literals args)

/-- A text that shows values, if all of them can be written. -/
def showing (shown : List Value) (text : String) : Except Raised String :=
  if Value.areWritable shown then .ok text else .error unwritable

/-- Refuses any other number of arguments than the right one. -/
def expectExactly (owner : String) (count : Nat) (args : List Value) : Except Fault Unit :=
  if args.length = count then .ok ()
  else
    .error (.badType (owner ++ " takes exactly " ++ toString count ++ " arguments ("
      ++ toString args.length ++ " given)"))

/-- Takes a text as the argument at a place, which starts at one. -/
def textAt (owner : String) (place : Nat) : Value → Except Fault String
  | .text s => .ok s
  | v =>
    let given := match v with
      | .null => "None"
      | _ => v.kind
    .error (.badType (owner ++ "argument " ++ toString place ++ " must be str, not " ++ given))

/-- The refusal of a value where a whole number is needed. -/
def notWhole (v : Value) : Fault :=
  .badType ("'" ++ v.kind ++ "' object cannot be interpreted as an integer")

/-- Takes a whole number that is a size or a place, which has to fit a word. -/
def placeIn : Value → Except Fault Int
  | .bool b => .ok (if b then 1 else 0)
  | .int n =>
    if fitsWord n then .ok n
    else .error (.raised (.failure "OverflowError" "Python int too large to convert to C ssize_t"))
  | v => .error (notWhole v)

end Raised

end LintFixture
