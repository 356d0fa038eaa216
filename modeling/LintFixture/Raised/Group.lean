import LintFixture.Raised.Argument

/-!
# Groups of failures

A group has a message and a sequence of failures. No value is a failure, so a group cannot be made
of values; what is raised instead says why.
-/

namespace LintFixture

namespace Raised

/-- The class that refuses the arguments of groups. -/
def groupOwner : String := "BaseExceptionGroup.__new__()"

/-- The size of a sequence. -/
def sequenceSize? : Value → Option Nat
  | .list items => some items.length
  | .text s => some s.length
  | _ => none

/-- The refusal of the members of a group. -/
def membersFault (members : Value) : Fault :=
  match sequenceSize? members with
  | none => .badType "second argument (exceptions) must be a sequence"
  | some 0 => .badValue "second argument (exceptions) must be a non-empty sequence"
  | some _ => .badValue "Item 0 of second argument (exceptions) is not an exception"

/-- The refusal of the arguments of a group. -/
def groupFault (args : List Value) : Except Fault (Except Raised String) := do
  expectExactly groupOwner 2 args
  match args with
  | [message, members] =>
    let _ ← textAt (groupOwner ++ " ") 1 message
    .error (membersFault members)
  | _ => return .ok ""

end Raised

end LintFixture
