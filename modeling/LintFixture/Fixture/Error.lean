import LintFixture.Raised.Basic
import LintFixture.Text.Quoted

/-!
# Faults of a fixture

What is wrong with the markup of a fixture, and where. Line numbers are those of the fixture file
and start at one. Whoever takes lines apart one by one numbers them as they like; a fault cannot be
told where a number in its message is too long to be written.
-/

namespace LintFixture

/-- How a line that starts like markup fails to be markup. -/
inductive Malformation
  | marked
  | legend
  deriving DecidableEq, Repr

/-- The wording of a malformation. -/
def Malformation.reason : Malformation → String
  | .marked => "malformed annotation line"
  | .legend => "legend tag must be followed by ': '"

/-- Why a fixture cannot be compared with a linter's findings. -/
inductive FixtureError
  /-- A line is neither markup nor free of it. -/
  | malformed (line : Int) (text : String) (reason : Malformation)
  /-- An annotation names a tag that no legend line defines. -/
  | unresolvedTag (tag : String) (line : Int)
  /-- A legend line defines a tag again. -/
  | duplicateTag (tag : String) (line first : Int)
  /-- An annotation comes before any source line. -/
  | dangling (line : Int)
  /-- Two annotations mark one position. -/
  | duplicatePosition (line column : Int)
  deriving DecidableEq, Repr

namespace FixtureError

/-- The word under which a result records the fault. -/
def failureKind : FixtureError → FailureKind
  | malformed .. => .format
  | unresolvedTag .. => .unresolvedTag
  | duplicateTag .. => .duplicateTag
  | dangling .. => .dangling
  | duplicatePosition .. => .duplicatePosition

/-- The name of the class of the fault. -/
def className : FixtureError → String
  | malformed .. => "FixtureFormatError"
  | unresolvedTag .. => "UnresolvedTagError"
  | duplicateTag .. => "DuplicateTagError"
  | dangling .. => "DanglingAnnotationError"
  | duplicatePosition .. => "DuplicatePositionError"

/-- The word that names the fault in a report. -/
def kind (e : FixtureError) : String := e.failureKind.word

/-- Puts the number of a fixture line before a text. -/
def atLine (line : Int) (text : String) : String :=
  "line " ++ toString line ++ ": " ++ text

/-- The message shown to the author of the fixture. -/
def message : FixtureError → String
  | malformed line text reason => atLine line (reason.reason ++ ": " ++ Text.quoted text)
  | unresolvedTag tag line => atLine line ("tag [" ++ tag ++ "] has no legend entry")
  | duplicateTag tag line first =>
    atLine line ("tag [" ++ tag ++ "] is already defined on line " ++ toString first)
  | dangling line => atLine line "annotation has no preceding source line"
  | duplicatePosition line column =>
    "two expected diagnostics at line " ++ toString (line + 1) ++ ", column "
      ++ toString (column + 1)

/-- The numbers that the message shows. -/
def numbers : FixtureError → List Int
  | malformed line .. => [line]
  | unresolvedTag _ line => [line]
  | duplicateTag _ line first => [line, first]
  | dangling line => [line]
  | duplicatePosition line column => [line + 1, column + 1]

/-- The message can be written. -/
def isWritable (e : FixtureError) : Bool := e.numbers.all hasNumeral

end FixtureError

end LintFixture
