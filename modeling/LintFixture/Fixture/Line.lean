import LintFixture.Fixture.Error
import LintFixture.Fixture.Group

/-!
# Lines of a fixture

Every line is judged alone. It is an annotation line when it consists of groups and blanks, else a
legend line when it is a bracketed tag at its start, a colon, a space and a message, else a source
line. A line that starts like markup and is neither is refused.
-/

namespace LintFixture

/-- A span that an annotation marks: the columns of its tildes, the tag under which the legend
explains it, and the number of the fixture line. -/
structure Mark where
  column : Nat
  width : Nat
  tag : String
  lineNumber : Int
  deriving DecidableEq, Repr

/-- A line of the legend: what a tag stands for. -/
structure LegendEntry where
  tag : String
  message : String
  lineNumber : Int
  deriving DecidableEq, Repr

/-- A line of a fixture by its kind. -/
inductive Line
  | source (text : String)
  | marked (text : String) (marks : List Mark)
  | legend (text : String) (entry : LegendEntry)
  deriving DecidableEq, Repr

/-- The marks of groups, the blanks before the first of which start at `column`. -/
def GroupLine.marksFrom (lineNumber : Int) : Nat → List (List Char × Group) → List Mark
  | _, [] => []
  | column, (blanks, group) :: rest =>
    let start := column + blanks.length
    ⟨start, group.tildes, String.ofList group.tag, lineNumber⟩
      :: marksFrom lineNumber (start + group.render.length) rest

/-- The marks of an annotation line, from left to right. -/
def GroupLine.marks (lineNumber : Int) (a : GroupLine) : List Mark :=
  marksFrom lineNumber 0 a.groups

/-- Reads a tag in brackets and a colon at the start of a line: the tag and what follows. -/
def scanLegendTag? : List Char → Option (List Char × List Char)
  | '[' :: inside =>
    let tag := inside.takeWhile isTagChar
    match inside.dropWhile isTagChar with
    | ']' :: ':' :: rest => if tag.isEmpty then none else some (tag, rest)
    | _ => none
  | _ => none

/-- Reads a legend line: its tag and its message, which has no line feed. -/
def scanLegend? (cs : List Char) : Option (List Char × List Char) :=
  match scanLegendTag? cs with
  | some (tag, ' ' :: message) => if message.contains '\n' then none else some (tag, message)
  | _ => none

namespace Line

/-- The text of the line. -/
def text : Line → String
  | source text => text
  | marked text _ => text
  | legend text _ => text

/-- Tells the kind of a line, or why it has none. -/
def classify (text : String) (lineNumber : Int) : Except FixtureError Line :=
  let cs := text.toList
  match GroupLine.scan? cs with
  | some a => .ok (marked text (a.marks lineNumber))
  | none =>
    match scanLegend? cs with
    | some (tag, message) =>
      .ok (legend text ⟨String.ofList tag, String.ofList message, lineNumber⟩)
    | none =>
      if isAnnotationLike cs then .error (.malformed lineNumber text .marked)
      else if (scanLegendTag? cs).isSome then .error (.malformed lineNumber text .legend)
      else .ok (source text)

end Line

end LintFixture
