import LintFixture.Diagnostic
import LintFixture.Fixture.Legend
import LintFixture.Text.Lines

/-!
# Reading a fixture

A fixture is source with annotation lines and legend lines in between. Reading takes it apart: the
source lines alone are what the linter sees, and every annotation group becomes an expected
diagnostic on the source line above it, numbered among the source lines. Legend lines may stand
anywhere, so tags are looked up at the end.
-/

namespace LintFixture

/-- A mark and the number, among the source lines and from zero, of the line that it marks. -/
structure AnchoredMark where
  mark : Mark
  line : Nat
  deriving DecidableEq, Repr

/-- A fixture taken apart. -/
structure Fixture where
  sourceLines : List String
  expected : List Diagnostic
  legend : Legend
  deriving DecidableEq, Repr

/-- The text that the linter sees. -/
def Fixture.source (f : Fixture) : String :=
  Text.joinLines f.sourceLines

/-- What is known after some lines of a fixture; the order is that of reading. -/
structure Parser where
  sourceLines : Array String
  marks : Array AnchoredMark
  legend : Legend
  lineNumber : Nat
  deriving DecidableEq, Repr

namespace Parser

/-- Nothing is read yet. -/
def start : Parser := ⟨#[], #[], .empty, 0⟩

/-- A further line is counted. -/
def advance (p : Parser) : Parser :=
  { p with lineNumber := p.lineNumber + 1 }

/-- Takes in a line that is already counted. Marks belong to the last source line so far. A line
that does not fit leaves everything as it is. -/
def consume (p : Parser) : Line → Except FixtureError Unit × Parser
  | .source text => (.ok (), { p with sourceLines := p.sourceLines.push text })
  | .legend _ entry =>
    match p.legend.insert entry with
    | .ok legend => (.ok (), { p with legend := legend })
    | .error e => (.error e, p)
  | .marked _ marks =>
    if p.sourceLines.isEmpty then (.error (.dangling p.lineNumber), p)
    else
      let line := p.sourceLines.size - 1
      (.ok (), { p with marks := p.marks ++ marks.map fun m => AnchoredMark.mk m line })

/-- Reads the next line. A line at fault is counted and leaves no other trace. -/
def feed (p : Parser) (text : String) : Except FixtureError Unit × Parser :=
  let p := p.advance
  match Line.classify text p.lineNumber with
  | .ok line => p.consume line
  | .error e => (.error e, p)

/-- Reads lines up to the first one at fault. -/
def feedAll : Parser → List String → Except FixtureError Unit × Parser
  | p, [] => (.ok (), p)
  | p, text :: rest =>
    match p.feed text with
    | (.ok (), next) => next.feedAll rest
    | (.error e, next) => (.error e, next)

/-- The diagnostic that a mark expects. -/
def expectation (legend : Legend) (m : AnchoredMark) : Except FixtureError Diagnostic := do
  let message ← legend.resolve m.mark.tag m.mark.lineNumber
  return ⟨m.line, m.mark.column, some m.mark.width, message, none⟩

/-- Looks up the tags of all marks. -/
def finish (p : Parser) : Except FixtureError Fixture := do
  let expected ← p.marks.toList.mapM (expectation p.legend)
  return ⟨p.sourceLines.toList, expected, p.legend⟩

end Parser

/-- Takes lines of a fixture apart. -/
def Fixture.ofLines (lines : List String) : Except FixtureError Fixture :=
  match Parser.start.feedAll lines with
  | (.ok (), p) => p.finish
  | (.error e, _) => .error e

/-- Takes the text of a fixture apart. -/
def Fixture.parse (text : String) : Except FixtureError Fixture :=
  Fixture.ofLines (Text.splitLines text)

end LintFixture
