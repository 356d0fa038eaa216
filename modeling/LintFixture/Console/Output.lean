import LintFixture.Console.Screen
import LintFixture.Raised.Class
import LintFixture.Result.Report

/-!
# Printing reports

A report is printed as a heading, status lines and detail lines. Colour decides the form of the
heading everywhere and the escape sequences on a terminal; emoji mark the status lines.
-/

namespace LintFixture

/-- What a status line reports. -/
inductive Status
  | ok
  | warn
  | fail
  deriving DecidableEq, Repr

namespace Status

/-- The status with a name. -/
def ofName (name : String) : Except Fault Status :=
  match name with
  | "ok" => .ok ok
  | "warn" => .ok warn
  | "fail" => .ok fail
  | _ => .error (.ofClass "KeyError" [.text name])

/-- The emoji of a status. -/
def mark : Status → String
  | ok => "✅ "
  | warn => "⚠️ "
  | fail => "❌ "

/-- The number of the colour of a status. -/
def colour : Status → String
  | ok => "32"
  | warn => "33"
  | fail => "31"

end Status

/-- A piece of a printed report. -/
inductive Printed
  | heading (title : String)
  | status (kind : Status) (message : String)
  | detail (message : String)
  deriving DecidableEq, Repr

/-- How reports are printed: in colour, with emoji, and to a terminal that takes escape
sequences. -/
structure Style where
  color : Bool
  emoji : Bool
  terminal : Bool
  deriving DecidableEq, Repr

namespace Style

/-- Wraps a text in a colour; an empty text stays. -/
def painted (colour : String) (cs : List Char) : List Char :=
  if cs.isEmpty then []
  else '\x1b' :: '[' :: colour.toList ++ 'm' :: cs ++ ['\x1b', '[', '0', 'm']

/-- Wraps a text in a colour where this style has colours. -/
def paint (s : Style) (colour : String) (cs : List Char) : List Char :=
  if s.color && s.terminal then painted colour cs else cs

/-- Ends every line; the lines are given in pieces. -/
def ended (lines : List (List (List Char))) : List Char :=
  lines.flatMap fun pieces => pieces.flatten ++ ['\n']

/-- The colour of the rule around a title. -/
def ruleColour : String := "92"

/-- A heading in colour: an empty line and a rule across the screen around the title. -/
def colourHeading (s : Style) (title : String) : List Char :=
  if title = "" then
    ended [[], [s.paint ruleColour (List.replicate Screen.width '─')]]
  else
    let (left, shown, right) := Screen.titledRule title
    ended [[], [s.paint ruleColour left, shown, s.paint ruleColour right]]

/-- What is printed for a piece of a report. A status line takes its colour anew after a tab. -/
def write (s : Style) : Printed → List Char
  | .heading title =>
    if s.color then s.colourHeading title
    else ended (Screen.linesOf ("\n--- " ++ title ++ " ---"))
  | .status kind message =>
    let text := if s.emoji then kind.mark ++ message else message
    ended ((Screen.linesOf text).map (List.map (s.paint kind.colour)))
  | .detail message => ended (Screen.linesOf message)

/-- What is printed for a report. -/
def writeAll (s : Style) (pieces : List Printed) : String :=
  String.ofList (pieces.flatMap s.write)

end Style

namespace Report

/-- The pieces for one fixture: its status, and the details if it does not pass. -/
def fixturePieces (root : Option Path) (r : FixtureResult) : List Printed :=
  let name := displayPath root r.path
  if r.passed then [.status .ok (name ++ ": passed")]
  else .status .fail (name ++ ": failed") :: (details r).map .detail

/-- What printing comes to: the pieces that are printed, and the answer at the end or the fault
that stops it. -/
structure Printout (α : Type) where
  pieces : List Printed
  outcome : Except Fault α

/-- What printing comes to that begins with some pieces. -/
def Printout.after (pieces : List Printed) (p : Printout α) : Printout α :=
  { p with pieces := pieces ++ p.pieces }

/-- Prints results of a batch and its summary. A report that cannot be written stops it. -/
def printResults (root : Option Path) (b : Batch) : List FixtureResult → Printout Bool
  | [] => ⟨[.status (if b.passed then .ok else .fail) b.summary], .ok b.passed⟩
  | r :: rest =>
    match write root r with
    | .error fault => ⟨[], .error fault⟩
    | .ok _ => (printResults root b rest).after (fixturePieces root r)

/-- Prints the report of a batch, and tells whether the batch passes. -/
def print (root : Option Path) (b : Batch) : Printout Bool :=
  (if b.results.isEmpty then ⟨[.status .warn "No fixtures found"], .ok b.passed⟩
    else printResults root b b.results).after [.heading "Rule tests"]

end Report

end LintFixture
