import LintFixture.Fault
import LintFixture.Result.Basic
import LintFixture.Text.Quoted

/-!
# Reports

A report names a fixture in its first line and says in further lines what is wrong with it.
Places are shown as an editor shows them, messages in quotes. A report with a number that is too
long to be written cannot be written at all.
-/

namespace LintFixture

namespace Report

/-- A diagnostic without its place: the message, the width and the rule, as far as they are
known. -/
def describe (d : Diagnostic) : String :=
  Text.quoted d.message
    ++ (match d.width with
      | some w => " (width " ++ toString w ++ ")"
      | none => "")
    ++ (match d.rule with
      | some rule => if rule = "" then "" else " [" ++ rule ++ "]"
      | none => "")

/-- The path of a fixture, shortened where it lies below the root of the report. -/
def displayPath (root : Option Path) (path : Path) : String :=
  match root with
  | none => path.text
  | some root =>
    match root.relativeTo? path with
    | some short => short.text
    | none => path.text

/-- The line about an expected diagnostic that was not reported. -/
def missingLine (d : Diagnostic) : String :=
  "  " ++ d.pointer ++ " missing: expected " ++ describe d

/-- The line about a reported diagnostic that was not expected. -/
def unexpectedLine (d : Diagnostic) : String :=
  "  " ++ d.pointer ++ " unexpected: got " ++ describe d

/-- The line about a reported diagnostic that differs from the expected one. -/
def mismatchedLine (m : Mismatch) : String :=
  "  " ++ m.expected.pointer ++ " mismatched: expected " ++ describe m.expected ++ ", got "
    ++ describe m.actual

/-- The lines about discrepancies. -/
def discrepancyLines (c : Comparison) : List String :=
  c.missing.map missingLine ++ c.unexpected.map unexpectedLine
    ++ c.mismatched.map mismatchedLine

/-- The line about a failure. -/
def failureLine (e : FixtureFailure) : String :=
  "  error [" ++ e.kind ++ "]: " ++ e.message

/-- The lines of a report after the first one. -/
def details (r : FixtureResult) : List String :=
  match r.error, r.comparison with
  | some e, _ => [failureLine e]
  | none, some c => discrepancyLines c
  | none, none => []

/-- The lines of the report of a fixture. -/
def lines (root : Option Path) (r : FixtureResult) : List String :=
  displayPath root r.path :: details r

/-! ## Numbers in reports -/

/-- The numbers in the place of a diagnostic. -/
def placeNumbers (d : Diagnostic) : List Int := [d.line + 1, d.column + 1]

/-- The numbers in a line about a diagnostic. -/
def diagnosticNumbers (d : Diagnostic) : List Int := placeNumbers d ++ d.width.toList

/-- The numbers in a line about two diagnostics. -/
def mismatchNumbers (m : Mismatch) : List Int :=
  diagnosticNumbers m.expected ++ m.actual.width.toList

/-- The numbers of diagnostics that a report shows. -/
def numbers (r : FixtureResult) : List Int :=
  match r.error, r.comparison with
  | some _, _ => []
  | none, some c =>
    c.missing.flatMap diagnosticNumbers ++ c.unexpected.flatMap diagnosticNumbers
      ++ c.mismatched.flatMap mismatchNumbers
  | none, none => []

/-- Writes what shows numbers, all of which need numerals. -/
def withNumbers (ns : List Int) (shown : α) : Except Fault α :=
  if ns.all hasNumeral then .ok shown else .error .unwritable

/-- Writes the place of a diagnostic. -/
def writePlace (d : Diagnostic) : Except Fault String := withNumbers (placeNumbers d) d.pointer

/-- Writes the report of a fixture. -/
def write (root : Option Path) (r : FixtureResult) : Except Fault (List String) :=
  withNumbers (numbers r) (lines root r)

end Report

/-- How many fixtures of a batch pass and fail. -/
def Batch.summary (b : Batch) : String :=
  let total := b.results.length
  let failed := b.failures.length
  toString total ++ " fixture" ++ (if total = 1 then "" else "s") ++ ": "
    ++ toString (total - failed) ++ " passed, " ++ toString failed ++ " failed"

end LintFixture
