/-!
# Diagnostics

A diagnostic is what a linter reports and what a fixture expects: a place in the source, a message
and, where known, the length of the span and the rule. Lines and columns start at zero and count
code points; texts for readers show them from one.

Reading a diagnostic from a value checks that no number is negative. A linter that makes diagnostics
itself can leave that out, so the numbers here may be any whole ones. Out of scope are diagnostics
that were made without a field, or with something of another kind in it.
-/

namespace LintFixture

/-- A line and a column, ordered by line first. -/
abbrev Position := Int × Int

/-- The order of positions as a test. -/
def Position.le (a b : Position) : Bool :=
  decide (a.1 < b.1) || (a.1 == b.1 && decide (a.2 ≤ b.2))

/-- A finding of a linter, or one that a fixture expects. -/
structure Diagnostic where
  line : Int
  column : Int
  width : Option Int
  message : String
  rule : Option String
  deriving DecidableEq, Repr

namespace Diagnostic

/-- The place by which diagnostics are matched. -/
def position (d : Diagnostic) : Position := (d.line, d.column)

/-- The line and column as an editor shows them. -/
def pointer (d : Diagnostic) : String :=
  toString (d.line + 1) ++ ":" ++ toString (d.column + 1)

/-- Sorts by position; diagnostics at one position keep their order. -/
def sorted (ds : List Diagnostic) : List Diagnostic :=
  ds.mergeSort fun a b => a.position.le b.position

end Diagnostic

end LintFixture
