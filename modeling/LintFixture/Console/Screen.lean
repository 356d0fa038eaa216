import LintFixture.Text.Cluster
import LintFixture.Text.Lines

/-!
# Text on a terminal

The terminal is eighty cells wide. Control characters that would move the cursor are dropped, tabs
are written as blanks, and lines are never wrapped. Terminals of another width are out of scope.
-/

namespace LintFixture

namespace Screen

/-- The cells of a line. -/
def width : Nat := 80

/-- Control characters that are not printed: bell, backspace, vertical tab, form feed and carriage
return. -/
def isDropped (c : Char) : Bool :=
  c == '\x07' || c == '\x08' || c == '\x0b' || c == '\x0c' || c == '\r'

/-- A text without the control characters that are not printed. -/
def printed (cs : List Char) : List Char := cs.filter fun c => !isDropped c

/-- The blanks that a tab after a text adds to the one that it is written as: up to the next
multiple of eight cells. -/
def tabFilling (part : List Char) : Nat :=
  (8 - Text.cells (part ++ [' ']) % 8) % 8

/-- A line in pieces, each of which ends with a tab but for the last one. Tabs are written as
blanks. -/
def tabPieces (line : List Char) : List (List Char) :=
  let parts := line.splitOn '\t'
  let ended := parts.dropLast.map fun part =>
    part ++ List.replicate (tabFilling part + 1) ' '
  ended ++ [parts.getLastD []]

/-- The lines that a text is printed in, each in its pieces. -/
def linesOf (text : String) : List (List (List Char)) :=
  ((printed text.toList).splitOn '\n').map tabPieces

/-- A text of at most a number of cells; a longer one ends in an ellipsis. -/
def shorten (size : Nat) (cs : List Char) : List Char :=
  if Text.cells cs ≤ size then cs else Text.fitted (size - 1) cs ++ ['…']

/-- The parts of a line across the screen with a title in its middle: the rule before it, the
title, and the rule after it. The left side is the shorter one. -/
def titledRule (title : String) : List Char × List Char × List Char :=
  let line := (printed title.toList).map fun c => if c = '\n' then ' ' else c
  let shown := shorten (width - 4) (tabPieces line).flatten
  let side := (width - Text.cells shown) / 2
  let left := List.replicate (side - 1) '─' ++ [' ']
  let whole := Text.fitted width (left ++ shown ++ ' ' :: List.replicate (side + 1) '─')
  (left, shown, whole.drop (left.length + shown.length))

end Screen

end LintFixture
