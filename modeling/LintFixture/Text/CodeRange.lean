/-!
# Ranges of code points

Character classes that no short rule describes are ascending lists of inclusive ranges.
-/

namespace LintFixture.Text

/-- An inclusive range of code points, first and last. -/
abbrev CodeRange := Nat × Nat

/-- Membership in an ascending list of ranges; the search stops at the first range beyond. -/
def inRanges : List CodeRange → Nat → Bool
  | [], _ => false
  | (lo, hi) :: rest, n => if n < lo then false else decide (n ≤ hi) || inRanges rest n

end LintFixture.Text
