import LintFixture.Rule.Basic

/-!
# No blanks at the end of a line

The rule reports the spaces and tabs that end a line as one span.
-/

namespace LintFixture

namespace Rule

/-- The blanks that end a line, if it ends in any. -/
def findTrailingBlank (cs : List Char) : List Finding :=
  let blanks := cs.reverse.takeWhile fun c => c == ' ' || c == '\t'
  if blanks.isEmpty then []
  else [⟨cs.length - blanks.length, blanks.length, "trailing whitespace"⟩]

/-- Disallows blanks at the end of a line. -/
def trailingBlank : Rule :=
  ofLines "NoTrailingWhitespaceRule" "no-trailing-whitespace" fun _ => findTrailingBlank

end Rule

end LintFixture
