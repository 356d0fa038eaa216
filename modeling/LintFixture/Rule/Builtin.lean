import LintFixture.Rule.BannedWords
import LintFixture.Rule.LineLength
import LintFixture.Rule.TrailingBlank

/-!
# The rules that are always there

The built-in rules need no rules directory. They report blanks at the ends of lines, lines that are
too long, and banned words.
-/

namespace LintFixture

namespace Rule

/-- The rules that need no rules directory. -/
def builtin : List Rule :=
  [trailingBlank, lineLength, bannedWordsRule]

/-- The built-in rule with a label. -/
def builtin? (label : String) : Option Rule :=
  builtin.find? (·.label == label)

/-- Runs a rule under a name; the empty name stands for the one that the rule declares. -/
def run (rule : Rule) (options : List Value) (name source : String) :
    Except Fault (List Diagnostic) :=
  rule.check options (if name = "" then rule.name else name) source

end Rule

end LintFixture
