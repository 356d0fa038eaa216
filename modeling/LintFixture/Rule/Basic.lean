import LintFixture.Diagnostic
import LintFixture.Fault
import LintFixture.Text.Lines

/-!
# Rules

A rule is a function from options, a name and source to findings. The name under which the
configuration enables it is the one that its findings carry.

A rule that keeps something from one source for the next is out of scope.
-/

namespace LintFixture

/-- A rule: what it is called in messages about it, the name that it declares, which may be empty,
and its check of a source. -/
structure Rule where
  label : String
  name : String
  check : (options : List Value) → (name source : String) → Except Fault (List Diagnostic)

namespace Rule

/-- A span of a line and the message about it. -/
structure Finding where
  column : Nat
  width : Nat
  message : String

/-- The diagnostics of a rule that looks at every line by itself. -/
def diagnosticsOf (name source : String) (find : List Char → List Finding) : List Diagnostic :=
  (Text.splitLines source).zipIdx.flatMap fun (text, line) =>
    (find text.toList).map fun f => ⟨line, f.column, some f.width, f.message, some name⟩

/-- A rule that looks at every line by itself and never fails. -/
def ofLines (label name : String) (find : List Value → List Char → List Finding) : Rule where
  label := label
  name := name
  check options name source := .ok (diagnosticsOf name source (find options))

end Rule

end LintFixture
