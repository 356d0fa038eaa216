import LintFixture.Number.Numeral

/-!
# What is raised

A linter, a rule and a rule module are the work of others and may raise anything. Of what is raised
the program sees the name of its class, which handlers catch it, and its text. The text is made
only when a handler asks for it, and that may go wrong: then something else is raised in the place
of the first.

Out of scope are classes that a collaborator derives from the faults of this program with a word of
their own for results: what is recorded is recorded under one of the words of `FailureKind`.
-/

namespace LintFixture

/-- The words under which a result records why a fixture was not compared. -/
inductive FailureKind
  | fixture
  | format
  | unresolvedTag
  | duplicateTag
  | dangling
  | duplicatePosition
  | linter
  | io
  deriving DecidableEq, Repr

/-- The word for a result. -/
def FailureKind.word : FailureKind → String
  | fixture => "fixture-error"
  | format => "format-error"
  | unresolvedTag => "unresolved-tag"
  | duplicateTag => "duplicate-tag"
  | dangling => "dangling-annotation"
  | duplicatePosition => "duplicate-position"
  | linter => "linter-error"
  | io => "io-error"

/-- Which handlers catch what is raised. -/
inductive Handling
  /-- Not even those for failures in general: it is meant to end the run. -/
  | interrupt
  /-- Those for failures in general. -/
  | failure
  /-- Also those that record why a fixture was not compared. -/
  | recorded (kind : FailureKind)
  /-- Also those that report a configuration that cannot be used. -/
  | config
  deriving DecidableEq, Repr

/-- What a collaborator raises. -/
inductive Raised
  | worded (kind : String) (handling : Handling) (text : String)
  /-- It has no text: asking for one raises `cause`. -/
  | wordless (kind : String) (handling : Handling) (cause : Raised)
  deriving DecidableEq, Repr

namespace Raised

/-- The name of the class. -/
def kind : Raised → String
  | worded kind _ _ => kind
  | wordless kind _ _ => kind

/-- Which handlers catch it. -/
def handling : Raised → Handling
  | worded _ handling _ => handling
  | wordless _ handling _ => handling

/-- The text, or what is raised in asking for it. -/
def text : Raised → Except Raised String
  | worded _ _ text => .ok text
  | wordless _ _ cause => .error cause

/-- What has a text if making it succeeds. -/
def ofText (kind : String) (handling : Handling) : Except Raised String → Raised
  | .ok text => worded kind handling text
  | .error cause => wordless kind handling cause

/-- An ordinary failure with a text. -/
def failure (kind text : String) : Raised := worded kind .failure text

/-- What is raised where a number is to be written that is too long for it. -/
def unwritable : Raised := failure "ValueError" (longNumeralText "")

end Raised

end LintFixture
