import LintFixture.Fixture.Parser
import LintFixture.Linter
import LintFixture.Result.Basic
import LintFixture.Text.Utf8

/-!
# Verifying a fixture

A fixture is read, taken apart, linted and compared. The first stage that fails decides the
result, so a fixture at fault does not keep others from being verified. Only an interrupt ends
the whole run, and a fault of the linter that cannot be told.

The faults of a fixture show numbers of its lines and columns. Out of scope are fixtures with so
many lines or columns that their numbers have no numerals.
-/

namespace LintFixture

/-- The text of a fixture file with the line ends of this library, or the failure to read it. A
path that is none is a fault. -/
def FileSystem.readFixture (fs : FileSystem) (path : Path) :
    Except Fault (Except FixtureFailure String) :=
  match fs.read path with
  | .error .embeddedNull => .error (.path .embeddedNull path.text)
  | .error fault => .ok (.error ⟨"io-error", fault.kind ++ ": " ++ fault.message path.text⟩)
  | .ok bytes =>
    match Text.decodeUtf8 bytes with
    | .error fault =>
      .ok (.error ⟨"io-error", (Fault.undecodable fault).kind ++ ": " ++ fault.message⟩)
    | .ok cs => .ok (.ok (String.ofList (Text.unixLines cs)))

namespace Fault

/-- The failure under which a fault is recorded for a fixture. Other faults are not recorded, and
one without a text makes way for what is raised in asking for it. -/
def recorded (w : Wording) (fault : Fault) : Except Fault FixtureFailure :=
  match fault.handling with
  | .recorded kind => (fault.text w).map fun text => ⟨kind.word, text⟩
  | _ => .error fault

/-- The failure of a fixture whose linter fails. An interrupt is not recorded. A fault without a
text makes way for what is raised in asking for it, which is recorded if it is a fault of fixtures
itself. -/
def linterFailure (w : Wording) (fault : Fault) : Except Fault FixtureFailure :=
  if fault.interrupts then .error fault
  else
    match fault.text w with
    | .ok text => .ok ⟨FailureKind.linter.word, fault.kind ++ ": " ++ text⟩
    | .error cause => cause.recorded w

end Fault

/-- The fault of a fixture as a failure. -/
def FixtureError.failure (e : FixtureError) : FixtureFailure := ⟨e.kind, e.message⟩

/-- Compares a fixture with what was reported on its source. -/
def Fixture.compare (f : Fixture) (reported : List Diagnostic) :
    Except FixtureFailure Comparison :=
  match Comparison.compare f.expected reported with
  | .ok c => .ok c
  | .error e => .error e.failure

/-- Verifies the text of a fixture: the comparison, the failure, or the fault that ends the run. -/
def verifyText (w : Wording) (linter : Linter) (config : Config) (text : String) :
    Except Fault (Except FixtureFailure Comparison) :=
  match Fixture.parse text with
  | .error e => .ok (.error e.failure)
  | .ok fixture =>
    match linter.diagnostics fixture.source config with
    | .error fault => (fault.linterFailure w).map .error
    | .ok reported => .ok (fixture.compare reported)

/-- The result that the outcome for a fixture comes to. -/
def FixtureResult.ofOutcome (path : Path) : Except FixtureFailure Comparison → FixtureResult
  | .ok c => .compared path c
  | .error e => .failed path e.kind e.message

/-- Verifies a fixture file. -/
def verify (fs : FileSystem) (linter : Linter) (config : Config) (path : Path) :
    Except Fault FixtureResult :=
  match fs.readFixture path with
  | .error fault => .error fault
  | .ok (.error e) => .ok (.failed path e.kind e.message)
  | .ok (.ok text) => (verifyText fs.wording linter config text).map (.ofOutcome path)

end LintFixture
