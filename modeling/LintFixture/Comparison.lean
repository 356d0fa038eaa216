import LintFixture.Diagnostic
import LintFixture.Fault

/-!
# Comparing expected and reported diagnostics

Diagnostics are paired by position. At a position each expected diagnostic claims one reported
there, one that agrees with it if there is such; what it claims either satisfies it or makes a
mismatch. Expected diagnostics without any reported at their position are missing, and reported
ones that nobody claims are unexpected.
-/

namespace LintFixture

/-- An expected diagnostic and one reported at its position that does not agree with it. -/
structure Mismatch where
  expected : Diagnostic
  actual : Diagnostic
  deriving DecidableEq, Repr

/-- The discrepancies between what a fixture expects and what a linter reports. -/
structure Comparison where
  missing : List Diagnostic
  unexpected : List Diagnostic
  mismatched : List Mismatch
  deriving DecidableEq, Repr

/-- A reported diagnostic is as expected: the messages are equal, and so are the widths unless one
of the two has none. -/
def Diagnostic.agrees (expected actual : Diagnostic) : Bool :=
  expected.message == actual.message &&
    match expected.width, actual.width with
    | some e, some a => e == a
    | _, _ => true

/-- Takes the first element with a property out of a list. -/
def extractFirst (p : α → Bool) : List α → Option (α × List α)
  | [] => none
  | a :: rest =>
    if p a then some (a, rest) else (extractFirst p rest).map fun (x, l) => (x, a :: l)

namespace Comparison

/-- There is no discrepancy. -/
def passed (c : Comparison) : Bool :=
  c.missing.isEmpty && c.unexpected.isEmpty && c.mismatched.isEmpty

/-- The reported diagnostic that an expected one claims, and those that are left: the first one at
its position that agrees, else the first one at its position. -/
def claim (wanted : Diagnostic) (reported : List Diagnostic) :
    Option (Diagnostic × List Diagnostic) :=
  (extractFirst (fun d => d.position == wanted.position && wanted.agrees d) reported) <|>
    extractFirst (fun d => d.position == wanted.position) reported

/-- What becomes of the expected diagnostics, in their order, and of the reported ones. -/
structure Matching where
  satisfied : List (Diagnostic × Diagnostic)
  missing : List Diagnostic
  mismatched : List Mismatch
  unclaimed : List Diagnostic

/-- Every expected diagnostic in turn claims a reported one. -/
def pair : List Diagnostic → List Diagnostic → Matching
  | [], reported => ⟨[], [], [], reported⟩
  | wanted :: rest, reported =>
    match claim wanted reported with
    | none =>
      let m := pair rest reported
      { m with missing := wanted :: m.missing }
    | some (claimed, left) =>
      let m := pair rest left
      if wanted.agrees claimed then { m with satisfied := (wanted, claimed) :: m.satisfied }
      else { m with mismatched := ⟨wanted, claimed⟩ :: m.mismatched }

/-- The first expected diagnostic whose position an earlier one has. -/
def repeated? : List Position → List Diagnostic → Option Diagnostic
  | _, [] => none
  | seen, d :: rest =>
    if seen.contains d.position then some d else repeated? (d.position :: seen) rest

/-- The discrepancies of a matching, sorted by position. -/
def ofMatching (m : Matching) : Comparison where
  missing := Diagnostic.sorted m.missing
  unexpected := Diagnostic.sorted m.unclaimed
  mismatched := m.mismatched.mergeSort fun a b => a.expected.position.le b.expected.position

/-- Compares what a fixture expects with what a linter reports. Positions cannot be expected
twice. -/
def compare (expected reported : List Diagnostic) : Except FixtureError Comparison :=
  match repeated? [] expected with
  | some d => .error (.duplicatePosition d.line d.column)
  | none => .ok (ofMatching (pair expected reported))

/-- Compares any diagnostics. Where a position is expected twice, the fault has to be told, and
that goes wrong for a position that is too far to be written. -/
def ofDiagnostics (expected reported : List Diagnostic) : Except Fault Comparison :=
  (compare expected reported).mapError FixtureError.raised

end Comparison

end LintFixture
