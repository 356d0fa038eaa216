import LintFixture.Comparison
import LintFixture.Storage.Path

/-!
# Results

The result of a fixture is a comparison, or the failure that prevented one. Only a comparison
without discrepancies passes. A batch is the results of many fixtures in order.
-/

namespace LintFixture

/-- Why a fixture was not compared. -/
structure FixtureFailure where
  kind : String
  message : String
  deriving DecidableEq, Repr

/-- The result of one fixture. -/
structure FixtureResult where
  path : Path
  comparison : Option Comparison
  error : Option FixtureFailure
  deriving DecidableEq, Repr

namespace FixtureResult

/-- The fixture was compared and shows no discrepancy. -/
def passed (r : FixtureResult) : Bool :=
  r.error.isNone && r.comparison.any (·.passed)

/-- The result of a fixture that was compared. -/
def compared (path : Path) (c : Comparison) : FixtureResult := ⟨path, some c, none⟩

/-- The result of a fixture that was not compared. -/
def failed (path : Path) (kind message : String) : FixtureResult :=
  ⟨path, none, some ⟨kind, message⟩⟩

end FixtureResult

/-- The results of fixtures in order. -/
structure Batch where
  results : List FixtureResult
  deriving DecidableEq, Repr

namespace Batch

/-- Every fixture passes. -/
def passed (b : Batch) : Bool := b.results.all (·.passed)

/-- The results that do not pass. -/
def failures (b : Batch) : List FixtureResult := b.results.filter fun r => !r.passed

/-- One batch of several ones, in order. -/
def merge (batches : List Batch) : Batch := ⟨batches.flatMap (·.results)⟩

end Batch

end LintFixture
