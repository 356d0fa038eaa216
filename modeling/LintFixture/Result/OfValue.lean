import LintFixture.Result.Basic
import LintFixture.Validation.Diagnostic

/-!
# Results out of values

Results that were written as mappings are read by their fields. Other fields are ignored.
-/

namespace LintFixture

/-- Reads a mapping by its fields. -/
def Value.toRecord (read : Fields → Validated α) : Value → Validated α
  | .mapping entries => read (.ofEntries entries)
  | _ => .fail .modelType

/-- Reads a list of records. -/
def Value.toRecords (read : Value → Validated α) (v : Value) : Validated (List α) :=
  match v.toList with
  | .ok items => Validated.items read items
  | .error issues => .error issues

/-- Reads a path. -/
def Value.toPath : Value → Validated Path
  | .text s => .ok (Path.ofText s)
  | _ => .fail .pathType

namespace Comparison

/-- Reads a mismatch. -/
def mismatchOf : Value → Validated Mismatch :=
  Value.toRecord fun fields =>
    ((fields.required "expected" Diagnostic.ofMapping).both
      (fields.required "actual" Diagnostic.ofMapping)).map
      fun (expected, actual) => ⟨expected, actual⟩

/-- Reads a comparison. -/
def ofValue : Value → Validated Comparison :=
  Value.toRecord fun fields =>
    ((fields.defaulted "missing" [] (Value.toRecords Diagnostic.ofMapping)).both
      ((fields.defaulted "unexpected" [] (Value.toRecords Diagnostic.ofMapping)).both
        (fields.defaulted "mismatched" [] (Value.toRecords mismatchOf)))).map
      fun (missing, unexpected, mismatched) => ⟨missing, unexpected, mismatched⟩

end Comparison

/-- Reads the failure of a fixture. -/
def FixtureFailure.ofValue : Value → Validated FixtureFailure :=
  Value.toRecord fun fields =>
    ((fields.required "kind" Value.toText).both (fields.required "message" Value.toText)).map
      fun (kind, message) => ⟨kind, message⟩

/-- Reads the result of a fixture. -/
def FixtureResult.ofValue : Value → Validated FixtureResult :=
  Value.toRecord fun fields =>
    ((fields.required "path" Value.toPath).both
      ((fields.optional "comparison" Comparison.ofValue).both
        (fields.optional "error" FixtureFailure.ofValue))).map
      fun (path, comparison, error) => ⟨path, comparison, error⟩

/-- Reads the results of a batch. -/
def Batch.ofValues (results : List Value) : Validated Batch :=
  (Validated.under (.key "results") (Validated.items FixtureResult.ofValue results)).map (⟨·⟩)

end LintFixture
