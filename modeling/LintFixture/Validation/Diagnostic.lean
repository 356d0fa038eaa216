import LintFixture.Diagnostic
import LintFixture.Validation.Coercion

/-!
# Diagnostics out of values

A linter may hand back diagnostics as mappings or as objects with attributes. Both are read by the
same fields; others are ignored. Attributes that are worked out when they are asked for are out of
scope.
-/

namespace LintFixture

namespace Diagnostic

/-- Reads a diagnostic by its fields. -/
def ofFields (fields : Fields) : Validated Diagnostic :=
  ((fields.required "line" Value.toNonnegative).both
    ((fields.required "column" Value.toNonnegative).both
      ((fields.optional "width" Value.toNonnegative).both
        ((fields.required "message" Value.toText).both
          (fields.optional "rule" Value.toText))))).map
    fun (line, column, width, message, rule) => ⟨line, column, width, message, rule⟩

/-- The fields by which a value can be read as a diagnostic. -/
def fieldsOf? : Value → Option Fields
  | .mapping entries => some (.ofEntries entries)
  | .record attributes => some (.ofEntries attributes)
  | .setting enabled options =>
    some (.ofEntries [("enabled", .bool enabled), ("options", .list options)])
  | _ => none

/-- Reads a mapping or an object with attributes as a diagnostic. -/
def ofValue (v : Value) : Validated Diagnostic :=
  match fieldsOf? v with
  | some fields => ofFields fields
  | none => .fail .modelAttributesType

/-- Reads a mapping as a diagnostic. -/
def ofMapping : Value → Validated Diagnostic
  | .mapping entries => ofFields (.ofEntries entries)
  | _ => .fail .modelType

/-- A diagnostic as a mapping. -/
def toValue (d : Diagnostic) : Value :=
  .mapping [("line", .int d.line), ("column", .int d.column),
    ("width", match d.width with
      | some w => .int w
      | none => .null),
    ("message", .text d.message),
    ("rule", match d.rule with
      | some r => .text r
      | none => .null)]

end Diagnostic

end LintFixture
