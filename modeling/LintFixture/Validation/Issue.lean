/-!
# Issues of validation

Reading a value as a typed record finds all faults at once. Each issue says what is wrong and the
keys and indices that lead to the value at fault. Its wording is left to `Wording`, apart from the
texts that the checks of this library bring along.
-/

namespace LintFixture

/-- What is wrong with a value. -/
inductive IssueKind
  | missing
  | intType
  | intParsing
  | intParsingSize
  | intFromFloat
  | finiteNumber
  | greaterThanEqual
  | stringType
  | boolType
  | boolParsing
  | tupleType
  | dictType
  | pathType
  | modelType
  | modelAttributesType
  | extraForbidden
  /-- A rule of the record's own is broken; the text says which. -/
  | broken (message : String)
  deriving DecidableEq, Repr

/-- The word that names a kind of issue. -/
def IssueKind.name : IssueKind → String
  | missing => "missing"
  | intType => "int_type"
  | intParsing => "int_parsing"
  | intParsingSize => "int_parsing_size"
  | intFromFloat => "int_from_float"
  | finiteNumber => "finite_number"
  | greaterThanEqual => "greater_than_equal"
  | stringType => "string_type"
  | boolType => "bool_type"
  | boolParsing => "bool_parsing"
  | tupleType => "tuple_type"
  | dictType => "dict_type"
  | pathType => "path_type"
  | modelType => "model_type"
  | modelAttributesType => "model_attributes_type"
  | extraForbidden => "extra_forbidden"
  | broken _ => "value_error"

/-- The message of an issue that has one. -/
def IssueKind.message? : IssueKind → Option String
  | broken message => some ("Value error, " ++ message)
  | _ => none

/-- A step on the way to a value: the key of a mapping or the index of a list. -/
inductive LocationStep
  | key (name : String)
  | index (n : Nat)
  deriving DecidableEq, Repr

/-- A fault and its place. -/
structure Issue where
  location : List LocationStep
  kind : IssueKind
  deriving DecidableEq, Repr

/-- A typed value, or the issues that prevented it. -/
abbrev Validated (α : Type) := Except (List Issue) α

namespace Validated

/-- One issue with the value itself. -/
def fail (kind : IssueKind) : Validated α := .error [⟨[], kind⟩]

/-- Places issues below a step. -/
def under (step : LocationStep) : Validated α → Validated α
  | .ok a => .ok a
  | .error issues => .error (issues.map fun i => { i with location := step :: i.location })

/-- Both values, or the issues of both. -/
def both : Validated α → Validated β → Validated (α × β)
  | .ok a, .ok b => .ok (a, b)
  | .error i, .ok _ => .error i
  | .ok _, .error j => .error j
  | .error i, .error j => .error (i ++ j)

/-- Validates every item below its index, the first of which is `start`. -/
def itemsFrom (check : α → Validated β) : Nat → List α → Validated (List β)
  | _, [] => .ok []
  | n, a :: rest =>
    ((under (.index n) (check a)).both (itemsFrom check (n + 1) rest)).map fun (b, l) => b :: l

/-- Validates every item of a list. -/
def items (check : α → Validated β) (l : List α) : Validated (List β) :=
  itemsFrom check 0 l

end Validated

end LintFixture
