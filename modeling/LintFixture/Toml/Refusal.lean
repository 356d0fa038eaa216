/-!
# Why a document is not read

Most faults of a document are told only as such. Two are limits of the reader and not of the
format: a decimal number with too many digits, and values that are nested too deeply.
-/

namespace LintFixture.Toml

/-- Why a document is not read. -/
inductive Refusal
  | malformed
  | longNumeral (digits : Nat)
  | tooDeep
  deriving DecidableEq, Repr

/-- What has to be there. -/
def expected : Option α → Except Refusal α
  | some a => .ok a
  | none => .error .malformed

end LintFixture.Toml
