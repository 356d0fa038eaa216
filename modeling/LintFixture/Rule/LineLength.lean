import LintFixture.Rule.Basic

/-!
# A limit for the length of a line

The rule reports a line that has more code points than the limit. The first option is the limit
if it is a whole number; a truth value counts as one.
-/

namespace LintFixture

namespace Rule

/-- A limit and the text that shows it. -/
structure Limit where
  value : Int
  text : String

/-- The limit that options set, one hundred by default. -/
def lineLimit : List Value → Limit
  | .int n :: _ => ⟨n, toString n⟩
  | .bool b :: _ => ⟨if b then 1 else 0, Value.boolText b⟩
  | _ => ⟨100, "100"⟩

/-- The whole line, if it is too long. -/
def findLongLine (limit : Limit) (cs : List Char) : List Finding :=
  if limit.value < cs.length then
    [⟨0, cs.length, "Exceeds maximum line length of " ++ limit.text⟩]
  else []

/-- Limits the length of lines. A limit that cannot be written is as good as any as long as every
line keeps it. -/
def lineLength : Rule where
  label := "MaxLineLengthRule"
  name := "max-line-length"
  check options name source :=
    let limit := lineLimit options
    let found := diagnosticsOf name source (findLongLine limit)
    if found.isEmpty || hasNumeral limit.value then .ok found else .error .unwritable

/-- A limit with a numeral can be shown on every line that exceeds it. -/
theorem lineLength_eq_ok {options : List Value} (name source : String)
    (h : hasNumeral (lineLimit options).value = true) :
    lineLength.check options name source =
      .ok (diagnosticsOf name source (findLongLine (lineLimit options))) := by
  simp [lineLength, h]

/-- The rule fails only for want of a numeral. -/
theorem lineLength_eq_error {options : List Value} {name source : String} {fault : Fault}
    (h : lineLength.check options name source = .error fault) : fault = .unwritable := by
  unfold lineLength at h
  dsimp only at h
  split at h
  · cases h
  · exact (Except.error.inj h).symm

end Rule

end LintFixture
