import LintFixture.Config.Basic
import LintFixture.Items
import LintFixture.Rule.Directory
import LintFixture.Validation.Diagnostic

/-!
# Linters

A linter gets source and a configuration and hands back items, or fails. Items are diagnostics,
which are taken as they are, or values that are still to be read as diagnostics. The linter of a
configuration runs the enabled rules in order and sorts what they find by position.

A linter is a function here. Out of scope are linters that answer one source in different ways, or
that change the files around them.
-/

namespace LintFixture

/-- What a linter hands back. -/
inductive LintItem
  /-- A diagnostic, whether its numbers have been checked or not. -/
  | diagnostic (d : Diagnostic)
  | value (v : Value)

/-- Takes an item as a diagnostic. -/
def LintItem.toDiagnostic : LintItem → Except Fault Diagnostic
  | diagnostic d => .ok d
  | value v =>
    match Diagnostic.ofValue v with
    | .ok d => .ok d
    | .error issues => .error (.invalid "Diagnostic" v issues)

/-- Source and configuration to items. -/
abbrev Linter := (source : String) → Config → Except Fault (List LintItem)

namespace Linter

/-- The linter that hands back the same value for every source. -/
def constant (v : Value) : Linter := fun _ _ =>
  v.itemsOf.map fun items => items.map .value

/-- The linter that fails on every source. -/
def failing (fault : Fault) : Linter := fun _ _ => .error fault

/-- Runs a linter and takes its items as diagnostics, in order. -/
def diagnostics (linter : Linter) (source : String) (config : Config) :
    Except Fault (List Diagnostic) :=
  match linter source config with
  | .ok items => items.mapM LintItem.toDiagnostic
  | .error fault => .error fault

end Linter

namespace Registry

/-- The enabled rules that a registry does not have, sorted. -/
def unknownRules (r : Registry) (config : Config) : List String :=
  ((config.enabledRules.map (·.1)).filter fun name => !r.contains name).mergeSort
    fun a b => decide (a ≤ b)

/-- Refuses a configuration that enables rules without implementation. -/
def check (r : Registry) (config : Config) : Except Fault Unit :=
  match r.unknownRules config with
  | [] => .ok ()
  | names => .error (.config (.unknownRules names))

/-- Runs rules in order, up to the first one that fails. -/
def runRules (r : Registry) (source : String) :
    List (String × RuleSetting) → Except Fault (List Diagnostic)
  | [] => .ok []
  | (name, setting) :: rest =>
    match r.find? name with
    | none => runRules r source rest
    | some rule =>
      match rule.run setting.options name source with
      | .error fault => .error fault
      | .ok found => (runRules r source rest).map (found ++ ·)

/-- The findings of the enabled rules, sorted by position. -/
def lint (r : Registry) (source : String) (config : Config) : Except Fault (List Diagnostic) :=
  match r.check config with
  | .error fault => .error fault
  | .ok () => (runRules r source config.enabledRules).map Diagnostic.sorted

/-- The linter that runs the rules of a registry. -/
def linter (r : Registry) : Linter := fun source config =>
  (r.lint source config).map fun ds => ds.map .diagnostic

/-- The registry for a configuration, which has to have every enabled rule. -/
def ofConfig (fs : FileSystem) (config : Config) : Except Fault Registry :=
  match withDirectory fs config.rulesDirectory with
  | .error fault => .error fault
  | .ok r => (r.check config).map fun () => r

end Registry

end LintFixture
