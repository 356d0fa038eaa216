import LintFixture.Storage.FileTree
import LintFixture.Validation.Coercion

/-!
# The configuration of a test directory

A configuration enables rules by name and gives them options, may name a directory with further
rules, and says how the names of fixture files end. A rule may be set in several spellings, which
all come to the same setting.

Out of scope are settings that were made without the checks that reading one makes.
-/

namespace LintFixture

/-- Whether a rule is enabled, and its options. -/
structure RuleSetting where
  enabled : Bool
  options : List Value

/-- The configuration that a test directory applies to its fixtures. -/
structure Config where
  rules : List (String × RuleSetting)
  rulesDirectory : Option Path
  fixtureSuffix : String

namespace RuleSetting

/-- Reads a setting by its fields; others are ignored. -/
def ofFields (fields : Fields) : Validated RuleSetting :=
  ((fields.defaulted "enabled" true Value.toBool).both
    (fields.defaulted "options" [] Value.toList)).map fun (enabled, options) => ⟨enabled, options⟩

/-- Reads the setting of a rule: a truth value, a list of a truth value and options, a table with
the fields of a setting, or a setting. -/
def ofValue (rule : String) : Value → Validated RuleSetting
  | .setting enabled options => .ok ⟨enabled, options⟩
  | .bool enabled => .ok ⟨enabled, []⟩
  | .list (.bool enabled :: options) => .ok ⟨enabled, options⟩
  | .list _ => .fail (.broken ("rule '" ++ rule ++ "' list form must start with a boolean"))
  | .mapping entries => ofFields (.ofEntries entries)
  | v =>
    .fail (.broken (
      if v.isWritable then "rule '" ++ rule ++ "' has unsupported setting " ++ v.literal
      else longNumeralText ""))

end RuleSetting

namespace Config

/-- The file of a test directory that holds its configuration. -/
def fileName : Name := .of "ruletest.toml"

/-- The ending of fixtures, unless the configuration gives another one. -/
def defaultSuffix : String := ".lint"

/-- No rules, and fixtures with the usual ending. -/
def default : Config := ⟨[], none, defaultSuffix⟩

/-- Reads the settings of rules in order, up to the first one at fault. -/
def readRules : List (String × Value) → Validated (List (String × RuleSetting))
  | [] => .ok []
  | (name, v) :: rest =>
    match RuleSetting.ofValue name v with
    | .ok setting => (readRules rest).map ((name, setting) :: ·)
    | .error issues => .error issues

/-- Reads the table of rules. -/
def rulesOf : Value → Validated (List (String × RuleSetting))
  | .mapping entries => readRules entries
  | _ => .fail .dictType

/-- Reads the name of a directory, where `place` finds the directory. -/
def directoryOf (place : String → Path) : Value → Validated Path
  | .text s => .ok (place s)
  | _ => .fail .pathType

/-- Reads the ending of fixtures, which begins with a dot. -/
def suffixOf (v : Value) : Validated String :=
  match v.toText with
  | .ok s =>
    if s.toList.head? = some '.' then .ok s
    else .fail (.broken "fixture_suffix must start with '.'")
  | .error issues => .error issues

/-- The keys of a configuration. -/
def keys : List String := ["rules", "rules_directory", "fixture_suffix"]

/-- Refuses every key that is not one of a configuration. -/
def refuseOthers (entries : List (String × Value)) : Validated Unit :=
  match entries.filter fun e => !keys.contains e.1 with
  | [] => .ok ()
  | others => .error (others.map fun e => ⟨[.key e.1], .extraForbidden⟩)

/-- Reads a configuration by its fields. -/
def ofEntries (place : String → Path) (entries : List (String × Value)) : Validated Config :=
  let fields := Fields.ofEntries entries
  ((fields.defaulted "rules" [] rulesOf).both
    ((fields.optional "rules_directory" (directoryOf place)).both
      ((fields.defaulted "fixture_suffix" defaultSuffix suffixOf).both
        (refuseOthers entries)))).map
    fun (rules, directory, suffix, _) => ⟨rules, directory, suffix⟩

/-- Reads a mapping as a configuration. -/
def ofValue : Value → Validated Config
  | .mapping entries => ofEntries Path.ofText entries
  | _ => .fail .modelType

/-- The enabled rules in order. -/
def enabledRules (c : Config) : List (String × RuleSetting) :=
  c.rules.filter (·.2.enabled)

/-- Another rules directory, if one is given, takes the place of the configured one. -/
def withRulesDirectory (c : Config) (fs : FileSystem) : Option Path → Except Fault Config
  | none => .ok c
  | some directory => (fs.resolve directory).map fun p => { c with rulesDirectory := some p }

end Config

end LintFixture
