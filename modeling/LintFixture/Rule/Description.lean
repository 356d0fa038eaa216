import LintFixture.Raised.Class
import LintFixture.Rule.Module
import LintFixture.Validation.Diagnostic

/-!
# Described rule modules

A rule module is described by a mapping. Its `kind` says what the module does: `find` reports the
lines that hold a needle, `emit` reports given diagnostics, `explode` fails whenever it is asked,
`raise` fails while it is loaded; every other kind has no rule that could be used, for one reason
or another.
-/

namespace LintFixture

namespace Rule

/-- A diagnostic with the name of the rule that reports it; the fields are checked. -/
def failure (name : String) (line column message width : Value) : Except Fault Diagnostic :=
  let fields := [("line", line), ("column", column), ("width", width), ("message", message),
    ("rule", .text name)]
  match Diagnostic.ofFields (.ofEntries fields) with
  | .ok d => .ok d
  | .error issues => .error (.invalid "Diagnostic" (.mapping fields) issues)

/-- Where a text begins first in another one. -/
def indexOf? (needle : List Char) : List Char → Option Nat
  | [] => if needle.isEmpty then some 0 else none
  | c :: rest =>
    if needle.isPrefixOf (c :: rest) then some 0 else (indexOf? needle rest).map (· + 1)

/-- Reports every line that holds a needle, at its first occurrence. -/
def finding (declared needle : String) (message width : Value) : Rule where
  label := "Rule"
  name := declared
  check _ name source :=
    let hits := (Text.splitLines source).zipIdx.filterMap fun (text, line) =>
      (indexOf? needle.toList text.toList).map fun column => (line, column)
    hits.mapM fun (line, column) => failure name (.int line) (.int column) message width

/-- Reports given diagnostics under the name of the rule. -/
def emitting (declared : String) (items : List Value) : Rule where
  label := "Rule"
  name := declared
  check _ name _ := items.mapM fun item =>
    let field (key : String) : Value := match item with
      | .mapping entries => (entries.lookup key).getD .null
      | _ => .null
    failure name (field "line") (field "column") (field "message") (field "width")

/-- Fails on every source. -/
def failing (declared : String) (fault : Fault) : Rule where
  label := "Rule"
  name := declared
  check _ _ _ := .error fault

end Rule

/-- The module that a mapping describes. -/
def RuleModule.ofDescription (entries : List (String × Value)) : RuleModule :=
  let field (key : String) : Value := (entries.lookup key).getD .null
  let text (key : String) : String := match field key with
    | .text s => s
    | _ => ""
  let name := text "name"
  match text "kind" with
  | "find" => .defining (Rule.finding name (text "needle") (field "message") (field "width"))
  | "emit" =>
    match field "items" with
    | .list items => .defining (Rule.emitting name items)
    | _ => .imported .absent
  | "explode" => .defining (Rule.failing name (.ofRuleModule (text "type") (field "message")))
  | "raise" => .fails (.ofRuleModule (text "type") (field "message"))
  | "abstract" => .imported (.ruleClass true (Rule.emitting name []))
  | "base" => .imported (.ruleClass true (Rule.emitting "" []))
  | "value" => .imported .object
  | "other_class" => .imported .otherClass
  | _ => .imported .absent

end LintFixture
