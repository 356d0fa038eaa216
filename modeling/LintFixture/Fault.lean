import LintFixture.Fixture.Error
import LintFixture.Storage.PathFault
import LintFixture.Text.Utf8
import LintFixture.Validation.Issue
import LintFixture.Value

/-!
# Faults

What can go wrong around fixtures: a configuration that cannot be used, a linter that fails, a
file that is not text. `kind` names a fault in one word, `handling` says which handlers catch it,
and `text` says it in a line; what a collaborator raised keeps the name and the text that it came
with, and may have none.

How documents that are not in their format and values that are no records are worded is left to the
libraries that read them: `Wording` stands for these texts.
-/

namespace LintFixture

/-- How libraries word what they refuse. -/
structure Wording where
  /-- What keeps a text from being a document. -/
  document : (text : List Char) → String
  /-- What keeps a value from being a record, after the line that counts the issues. -/
  record : (record : String) → (input : Value) → List Issue → String

/-- The wording that adds nothing. -/
def Wording.plain : Wording := ⟨fun _ => "", fun _ _ _ => ""⟩

/-- Why a test directory cannot be run as it is configured. -/
inductive ConfigFault
  | testDirectoryMissing (directory : String)
  | rulesDirectoryMissing (directory : String)
  /-- The configuration file cannot be read. -/
  | unreadable (file cause : String)
  /-- The configuration file is not in its format. -/
  | badSyntax (file : String) (document : List Char)
  /-- The configuration file does not describe a configuration. -/
  | invalid (file : String) (input : Value) (issues : List Issue)
  /-- A rule module fails while it is loaded. -/
  | importFailed (file kind text : String)
  /-- Enabled rules have no implementation. -/
  | unknownRules (names : List String)

/-- A failure around fixtures. -/
inductive Fault
  | config (fault : ConfigFault)
  /-- The markup of a fixture is at fault. -/
  | fixture (fault : FixtureError)
  /-- A value does not have the shape of a record. -/
  | invalid (record : String) (input : Value) (issues : List Issue)
  /-- What a linter hands back has no items. -/
  | notIterable (kind : String)
  /-- Bytes are not UTF-8. -/
  | undecodable (fault : Text.Utf8Fault)
  /-- A path cannot even be looked at. -/
  | path (fault : PathFault) (path : String)
  /-- A document has a number of more digits than are read. -/
  | longNumeral (digits : Nat)
  /-- A number has more digits than are written. -/
  | unwritable
  /-- A document or a search pattern goes deeper than is followed. -/
  | tooDeep
  /-- A tilde names a user without a home directory. -/
  | noHome
  /-- A file pattern has a double star within a name. -/
  | badPattern
  /-- A collaborator raised something. -/
  | raised (what : Raised)

/-- The fault of a fixture as it is raised: where its message cannot be written, that is the fault
instead. -/
def FixtureError.raised (e : FixtureError) : Fault :=
  if e.isWritable then .fixture e else .unwritable

/-- The first line of the text of a failed validation. -/
def validationSummary (record : String) (issues : List Issue) : String :=
  toString issues.length ++ " validation error" ++ (if issues.length = 1 then "" else "s")
    ++ " for " ++ record

/-- The text of a failed validation. -/
def Wording.validation (w : Wording) (record : String) (input : Value) (issues : List Issue) :
    String :=
  validationSummary record issues ++ w.record record input issues

/-- The wording of bytes that are not UTF-8. -/
def Text.Utf8Fault.message (fault : Text.Utf8Fault) : String :=
  let place :=
    if fault.length = 1 then
      "byte 0x" ++ String.ofList (Text.hexDigits 2 fault.first.toNat) ++ " in position "
        ++ toString fault.position
    else
      "bytes in position " ++ toString fault.position ++ "-"
        ++ toString (fault.position + fault.length - 1)
  let cause := match fault.cause with
    | .start => "invalid start byte"
    | .continuation => "invalid continuation byte"
    | .unfinished => "unexpected end of data"
  "'utf-8' codec can't decode " ++ place ++ ": " ++ cause

/-- The wording of enabled rules without implementation. -/
def unknownRulesText (names : List String) : String :=
  "could not find implementations for the following rules: " ++ String.intercalate ", " names

namespace ConfigFault

/-- The word that names the fault. -/
def kind : ConfigFault → String
  | unknownRules _ => "UnknownRuleError"
  | _ => "ConfigError"

/-- The message for the user. -/
def message (w : Wording) : ConfigFault → String
  | testDirectoryMissing directory => "test directory not found: " ++ directory
  | rulesDirectoryMissing directory => "rules directory not found: " ++ directory
  | unreadable file cause => "unable to read " ++ file ++ ": " ++ cause
  | badSyntax file document => file ++ ": " ++ w.document document
  | invalid file input issues => file ++ ": " ++ w.validation "TestConfig" input issues
  | importFailed file kind text =>
    "failed to import rule module " ++ file ++ ": " ++ kind ++ ": " ++ text
  | unknownRules names => unknownRulesText names

end ConfigFault

namespace Fault

/-- The word that names the fault. -/
def kind : Fault → String
  | config fault => fault.kind
  | fixture fault => fault.className
  | invalid .. => "ValidationError"
  | notIterable _ => "TypeError"
  | undecodable _ => "UnicodeDecodeError"
  | path fault _ => fault.kind
  | longNumeral _ => "ValueError"
  | unwritable => "ValueError"
  | tooDeep => "RecursionError"
  | noHome => "RuntimeError"
  | badPattern => "ValueError"
  | raised what => what.kind

/-- Which handlers catch the fault. -/
def handling : Fault → Handling
  | config _ => .config
  | fixture fault => .recorded fault.failureKind
  | raised what => what.handling
  | _ => .failure

/-- What stops a whole run instead of a single fixture. -/
def interrupts (fault : Fault) : Bool := fault.handling == .interrupt

/-- The text of the fault, or what is raised in asking for it. -/
def text (w : Wording) : Fault → Except Fault String
  | config fault => .ok (fault.message w)
  | fixture fault => .ok fault.message
  | invalid record input issues => .ok (w.validation record input issues)
  | notIterable kind => .ok ("'" ++ kind ++ "' object is not iterable")
  | undecodable fault => .ok fault.message
  | path fault place => .ok (fault.message place)
  | longNumeral digits => .ok (longNumeralText (": value has " ++ toString digits ++ " digits"))
  | unwritable => .ok (longNumeralText "")
  | tooDeep => .ok "maximum recursion depth exceeded"
  | noHome => .ok "Could not determine home directory."
  | badPattern => .ok "Invalid pattern: '**' can only be an entire path component"
  | raised what => what.text.mapError .raised

end Fault

end LintFixture
