import LintFixture.Moment
import LintFixture.Number.Shortest
import LintFixture.Text.Quoted

/-!
# Values

Options, configuration data and what linters hand back are values of a kind known only when they
are read. `Value.literal` writes a value the way it would be typed, with texts in quotes;
`Value.display` writes a text as it is. Neither is used for a value with a number that is too long
to be written.

Out of scope are mappings with keys that are no texts, and objects that bring a text of their own.
-/

namespace LintFixture

/-- A dynamic value. Mappings and records keep their entries in order, each key once. -/
inductive Value
  | null
  | bool (b : Bool)
  | int (n : Int)
  | float (x : Binary64)
  | text (s : String)
  | moment (m : Moment)
  | list (items : List Value)
  /-- A mapping from texts to values. -/
  | mapping (entries : List (String × Value))
  /-- An object with attributes, which is no mapping. -/
  | record (attributes : List (String × Value))
  /-- A rule setting: whether the rule is enabled, and its options. -/
  | setting (enabled : Bool) (options : List Value)

namespace Value

/-- The text of a truth value. -/
def boolText (b : Bool) : String := if b then "True" else "False"

/-- Items in parentheses; a comma marks a single one. -/
def tupleText : List String → String
  | [item] => "(" ++ item ++ ",)"
  | items => "(" ++ String.intercalate ", " items ++ ")"

mutual

/-- The form in which a value would be typed. -/
def literal : Value → String
  | null => "None"
  | bool b => boolText b
  | int n => toString n
  | float x => x.text
  | text s => Text.quoted s
  | moment m => m.literal
  | list items => "[" ++ String.intercalate ", " (literals items) ++ "]"
  | mapping entries => "\x7b" ++ String.intercalate ", " (entryLiterals entries) ++ "\x7d"
  | record attributes =>
    "namespace(" ++ String.intercalate ", " (attributeLiterals attributes) ++ ")"
  | setting enabled options =>
    "RuleSetting(enabled=" ++ boolText enabled ++ ", options=" ++ tupleText (literals options)
      ++ ")"

/-- The literals of several values. -/
def literals : List Value → List String
  | [] => []
  | v :: rest => literal v :: literals rest

/-- Keys and values with a colon between them. -/
def entryLiterals : List (String × Value) → List String
  | [] => []
  | (k, v) :: rest => (Text.quoted k ++ ": " ++ literal v) :: entryLiterals rest

/-- Names and values with an equals sign between them. -/
def attributeLiterals : List (String × Value) → List String
  | [] => []
  | (k, v) :: rest => (k ++ "=" ++ literal v) :: attributeLiterals rest

end

mutual

/-- Every number in a value has a numeral. -/
def isWritable : Value → Bool
  | int n => hasNumeral n
  | list items => areWritable items
  | mapping entries => entriesWritable entries
  | record attributes => entriesWritable attributes
  | setting _ options => areWritable options
  | _ => true

/-- Every number in several values has a numeral. -/
def areWritable : List Value → Bool
  | [] => true
  | v :: rest => isWritable v && areWritable rest

/-- Every number in the values of entries has a numeral. -/
def entriesWritable : List (String × Value) → Bool
  | [] => true
  | (_, v) :: rest => isWritable v && entriesWritable rest

end

/-- The text of a value for a reader. -/
def display : Value → String
  | text s => s
  | moment m => m.textWith " "
  | setting enabled options =>
    "enabled=" ++ boolText enabled ++ " options=" ++ tupleText (literals options)
  | v => v.literal

/-- The named fields of a setting as pairs. -/
def settingPairs (enabled : Bool) (options : List Value) : List Value :=
  [list [text "enabled", bool enabled], list [text "options", list options]]

/-- The name of the kind of a value. -/
def kind : Value → String
  | null => "NoneType"
  | bool _ => "bool"
  | int _ => "int"
  | float _ => "float"
  | text _ => "str"
  | moment (.date _) => "datetime.date"
  | moment (.time _) => "datetime.time"
  | moment (.dateTime ..) => "datetime.datetime"
  | list _ => "list"
  | mapping _ => "dict"
  | record _ => "types.SimpleNamespace"
  | setting .. => "RuleSetting"

end Value

end LintFixture
