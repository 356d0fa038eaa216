import LintFixture.Raised.Argument

/-!
# Faults of this program, raised by collaborators

Collaborators may raise the faults of fixtures and configurations themselves. These take named
arguments, of any kind, which are shown in the wording of the fault. The wording is made with the
fault, so where an argument cannot be written there is another fault instead.
-/

namespace LintFixture

namespace Raised

/-- The named arguments of the classes that have them. -/
def parameters : List (String × List String) :=
  [("FixtureFormatError", ["line_number", "text", "reason"]),
   ("UnresolvedTagError", ["tag", "line_number"]),
   ("DuplicateTagError", ["tag", "line_number", "first_line_number"]),
   ("DanglingAnnotationError", ["line_number"]),
   ("DuplicatePositionError", ["line", "column"]),
   ("CollaboratorError", ["original"]),
   ("UnknownRuleError", ["names"])]

/-- Names in quotes, with a comma between them and a word before the last one. -/
def enumerated : List String → String
  | [] => ""
  | [a] => "'" ++ a ++ "'"
  | [a, b] => "'" ++ a ++ "' and '" ++ b ++ "'"
  | names =>
    String.intercalate ", " (names.dropLast.map fun n => "'" ++ n ++ "'")
      ++ ", and '" ++ names.getLastD "" ++ "'"

/-- Refuses missing and further arguments. -/
def expectParameters (kind : String) (names : List String) (args : List Value) :
    Except Fault Unit :=
  let missing := names.drop args.length
  if names.length < args.length then
    .error (.badType (kind ++ ".__init__() takes " ++ toString (names.length + 1)
      ++ " positional arguments but " ++ toString (args.length + 1) ++ " were given"))
  else if missing.isEmpty then .ok ()
  else
    .error (.badType (kind ++ ".__init__() missing " ++ toString missing.length
      ++ " required positional argument" ++ (if missing.length = 1 then "" else "s") ++ ": "
      ++ enumerated missing))

/-- The successor of a number. -/
def successor : Value → Except Fault Value
  | .bool b => .ok (.int (if b then 2 else 1))
  | .int n => .ok (.int (n + 1))
  | .float x => .ok (.float x.addOne)
  | .text _ => .error (.badType "can only concatenate str (not \"int\") to str")
  | .list _ => .error (.badType "can only concatenate list (not \"int\") to list")
  | v => .error (.badType ("unsupported operand type(s) for +: '" ++ v.kind ++ "' and 'int'"))

/-- The texts that are to be joined; `place` is the place of the first one. -/
def textsFrom (place : Nat) : List Value → Except Fault (List String)
  | [] => .ok []
  | .text s :: rest => (textsFrom (place + 1) rest).map (s :: ·)
  | v :: _ =>
    .error (.badType ("sequence item " ++ toString place ++ ": expected str instance, " ++ v.kind
      ++ " found"))

/-- The names that a value consists of, if it is a list of texts or a text. -/
def namesOf : Value → Except Fault (List String)
  | .setting .. => .error (.badType "sequence item 0: expected str instance, tuple found")
  | v =>
    match v.itemsOf with
    | .ok items => textsFrom 0 items
    | .error _ => .error (.badType "can only join an iterable")

/-- The name of the kind of a value without what qualifies it. -/
def plainKind (v : Value) : String :=
  String.ofList (v.kind.toList.reverse.takeWhile (· != '.')).reverse

/-- A wording that shows values, if all of them can be written. -/
def wording (shown : List Value) (text : String) : Except Fault String :=
  (showing shown text).mapError .raised

/-- The wording of a fault of this program with the right number of arguments. -/
def ownText (kind : String) (args : List Value) : Except Fault String :=
  match kind, args with
  | "FixtureFormatError", [line, text, reason] =>
    wording args ("line " ++ line.display ++ ": " ++ reason.display ++ ": " ++ text.literal)
  | "UnresolvedTagError", [tag, line] =>
    wording args ("line " ++ line.display ++ ": tag [" ++ tag.display ++ "] has no legend entry")
  | "DuplicateTagError", [tag, line, first] =>
    wording args ("line " ++ line.display ++ ": tag [" ++ tag.display
      ++ "] is already defined on line " ++ first.display)
  | "DanglingAnnotationError", [line] =>
    wording args ("line " ++ line.display ++ ": annotation has no preceding source line")
  | "DuplicatePositionError", [line, column] => do
    let line ← successor line
    let place ← wording [line] ("two expected diagnostics at line " ++ line.display)
    let column ← successor column
    wording [column] (place ++ ", column " ++ column.display)
  | "UnknownRuleError", [names] => (namesOf names).map unknownRulesText
  | "CollaboratorError", [cause] => wording args (plainKind cause ++ ": " ++ cause.display)
  | _, _ => wording args (argumentText args)

end Raised

end LintFixture
