import LintFixture.Raised.Argument

/-!
# Faults of a source text

A fault of a source text has a message and, as its second argument, details: the file, the line,
the column and the text at fault, and then the end of the fault. The text of the fault names the
file, without the directories before it, and the line.
-/

namespace LintFixture

namespace Raised

/-- What details say of the place of a fault. -/
structure SourcePlace where
  file : Option String
  line : Option Int

/-- The name of a file without the directories before it. -/
def baseName (file : String) : String :=
  String.ofList (file.toList.reverse.takeWhile (· != '/')).reverse

/-- The number of a line as it is shown; one that does not fit a word is lost. -/
def shownLine (n : Int) : Int := if fitsWord n then n else -1

/-- Reads details by their items. -/
def placeOf : List Value → Except Fault SourcePlace
  | file :: line :: _ :: _ :: more =>
    if 2 < more.length then
      .error (.badType ("function takes at most 6 arguments (" ++ toString (more.length + 4)
        ++ " given)"))
    else if more.length = 1 then
      .error (.badType "end_offset must be provided when end_lineno is provided")
    else
      .ok ⟨match file with
          | .text s => some (baseName s)
          | _ => none,
        match line with
          | .int n => some (shownLine n)
          | _ => none⟩
  | few =>
    .error (.badType ("function takes at least 4 arguments (" ++ toString few.length
      ++ " given)"))

/-- A message with the place that is known. -/
def atPlace (message : String) (place : SourcePlace) : String :=
  match place.file, place.line with
  | some file, some line => message ++ " (" ++ file ++ ", line " ++ toString line ++ ")"
  | some file, none => message ++ " (" ++ file ++ ")"
  | none, some line => message ++ " (line " ++ toString line ++ ")"
  | none, none => message

/-- The text of a fault of a source text. -/
def sourceFaultText : List Value → Except Fault (Except Raised String)
  | [] => .ok (.ok Value.null.display)
  | [message, details] => do
    let items ← details.itemsOf
    return showing [message] (atPlace message.display (← placeOf items))
  | message :: _ => .ok (showing [message] message.display)

end Raised

end LintFixture
