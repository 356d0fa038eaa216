import LintFixture.Raised.Argument

/-!
# Errors of the system

An error of the system has a number, a reason and up to two files. The number decides the class
where a general one is named. A further argument between the files does not count, and an error
with fewer or more arguments than these shows them like any other.
-/

namespace LintFixture

namespace Raised

/-- The class that stands for the number of a system error. -/
def systemClasses : List (Int × String) :=
  [(1, "PermissionError"), (2, "FileNotFoundError"), (3, "ProcessLookupError"),
   (4, "InterruptedError"), (10, "ChildProcessError"), (11, "BlockingIOError"),
   (13, "PermissionError"), (17, "FileExistsError"), (20, "NotADirectoryError"),
   (21, "IsADirectoryError"), (32, "BrokenPipeError"), (103, "ConnectionAbortedError"),
   (104, "ConnectionResetError"), (108, "BrokenPipeError"), (110, "TimeoutError"),
   (111, "ConnectionRefusedError"), (114, "BlockingIOError"), (115, "BlockingIOError")]

/-- The general class of system errors under all its names. -/
def isGeneralSystemClass (kind : String) : Bool :=
  kind == "OSError" || kind == "IOError" || kind == "EnvironmentError"

/-- The classes of system errors. -/
def isSystemClass (kind : String) : Bool :=
  isGeneralSystemClass kind || kind == "ConnectionError" || systemClasses.any (·.2 == kind)

/-- The number of a system error. -/
def systemNumber? : Value → Option Int
  | .bool b => some (if b then 1 else 0)
  | .int n => some n
  | _ => none

/-- A number of arguments among which number and reason are told apart. -/
def hasNumber (args : List Value) : Bool :=
  decide (2 ≤ args.length) && decide (args.length ≤ 5)

/-- The class of a system error; a general one gives way to the one of its number. -/
def systemKind (kind : String) (args : List Value) : String :=
  if !isGeneralSystemClass kind then kind
  else if !hasNumber args then "OSError"
  else
    match args.head?.bind systemNumber? with
    | some n => (systemClasses.lookup n).getD "OSError"
    | none => "OSError"

/-- An argument that is there and not null. -/
def given? (args : List Value) (place : Nat) : Option Value :=
  match args[place]? with
  | some .null => none
  | v => v

/-- Checks the number of characters written, which stands in place of the file of an operation
that would block, and tells whether there is one. -/
def readsWritten (kind : String) : Value → Except Fault Bool
  | .float x => if kind = "BlockingIOError" then .error (notWhole (.float x)) else .ok false
  | .int n =>
    if kind ≠ "BlockingIOError" then .ok false
    else if fitsWord n then .ok true
    else .error (.badValue "cannot fit 'int' into an index-sized integer")
  | .bool _ => .ok (kind == "BlockingIOError")
  | _ => .ok false

/-- The files that the text of a system error names. -/
def filesOf (kind : String) (args : List Value) : Except Fault (List Value) :=
  match given? args 2 with
  | none => .ok []
  | some file =>
    (readsWritten kind file).map fun written =>
      if written then [] else file :: (given? args 4).toList

/-- The class and the text of a system error. -/
def ofSystem (kind : String) (args : List Value) :
    Except Fault (String × Except Raised String) :=
  let kind := systemKind kind args
  if !hasNumber args then .ok (kind, showing args (argumentText args))
  else
    (filesOf kind args).map fun files =>
      let number := args.getD 0 .null
      let reason := args.getD 1 .null
      let place := match files with
        | [] => ""
        | _ => ": " ++ String.intercalate " -> " (Value.literals files)
      (kind, showing (number :: reason :: files)
        ("[Errno " ++ number.display ++ "] " ++ reason.display ++ place))

end Raised

end LintFixture
