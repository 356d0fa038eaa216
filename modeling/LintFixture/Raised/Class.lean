import LintFixture.Raised.Encoding
import LintFixture.Raised.Group
import LintFixture.Raised.Own
import LintFixture.Raised.SourceFault
import LintFixture.Raised.SystemError

/-!
# What collaborators raise

A linter or a rule may fail with anything that has a class and arguments. Most classes show a
single argument as it is and several ones as a group; classes for missing keys, for errors of the
system, for faults of source texts and of encodings, and for the faults of fixtures and
configurations have wordings of their own. The class also decides which handlers catch what is
raised. `Fault.ofClass` is the failure of a linter and `Fault.ofRuleModule` the one of a rule
module, which knows fewer classes.

Only classes with a name here are made. `Raised` itself stands for instances of any class.
-/

namespace LintFixture

namespace Raised

/-- The classes that show their arguments. -/
def plainClasses : List String :=
  ["BaseException", "Exception", "GeneratorExit", "KeyboardInterrupt", "SystemExit",
   "ArithmeticError", "AssertionError", "AttributeError", "BufferError", "EOFError",
   "FloatingPointError", "ImportError", "IndexError", "LookupError", "MemoryError",
   "ModuleNotFoundError", "NameError", "NotImplementedError", "OverflowError", "RecursionError",
   "ReferenceError", "RuntimeError", "StopAsyncIteration", "StopIteration", "SystemError",
   "TypeError", "UnboundLocalError", "UnicodeError", "ValueError", "ZeroDivisionError", "Warning",
   "BytesWarning", "DeprecationWarning", "EncodingWarning", "FutureWarning", "ImportWarning",
   "PendingDeprecationWarning", "ResourceWarning", "RuntimeWarning", "SyntaxWarning",
   "UnicodeWarning", "UserWarning"]

/-- The classes of faults of a source text. -/
def sourceClasses : List String := ["SyntaxError", "IndentationError", "TabError"]

/-- The classes of groups of failures. -/
def groupClasses : List String := ["BaseExceptionGroup", "ExceptionGroup"]

/-- The classes of faults of encoding and decoding. -/
def encodingClasses : List String :=
  ["UnicodeDecodeError", "UnicodeEncodeError", "UnicodeTranslateError"]

/-- The classes that are known everywhere. -/
def isKnown (kind : String) : Bool :=
  kind == "KeyError" || plainClasses.contains kind || sourceClasses.contains kind
    || groupClasses.contains kind || encodingClasses.contains kind || isSystemClass kind

/-- The classes that no handler for failures in general catches. -/
def interruptClasses : List String :=
  ["BaseException", "BaseExceptionGroup", "GeneratorExit", "KeyboardInterrupt", "SystemExit"]

/-- The classes of this program that its own handlers catch. -/
def ownClasses : List (String × Handling) :=
  [("FixtureError", .recorded .fixture), ("FixtureFormatError", .recorded .format),
   ("UnresolvedTagError", .recorded .unresolvedTag), ("DuplicateTagError", .recorded .duplicateTag),
   ("DanglingAnnotationError", .recorded .dangling),
   ("DuplicatePositionError", .recorded .duplicatePosition),
   ("CollaboratorError", .recorded .linter), ("ConfigError", .config),
   ("UnknownRuleError", .config)]

/-- The handlers that catch an instance of a class. -/
def handlingOf (kind : String) : Handling :=
  if interruptClasses.contains kind then .interrupt else (ownClasses.lookup kind).getD .failure

/-- The text of an instance of a class, or the refusal of its arguments. -/
def textOf (kind : String) (args : List Value) : Except Fault (Except Raised String) :=
  if sourceClasses.contains kind then sourceFaultText args
  else if groupClasses.contains kind then groupFault args
  else
    match kind, args with
    | "KeyError", [key] => .ok (showing [key] key.literal)
    | "UnicodeDecodeError", _ => decodeFault args
    | "UnicodeEncodeError", _ => encodeText args
    | "UnicodeTranslateError", _ => mappingText args
    | _, _ =>
      match parameters.lookup kind with
      | some names =>
        (expectParameters kind names args).bind fun () => (ownText kind args).map .ok
      | none => .ok (showing args (argumentText args))

/-- An instance of a class. -/
def instanceOf (kind : String) (args : List Value) : Except Fault Raised :=
  if isSystemClass kind then
    (ofSystem kind args).map fun (kind, text) => .ofText kind .failure text
  else (textOf kind args).map (.ofText kind (handlingOf kind))

end Raised

namespace Fault

/-- The failure of a collaborator that raises an instance of a class. -/
def ofClass (kind : String) (args : List Value) : Fault :=
  match Raised.instanceOf kind args with
  | .ok what => .raised what
  | .error fault => fault

/-- The failure of a rule module that raises an instance of a class. -/
def ofRuleModule (kind : String) (message : Value) : Fault :=
  if Raised.isKnown kind then ofClass kind [message]
  else .raised (.failure "NameError" ("name '" ++ kind ++ "' is not defined"))

end Fault

end LintFixture
