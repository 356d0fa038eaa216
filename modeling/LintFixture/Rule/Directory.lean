import LintFixture.Entries
import LintFixture.Rule.Registry
import LintFixture.Storage.FileTree

/-!
# Rules directories

Every rule module of a directory adds a rule under the name that it declares, or under the name of
its file. Of two modules with one name the later one counts. Files whose names begin with an
underscore are private and left alone.
-/

namespace LintFixture

namespace RuleDirectory

/-- The name of a rule by the file of its module. -/
def nameFor (file : Path) : String :=
  String.ofList (file.stem.toList.map fun c => if c = '_' then '-' else c)

/-- A file is loaded as a rule module. -/
def isModuleName (name : String) : Bool :=
  RuleModule.ending.toList.isSuffixOf name.toList && name.toList.head? != some '_'

/-- What importing a node as a rule module comes to. -/
def moduleAt (fs : FileSystem) (file : Path) : FileNode → RuleModule
  | .file bytes => fs.imports file bytes
  | .directory _ =>
    let place := (fs.current.join file).text
    .fails (.path .isDirectory place)

/-- The rule modules of a directory in the order of their names. -/
def modules (fs : FileSystem) (directory : Path) : List (Path × RuleModule) :=
  let entries := match fs.node directory with
    | .ok node => node.entries
    | .error _ => []
  let sorted := (entries.filter fun e => isModuleName e.1.text).mergeSort fun a b =>
    decide (a.1.text ≤ b.1.text)
  sorted.map fun (name, node) =>
    let file := directory.child name
    (file, moduleAt fs file node)

/-- The name under which a rule of a module is loaded. -/
def ruleName (file : Path) (rule : Rule) : String :=
  if rule.name = "" then nameFor file else rule.name

/-- The fault of a module that fails while it is imported. Reporting it asks for its text, and may
fail in turn. -/
def importFault (w : Wording) (file : Path) (fault : Fault) : Fault :=
  if fault.interrupts then fault
  else
    match fault.text w with
    | .ok text => .config (.importFailed file.text fault.kind text)
    | .error cause => cause

/-- Loads modules in order, up to the first one that fails. -/
def loadModules (w : Wording) (loaded : List (String × Rule)) :
    List (Path × RuleModule) → Except Fault (List (String × Rule))
  | [] => .ok loaded
  | (file, .fails fault) :: _ => .error (importFault w file fault)
  | (file, .imported exposed) :: rest =>
    match exposed.offer? with
    | none => loadModules w loaded rest
    | some rule => loadModules w (insertEntry loaded (ruleName file rule) rule) rest

/-- Loads the rules of a directory under their names. -/
def load (fs : FileSystem) (directory : Path) : Except Fault (List (String × Rule)) :=
  match fs.isDirectory directory with
  | .error fault => .error fault
  | .ok false => .error (.config (.rulesDirectoryMissing directory.text))
  | .ok true => loadModules fs.wording [] (modules fs directory)

end RuleDirectory

/-- The built-in rules and those of a rules directory, if there is one. -/
def Registry.withDirectory (fs : FileSystem) : Option Path → Except Fault Registry
  | none => .ok builtin
  | some directory => (RuleDirectory.load fs directory).map builtin.extend

end LintFixture
