import LintFixture.CommandLine
import LintFixture.Rule.Description

/-!
# The program

Reads the directories that the command line names, runs the command and prints what it comes to.
Rule modules are read as TOML documents that describe them; every other file has no rule to offer.
-/

namespace LintFixture

/-- What importing a file with some bytes comes to: the module that it describes. -/
def importDescription (_ : Path) (bytes : List UInt8) : RuleModule :=
  match Text.decodeUtf8 bytes with
  | .error _ => .imported .absent
  | .ok text =>
    match Toml.read text with
    | .error _ => .imported .absent
    | .ok entries => .ofDescription entries

/-- Reads a file or directory from the disk. -/
partial def readNode (place : String) : IO FileNode := do
  let real ← IO.FS.realPath place
  if ← real.isDir then
    let entries ← (← real.readDir).toList.filterMapM fun e => do
      let some name := Name.ofText? e.fileName | return none
      return some (name, ← readNode (place ++ "/" ++ e.fileName))
    return .directory entries
  else
    let bytes ← IO.FS.readBinFile place
    return .file bytes.toList

/-- Adds what lies at an absolute path on the disk to a file system, if anything does. -/
def addPlace (fs : FileSystem) (p : Path) : IO FileSystem := do
  try
    let node ← readNode p.text
    let root := node.insert p.names fs.root
    if unambiguous : root.isUnambiguous = true then return { fs with root, unambiguous }
    else return fs
  catch _ => return fs

/-- Reads what the arguments of a command line name, and the rules directories that the
configurations found there name. -/
def readPlaces (fs : FileSystem) (args : List String) : IO FileSystem := do
  let places := args.map fun arg => fs.current.resolve (Path.ofText arg)
  let fs ← places.foldlM addPlace fs
  let named := places.filterMap fun p =>
    match Config.load fs p with
    | .ok config => config.rulesDirectory
    | .error _ => none
  named.foldlM addPlace fs

end LintFixture

open LintFixture in
/-- Runs the program. -/
def main (args : List String) : IO UInt32 := do
  let current := Path.ofText (← IO.currentDir).toString
  let home := (← IO.getEnv "HOME").getD "/"
  let fs := { FileSystem.ofTree (.directory []) with current, home, imports := importDescription }
  let fs ← readPlaces fs args
  let terminal ← (← IO.getStdout).isTty
  let command := Command.ofArgs fs args
  if let .ok .misuse := command then IO.eprint helpText
  match command >>= fun c => c.run fs terminal with
  | .ok outcome =>
    for line in Journal.lines "no time" (outcome.journal.getD []) do
      IO.eprintln line
    IO.print outcome.output
    match outcome.status with
    | .code n => return n.toUInt32
    | .said text =>
      IO.eprintln text
      return 1
  | .error fault =>
    match fault.text fs.wording with
    | .ok text => IO.eprintln (fault.kind ++ ": " ++ text)
    | .error _ => IO.eprintln fault.kind
    return 1
