import LintFixture.Rule.Module
import LintFixture.Storage.Path

/-!
# Files and directories

A file tree is what reading sees: files with their bytes, and directories with named entries. A
path is followed name by name; a double dot goes back to the directory before. Asking whether
something lies at a path gives no answer where the path is too long.

A run sees a tree as part of a file system, which also tells what rule modules in it come to. What
importing a file does is up to its bytes and to whoever runs them, and a parameter here.

Out of scope are symbolic links, permissions, and files that change during a run.
-/

namespace LintFixture

/-- A file or directory. -/
inductive FileNode
  | file (bytes : List UInt8)
  | directory (entries : List (Name × FileNode))

namespace FileNode

/-- The node is a directory. -/
def isDirectory : FileNode → Bool
  | directory _ => true
  | _ => false

/-- The entries of a directory. -/
def entries : FileNode → List (Name × FileNode)
  | directory entries => entries
  | _ => []

/-- The most bytes of a name in a directory. -/
def longestName : Nat := 255

/-- Follows names from a node, `above` being the directories above it, the nearest one first. -/
def follow : (above : List FileNode) → FileNode → List Name → Except PathFault FileNode
  | _, here, [] => .ok here
  | above, here, name :: rest =>
    match here with
    | directory entries =>
      if name = .up then
        match above with
        | [] => follow [] here rest
        | up :: more => follow more up rest
      else if longestName < name.text.utf8ByteSize then .error .nameTooLong
      else
        match entries.lookup name with
        | some next => follow (here :: above) next rest
        | none => .error .notFound
    | _ => .error .notDirectory

/-- Puts a node at names below a node; directories on the way are made. -/
def insert (content : FileNode) : List Name → FileNode → FileNode
  | [], here =>
    match content, here with
    | directory [], directory entries => directory entries
    | _, _ => content
  | name :: rest, here =>
    let below := (here.entries.lookup name).getD (directory [])
    let entries := here.entries.filter (·.1 != name)
    directory (entries ++ [(name, insert content rest below)])

mutual

/-- No directory of a tree has two entries with one name. -/
def isUnambiguous : FileNode → Bool
  | file _ => true
  | directory entries => areUnambiguous entries

/-- No two entries have one name, nor has a directory below them such entries. -/
def areUnambiguous : List (Name × FileNode) → Bool
  | [] => true
  | (name, node) :: rest =>
    (rest.lookup name).isNone && node.isUnambiguous && areUnambiguous rest

end

end FileNode

/-- The files that a run can see, and what it finds around them. -/
structure FileSystem where
  root : FileNode
  unambiguous : root.isUnambiguous = true
  /-- The directory in which the run starts. -/
  current : Path
  /-- The directory that a tilde stands for, -/
  home : String
  /-- and those of other users by name. -/
  homes : List (String × String)
  /-- What importing a file with some bytes comes to. -/
  imports : (file : Path) → (bytes : List UInt8) → RuleModule
  /-- How the libraries around word what they refuse. -/
  wording : Wording

namespace FileSystem

/-- A tree of files by itself: every file is imported as a module without rules. -/
def ofTree (root : FileNode) (unambiguous : root.isUnambiguous = true := by exact Eq.refl true) :
    FileSystem where
  root := root
  unambiguous := unambiguous
  current := ⟨.root, []⟩
  home := "/"
  homes := []
  imports _ _ := .imported .absent
  wording := .plain

/-- The most bytes of a path. -/
def longestPath : Nat := 4095

/-- What lies at a path. -/
def node (fs : FileSystem) (p : Path) : Except PathFault FileNode :=
  if p.hasNull then .error .embeddedNull
  else if longestPath < p.text.utf8ByteSize then .error .nameTooLong
  else FileNode.follow [] fs.root (fs.current.join p).names

/-- Something of a kind lies at a path. -/
def holds (fs : FileSystem) (p : Path) (test : FileNode → Bool) : Except Fault Bool :=
  match fs.node p with
  | .ok n => .ok (test n)
  | .error .nameTooLong => .error (.path .nameTooLong p.text)
  | .error _ => .ok false

/-- A directory lies at a path. -/
def isDirectory (fs : FileSystem) (p : Path) : Except Fault Bool :=
  fs.holds p FileNode.isDirectory

/-- A file lies at a path. -/
def isFile (fs : FileSystem) (p : Path) : Except Fault Bool :=
  fs.holds p fun n => !n.isDirectory

/-- The bytes of the file at a path. -/
def read (fs : FileSystem) (p : Path) : Except PathFault (List UInt8) := do
  match ← fs.node p with
  | .file bytes => .ok bytes
  | .directory _ => .error .isDirectory

/-- The absolute path without double dots. It need not lead anywhere. -/
def resolve (fs : FileSystem) (p : Path) : Except Fault Path :=
  if p.hasNull then .error (.path .embeddedNull p.text) else .ok (fs.current.resolve p)

/-- The home directory of a user; no name stands for the user of the run. -/
def homeOf (fs : FileSystem) (user : String) : Except Fault String :=
  if user.toList.contains '\x00' then .error (.path .embeddedNull user)
  else if user = "" then .ok fs.home
  else
    match fs.homes.lookup user with
    | some home => .ok home
    | none => .error .noHome

/-- Replaces a tilde at the start of a relative path by a home directory. -/
def expandHome (fs : FileSystem) (p : Path) : Except Fault Path :=
  match p.anchor, p.names with
  | .here, first :: rest =>
    match first.text.toList with
    | '~' :: user =>
      (fs.homeOf (String.ofList user)).map fun home => (Path.ofText home).join ⟨.here, rest⟩
    | _ => .ok p
  | _, _ => .ok p

end FileSystem

end LintFixture
