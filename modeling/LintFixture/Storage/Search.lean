import LintFixture.Fault
import LintFixture.Storage.FileTree
import LintFixture.Storage.NamePattern

/-!
# Searching a directory

A search pattern consists of names between slashes: two stars stand for any depth of directories,
a name with stars, question marks or sets for the matching entries, every other name for itself.

Out of scope are directories that cannot be listed, and limits on how deep a tree is gone through.
-/

namespace LintFixture

/-- One name of a search pattern. -/
inductive SearchStep
  /-- The directory and all directories below it. -/
  | deep
  /-- The entries with a matching name. -/
  | matching (pattern : List Char)
  /-- The entry with this name, or the directory above. -/
  | exactly (name : Name)
  /-- The directory itself, at the end of a pattern that ends in a slash. -/
  | itself
  deriving DecidableEq, Repr

/-- A node with its path and the directories above it, the nearest one first. -/
structure Place where
  path : Path
  above : List FileNode
  node : FileNode

namespace Place

/-- The place of an entry of a directory. -/
def enter (p : Place) (name : Name) (node : FileNode) : Place :=
  ⟨p.path.child name, p.node :: p.above, node⟩

/-- The entry of a directory with a name; a double dot is the directory above. -/
def child? (p : Place) (name : Name) : Option Place :=
  if name = .up then
    match p.above with
    | [] => some ⟨p.path.child .up, [], p.node⟩
    | up :: more => some ⟨p.path.child .up, more, up⟩
  else (p.node.entries.lookup name).map (p.enter name)

mutual

/-- The directories at and below a node. -/
def directoriesAt (path : Path) (above : List FileNode) : FileNode → List Place
  | .directory entries =>
    ⟨path, above, .directory entries⟩ :: directoriesIn path (.directory entries :: above) entries
  | _ => []

/-- The directories at and below the entries of a directory. -/
def directoriesIn (path : Path) (above : List FileNode) : List (Name × FileNode) → List Place
  | [] => []
  | (name, node) :: rest =>
    directoriesAt (path.child name) above node ++ directoriesIn path above rest

end

end Place

namespace SearchStep

/-- A name with pattern characters. -/
def isPattern (cs : List Char) : Bool :=
  cs.contains '*' || cs.contains '?' || cs.contains '['

/-- Two stars stand side by side somewhere. -/
def hasDoubleStar : List Char → Bool
  | '*' :: '*' :: _ => true
  | _ :: rest => hasDoubleStar rest
  | [] => false

/-- Reads one name of a search pattern. Two stars are a name of their own or a fault. -/
def ofName (name : Name) : Except Fault SearchStep :=
  let cs := name.text.toList
  if name.text = "**" then .ok .deep
  else if hasDoubleStar cs then .error .badPattern
  else if isPattern cs then .ok (.matching cs)
  else .ok (.exactly name)

/-- The most names of a search pattern. -/
def mostNames : Nat := 196

/-- Reads the names of a search pattern, as many as there is room for. -/
def ofNames : (room : Nat) → List Name → Except Fault (List SearchStep)
  | _, [] => .ok []
  | 0, _ :: _ => .error .tooDeep
  | room + 1, name :: rest => do
    let step ← ofName name
    return step :: (← ofNames room rest)

/-- Reads a search pattern. -/
def ofText (pattern : String) : Except Fault (List SearchStep) := do
  let steps ← ofNames mostNames (Path.namesOf pattern.toList)
  return if pattern.toList.getLast? = some '/' then steps ++ [.itself] else steps

/-- A place is looked at by its name, which has to be short enough for that. -/
def checkSize (p : Place) (name : Name) : Except Fault Unit :=
  let path := (p.path.child name).text
  if p.node.isDirectory && decide (FileNode.longestName < name.text.utf8ByteSize)
      || decide (FileSystem.longestPath < path.utf8ByteSize) then
    .error (.path .nameTooLong path)
  else .ok ()

/-- All places that a search of several ones leads to, each once. -/
def selectAll (select : Place → Except Fault (List Place)) :
    List Place → Except Fault (List Place)
  | [] => .ok []
  | p :: rest =>
    match select p with
    | .error fault => .error fault
    | .ok found =>
      (selectAll select rest).map fun later =>
        found ++ later.filter fun q => !found.any (·.path = q.path)

/-- The places that a search pattern leads to. Before a further name only directories count. -/
def select : List SearchStep → Place → Except Fault (List Place)
  | [], p => .ok [p]
  | .itself :: _, p => .ok [p]
  | .deep :: rest, p => selectAll (select rest) (Place.directoriesAt p.path p.above p.node)
  | .matching pattern :: rest, p =>
    let hits := p.node.entries.filter fun (name, node) =>
      matchesPattern pattern name.text.toList && (rest.isEmpty || node.isDirectory)
    selectAll (select rest) (hits.map fun (name, node) => p.enter name node)
  | .exactly name :: rest, p =>
    match checkSize p name with
    | .error fault => .error fault
    | .ok () =>
      match p.child? name with
      | some q => if rest.isEmpty || q.node.isDirectory then select rest q else .ok []
      | none => .ok []

end SearchStep

namespace FileSystem

/-- The node at names below a node, and the directories above it. -/
def placeFrom? (above : List FileNode) (here : FileNode) :
    List Name → Option (List FileNode × FileNode)
  | [] => some (above, here)
  | name :: rest =>
    if !here.isDirectory then none
    else if name = .up then
      match above with
      | [] => placeFrom? [] here rest
      | up :: more => placeFrom? more up rest
    else
      match here.entries.lookup name with
      | some next => placeFrom? (here :: above) next rest
      | none => none

/-- The directory at a path, if there is one. -/
def directory? (fs : FileSystem) (p : Path) : Option Place :=
  match placeFrom? [] fs.root (fs.current.join p).names with
  | some (above, node) => if node.isDirectory then some ⟨p, above, node⟩ else none
  | none => none

/-- The order of paths by their names. -/
def pathLe (a b : Path) : Bool := !b.parts.lex a.parts

/-- The files below a directory whose place matches a pattern at any depth, in the order of their
names. -/
def filesMatching (fs : FileSystem) (directory : Path) (pattern : String) :
    Except Fault (List Path) := do
  let steps ← SearchStep.ofText pattern
  if ← fs.isDirectory directory then
    match fs.directory? directory with
    | some p =>
      let found := (← SearchStep.select (.deep :: steps) p).filter fun q => !q.node.isDirectory
      return (found.map (·.path)).mergeSort pathLe
    | none => return []
  else return []

end FileSystem

end LintFixture
