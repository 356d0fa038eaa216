/-!
# Paths

A path is an anchor and the names after it. Reading a path drops empty names and single dots; a
double dot stays until `resolve` lets it cancel the name before it. Two slashes at the start are
an anchor of their own, three or more count as one.

Paths are those of a system with slashes. Drives and other separators are out of scope.
-/

namespace LintFixture

/-- A text can stand between two slashes of a path. -/
def isName (s : String) : Bool := s != "" && s != "." && !s.toList.contains '/'

/-- A name in a path: the one of an entry of a directory, or a double dot. -/
structure Name where
  text : String
  valid : isName text = true
  deriving DecidableEq, Repr

namespace Name

/-- The name with a text that is one. -/
def of (text : String) (valid : isName text = true := by exact Eq.refl true) : Name := ⟨text, valid⟩

/-- The name with a text, if it is one. -/
def ofText? (text : String) : Option Name :=
  if valid : isName text = true then some ⟨text, valid⟩ else none

/-- The directory above. -/
def up : Name := .of ".."

end Name

/-- Where a path starts. -/
inductive Anchor
  | here
  | root
  | doubleRoot
  deriving DecidableEq, Repr

/-- The text before the first name. -/
def Anchor.text : Anchor → String
  | here => ""
  | root => "/"
  | doubleRoot => "//"

/-- The place of a file or directory. -/
structure Path where
  anchor : Anchor
  names : List Name
  deriving DecidableEq, Repr

namespace Path

/-- The names of a text between slashes, without empty ones and single dots. -/
def namesOf (cs : List Char) : List Name :=
  (cs.splitOn '/').filterMap fun piece => Name.ofText? (String.ofList piece)

/-- Reads a path. -/
def ofText (text : String) : Path :=
  let anchor := match text.toList with
    | '/' :: '/' :: '/' :: _ => Anchor.root
    | '/' :: '/' :: _ => .doubleRoot
    | '/' :: _ => .root
    | _ => .here
  ⟨anchor, namesOf text.toList⟩

/-- The texts of the names. -/
def parts (p : Path) : List String := p.names.map (·.text)

/-- The text of a path; the empty path is a single dot. -/
def text (p : Path) : String :=
  if p.anchor = .here ∧ p.names = [] then "."
  else p.anchor.text ++ String.intercalate "/" p.parts

/-- A path does not depend on the current directory. -/
def isAbsolute (p : Path) : Bool := p.anchor != .here

/-- A null character lies in a path. -/
def hasNull (p : Path) : Bool := p.parts.any fun name => name.toList.contains '\x00'

/-- A path seen from a directory; an absolute path stays. -/
def join (directory p : Path) : Path :=
  if p.isAbsolute then p else ⟨directory.anchor, directory.names ++ p.names⟩

/-- A file of a directory. -/
def child (directory : Path) (name : Name) : Path :=
  ⟨directory.anchor, directory.names ++ [name]⟩

/-- The last name. -/
def name (p : Path) : String := p.parts.getLastD ""

/-- A name without what follows its last dot; a dot at either end of the name does not count. -/
def stemOf (name : String) : String :=
  let cs := name.toList
  let ending := cs.reverse.takeWhile (· != '.')
  let before := (cs.reverse.dropWhile (· != '.')).drop 1
  if ending.isEmpty || before.isEmpty then name else String.ofList before.reverse

/-- The last name without its ending. -/
def stem (p : Path) : String := stemOf p.name

/-- Lets every double dot cancel the name before it; `kept` holds the names so far, the last one
first. Above the root is the root. -/
def cancelDots (kept : List Name) : List Name → List Name
  | [] => kept.reverse
  | name :: rest =>
    if name = .up then cancelDots (kept.drop 1) rest else cancelDots (name :: kept) rest

/-- The absolute path without double dots, seen from a current directory. -/
def resolve (current p : Path) : Path :=
  ⟨.root, cancelDots [] (current.join p).names⟩

/-- The path as seen from a directory that it lies in. -/
def relativeTo? (root p : Path) : Option Path :=
  if root.anchor = p.anchor ∧ root.names <+: p.names then
    some ⟨.here, p.names.drop root.names.length⟩
  else none

end Path

end LintFixture
