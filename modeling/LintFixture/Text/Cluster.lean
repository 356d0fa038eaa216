import LintFixture.Text.Cells

/-!
# Clusters

What a terminal shows in one place may be several characters: a character with the marks after it,
with a selector that asks for its form as emoji, or with further ones that a joiner adds to it.
`cells` is the width of a text, and `clusters` are the pieces between which it can be cut.
-/

namespace LintFixture.Text

/-- Joins the character after it to the one before it. -/
def joiner : Char := '\u200d'

/-- Asks for the form of a character as emoji. -/
def emojiSelector : Char := '\ufe0f'

/-- The cells of the rest of a text. `joined` tells that a joiner hides the next character, and
`last` is the last character with a width that no selector has followed yet. -/
def cellsFrom (joined : Bool) (last : Option Char) : List Char → Nat
  | [] => 0
  | c :: rest =>
    if joined then cellsFrom false last rest
    else if c = joiner then cellsFrom true last rest
    else if c = emojiSelector then (last.any isWidened).toNat + cellsFrom false none rest
    else if cellWidth c = 0 then cellsFrom false last rest
    else cellWidth c + cellsFrom false (some c) rest

/-- The cells of a text. -/
def cells (cs : List Char) : Nat := cellsFrom false none cs

/-- Characters that are shown in one place, and the cells of that place. -/
structure Cluster where
  chars : List Char
  width : Nat
  deriving DecidableEq, Repr

/-- The first cluster with a further character in front, which may add to its width. -/
def addToFirst (c : Char) (more : Nat) : List Cluster → List Cluster
  | [] => [⟨[c], more⟩]
  | k :: rest => ⟨c :: k.chars, k.width + more⟩ :: rest

/-- The rest of the cluster that has begun, which may be empty, and the clusters after it. -/
def clustersFrom (joined : Bool) (last : Option Char) : List Char → List Cluster
  | [] => [⟨[], 0⟩]
  | c :: rest =>
    if joined then addToFirst c 0 (clustersFrom false last rest)
    else if c = joiner then addToFirst c 0 (clustersFrom true last rest)
    else if c = emojiSelector then
      if last.any isWidened then addToFirst c 1 (clustersFrom false none rest)
      else addToFirst c 0 (clustersFrom false last rest)
    else if cellWidth c = 0 then addToFirst c 0 (clustersFrom false last rest)
    else ⟨[], 0⟩ :: addToFirst c (cellWidth c) (clustersFrom false (some c) rest)

/-- The clusters of a text. A joiner at its start joins nothing. -/
def clusters : List Char → List Cluster
  | [] => []
  | c :: rest =>
    addToFirst c (cellWidth c)
      (clustersFrom false (if cellWidth c = 0 then none else some c) rest)

/-- As many clusters as fill a number of cells. A wide one that would lie across the end is
replaced by a blank. -/
def filling : (size : Nat) → List Cluster → List Char
  | _, [] => []
  | size, k :: rest =>
    if size = 0 then []
    else if k.width ≤ size then k.chars ++ filling (size - k.width) rest
    else [' ']

/-- A text of just a number of cells: a longer one is cut, a shorter one filled with blanks. -/
def fitted (size : Nat) (cs : List Char) : List Char :=
  if cells cs ≤ size then cs ++ List.replicate (size - cells cs) ' '
  else filling size (clusters cs)

end LintFixture.Text
