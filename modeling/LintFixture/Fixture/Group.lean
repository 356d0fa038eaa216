/-!
# Annotation groups

An annotation line marks spans of the source line above it. It is made of groups, each a run of
tildes under the span, blanks and a tag in brackets, with blanks between the groups. `Group.scan?`
and `GroupLine.scan?` read them from the left without choice, because tildes, blanks, brackets
and tag characters are four disjoint sets; `render` writes them.
-/

namespace LintFixture

/-- The blanks of markup. -/
def isGap (c : Char) : Bool := c == ' ' || c == '\t'

/-- The characters of a tag: the letters and digits of ASCII, the underscore and the hyphen. -/
def isTagChar (c : Char) : Bool := c.isAlphanum || c == '_' || c == '-'

/-- A run of tildes, the blanks after it, and the tag. -/
structure Group where
  tildes : Nat
  gap : List Char
  tag : List Char
  deriving DecidableEq, Repr

namespace Group

/-- The text of a group. -/
def render (g : Group) : List Char :=
  List.replicate g.tildes '~' ++ g.gap ++ '[' :: g.tag ++ [']']

/-- Reads a group from the start of a text, and gives what follows it. -/
def scan? (cs : List Char) : Option (Group × List Char) :=
  let tildes := cs.takeWhile (· == '~')
  let afterTildes := cs.dropWhile (· == '~')
  let gap := afterTildes.takeWhile isGap
  match afterTildes.dropWhile isGap with
  | '[' :: inside =>
    let tag := inside.takeWhile isTagChar
    match inside.dropWhile isTagChar with
    | ']' :: rest =>
      if tildes.isEmpty || gap.isEmpty || tag.isEmpty then none
      else some (⟨tildes.length, gap, tag⟩, rest)
    | _ => none
  | _ => none

/-- A group takes up at least its closing bracket. -/
theorem length_lt_of_scan? {cs rest : List Char} {g : Group} (h : scan? cs = some (g, rest)) :
    rest.length < cs.length := by
  have le (p : Char → Bool) (l : List Char) : (l.dropWhile p).length ≤ l.length :=
    (List.dropWhile_sublist p).length_le
  unfold scan? at h
  simp only at h
  split at h
  · rename_i inside hOpen
    split at h
    · rename_i after hClose
      split at h
      · cases h
      · cases h
        have h₁ := le (· == '~') cs
        have h₂ := le isGap (cs.dropWhile (· == '~'))
        have h₃ := le isTagChar inside
        simp only [hOpen, hClose, List.length_cons] at h₂ h₃
        omega
    · cases h
  · cases h

end Group

/-- The groups of an annotation line, each with the blanks before it, and the blanks at the end. -/
structure GroupLine where
  groups : List (List Char × Group)
  trail : List Char
  deriving DecidableEq, Repr

namespace GroupLine

/-- The text of an annotation line. -/
def render (a : GroupLine) : List Char :=
  (a.groups.flatMap fun g => g.1 ++ g.2.render) ++ a.trail

/-- Reads blanks and groups up to the end of a line. Every group but the first one, which is the
one read while `first` holds, needs a blank before it. -/
def scanFrom (first : Bool) (cs : List Char) : Option GroupLine :=
  let blanks := cs.takeWhile isGap
  match _h : Group.scan? (cs.dropWhile isGap) with
  | some (group, rest) =>
    if !first && blanks.isEmpty then none
    else (scanFrom false rest).map fun a => ⟨(blanks, group) :: a.groups, a.trail⟩
  | none => if (cs.dropWhile isGap).isEmpty then some ⟨[], blanks⟩ else none
termination_by cs.length
decreasing_by
  have h₁ := Group.length_lt_of_scan? _h
  have h₂ := (List.dropWhile_sublist isGap (l := cs)).length_le
  omega

/-- Reads an annotation line, which has one group at least. -/
def scan? (cs : List Char) : Option GroupLine :=
  (scanFrom true cs).filter fun a => !a.groups.isEmpty

end GroupLine

/-- A line that starts like an annotation and holds nothing but tag characters, blanks, tildes and
brackets, whether or not its groups are complete. -/
def isAnnotationLike (cs : List Char) : Bool :=
  let line := cs.dropWhile isGap
  let afterTildes := line.dropWhile (· == '~')
  match afterTildes.dropWhile isGap with
  | '[' :: rest =>
    line.head? == some '~' && afterTildes.head?.any isGap
      && rest.all fun c => isTagChar c || isGap c || c == '~' || c == '[' || c == ']'
  | _ => false

end LintFixture
