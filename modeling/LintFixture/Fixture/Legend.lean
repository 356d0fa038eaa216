import LintFixture.Fixture.Line

/-!
# The legend of a fixture

The legend says what each tag stands for. A tag is defined once; a second definition is refused
and the first one stays.
-/

namespace LintFixture

/-- The entries of a legend in order of definition. -/
structure Legend where
  entries : List LegendEntry
  deriving DecidableEq, Repr

namespace Legend

/-- The legend without entries. -/
def empty : Legend := ⟨[]⟩

/-- The entry of a tag. -/
def find? (l : Legend) (tag : String) : Option LegendEntry :=
  l.entries.find? (·.tag == tag)

/-- A tag is defined. -/
def contains (l : Legend) (tag : String) : Bool :=
  (l.find? tag).isSome

/-- Defines a tag. -/
def insert (l : Legend) (entry : LegendEntry) : Except FixtureError Legend :=
  match l.find? entry.tag with
  | some earlier => .error (.duplicateTag entry.tag entry.lineNumber earlier.lineNumber)
  | none => .ok ⟨l.entries ++ [entry]⟩

/-- The message that an annotation refers to by `tag` on a line of the fixture. -/
def resolve (l : Legend) (tag : String) (lineNumber : Int) : Except FixtureError String :=
  match l.find? tag with
  | some entry => .ok entry.message
  | none => .error (.unresolvedTag tag lineNumber)

/-- The tags in order of definition. -/
def tags (l : Legend) : List String :=
  l.entries.map (·.tag)

/-- Each tag with its message, in order of definition. -/
def messages (l : Legend) : List (String × String) :=
  l.entries.map fun e => (e.tag, e.message)

/-- The number of tags. -/
def size (l : Legend) : Nat :=
  l.entries.length

end Legend

end LintFixture
