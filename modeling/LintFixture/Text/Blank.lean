import LintFixture.Text.CodeRange

/-!
# Blanks

`isSpace` is the white space of Unicode. `isBlank` adds the four separators U+001C to U+001F, so
that a text of separators alone counts as blank.
-/

namespace LintFixture.Text

/-- The white space characters. -/
def spaceRanges : List CodeRange :=
  [(0x9, 0xd), (0x20, 0x20), (0x85, 0x85), (0xa0, 0xa0), (0x1680, 0x1680), (0x2000, 0x200a),
   (0x2028, 0x2029), (0x202f, 0x202f), (0x205f, 0x205f), (0x3000, 0x3000)]

/-- White space. -/
def isSpace (c : Char) : Bool :=
  inRanges spaceRanges c.toNat

/-- White space or an information separator. -/
def isBlank (c : Char) : Bool :=
  isSpace c || (decide (0x1c ≤ c.toNat) && decide (c.toNat ≤ 0x1f))

/-- A text without the characters of a class at its ends. -/
def trim (p : Char → Bool) (cs : List Char) : List Char :=
  ((cs.dropWhile p).reverse.dropWhile p).reverse

end LintFixture.Text
