/-!
# Lines

A text is its lines joined by line feeds, so a text that ends in a line feed has an empty last
line and the empty text one empty line. Files may end their lines in other ways; `unixLines`
turns every line end into a line feed. `pieces` cuts a text wherever any program ends a line.
-/

namespace LintFixture.Text

/-- The lines of a text. -/
def splitLines (s : String) : List String :=
  (s.toList.splitOn '\n').map String.ofList

/-- The text of a list of lines. -/
def joinLines (lines : List String) : String :=
  String.ofList (['\n'].intercalate (lines.map String.toList))

/-- A carriage return with or without a line feed ends a line like a line feed alone. -/
def unixLines : List Char → List Char
  | [] => []
  | '\r' :: '\n' :: rest => '\n' :: unixLines rest
  | '\r' :: rest => '\n' :: unixLines rest
  | c :: rest => c :: unixLines rest

/-- A character at which some program ends a line. -/
def isLineEnd (c : Char) : Bool :=
  (decide (0xa ≤ c.toNat) && decide (c.toNat ≤ 0xd))
    || (decide (0x1c ≤ c.toNat) && decide (c.toNat ≤ 0x1e))
    || c.toNat == 0x85 || c.toNat == 0x2028 || c.toNat == 0x2029

/-- The pieces of a text between the characters that end lines. -/
def pieces (s : String) : List String :=
  (s.toList.splitOnP isLineEnd).map String.ofList

end LintFixture.Text
