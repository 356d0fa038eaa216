import LintFixture.Text.Printable

/-!
# Quoted text

Messages show a text between quotes, on one line and without any character that a reader could
not see. The quote is the apostrophe, unless the text holds one and no double quote.
-/

namespace LintFixture.Text

/-- The last `width` hexadecimal digits of a number. -/
def hexDigits : Nat → Nat → List Char
  | 0, _ => []
  | width + 1, n => hexDigits width (n / 16) ++ [Nat.digitChar (n % 16)]

/-- The quote that a text needs the fewest escapes with. -/
def quoteMark (cs : List Char) : Char :=
  if cs.contains '\'' && !cs.contains '"' then '"' else '\''

/-- One character between quotes: the quote and the backslash take a backslash, a character that
is not printable its number. -/
def escapeChar (quote c : Char) : List Char :=
  if c = quote ∨ c = '\\' then ['\\', c]
  else if c = '\n' then ['\\', 'n']
  else if c = '\r' then ['\\', 'r']
  else if c = '\t' then ['\\', 't']
  else if isPrintable c then [c]
  else if c.toNat < 0x100 then '\\' :: 'x' :: hexDigits 2 c.toNat
  else if c.toNat < 0x10000 then '\\' :: 'u' :: hexDigits 4 c.toNat
  else '\\' :: 'U' :: hexDigits 8 c.toNat

/-- The quoted form of a list of characters. -/
def quotedChars (cs : List Char) : List Char :=
  let quote := quoteMark cs
  quote :: cs.flatMap (escapeChar quote) ++ [quote]

/-- The quoted form of a text. -/
def quoted (s : String) : String :=
  String.ofList (quotedChars s.toList)

end LintFixture.Text
