import LintFixture.Number.Numeral
import LintFixture.Text.Blank
import LintFixture.Validation.Issue

/-!
# Whole numbers as texts

A plain numeral is a minus sign, if any, and digits without a zero before them. Every other text is
first cleaned: blanks around it go, and a plus sign, zeros before the digits, a fraction of zeros
and single underscores between digits. What is left has to be a plain numeral. A numeral of more
characters than digits are read is a fault of its own, but only where nothing had to be cleaned
before it.
-/

namespace LintFixture

namespace WholeText

/-- Takes an optional minus sign from the start of a text. -/
def takeMinus : List Char → Bool × List Char
  | '-' :: rest => (true, rest)
  | cs => (false, cs)

/-- Reads a plain numeral of a length that is read. -/
def readPlain? (cs : List Char) : Option Int :=
  let (negative, digits) := takeMinus cs
  if digits = ['0'] then some 0
  else if digits.isEmpty || digits.head? = some '0' || !digits.all isDecimalDigit
      || decide (longestNumeral < cs.length) then none
  else some (signedInt negative (numeralValue 10 digits))

/-- A text begins with a plain numeral that is longer than what is read. -/
def beginsTooLong (cs : List Char) : Bool :=
  let digits := (takeMinus cs).2
  let size := (cs.length - digits.length) + (digits.takeWhile isDecimalDigit).length
  digits.head? != some '0' && decide (longestNumeral < size)

/-- Skips zeros and underscores after the character `last`; it stays where the end or a point
follows. Behind zeros a minus sign may still come. -/
def skipZeros? (last : Char) : List Char → Option (List Char)
  | [] => some [last]
  | c :: rest =>
    if c = '0' ∨ c = '_' then skipZeros? c rest
    else if c = '.' then some (last :: c :: rest)
    else if isDecimalDigit c ∨ c = '-' then some (c :: rest)
    else none

/-- A text that begins with a digit, without the zeros that do not count. -/
def withoutZeros? : List Char → Option (List Char)
  | '0' :: rest => skipZeros? '0' rest
  | c :: rest => if isDecimalDigit c then some (c :: rest) else none
  | [] => none

/-- A text without a point and the zeros after it, one at least, at its end. -/
def withoutZeroFraction (cs : List Char) : List Char :=
  match cs.dropWhile (· != '.') with
  | _ :: zero :: zeros => if (zero :: zeros).all (· == '0') then cs.takeWhile (· != '.') else cs
  | _ => cs

/-- Two underscores stand side by side somewhere. -/
def hasDoubleUnderscore : List Char → Bool
  | '_' :: '_' :: _ => true
  | _ :: rest => hasDoubleUnderscore rest
  | [] => false

/-- A text without its underscores, if they stand alone within it. -/
def withoutUnderscores (cs : List Char) : List Char :=
  if cs.head? = some '_' || cs.getLast? = some '_' || hasDoubleUnderscore cs then cs
  else cs.filter (· != '_')

/-- The cleaned form of a text. -/
def cleaned? (cs : List Char) : Option (List Char) :=
  let (negative, rest) := takeSign (Text.trim Text.isSpace cs)
  (withoutZeros? rest).map fun digits =>
    (if negative then ['-'] else []) ++ withoutUnderscores (withoutZeroFraction digits)

/-- Reads the text of a whole number. -/
def read (text : String) : Validated Int :=
  let cs := text.toList
  if beginsTooLong cs then .fail .intParsingSize
  else
    match readPlain? cs <|> (cleaned? cs >>= readPlain?) with
    | some n => .ok n
    | none => .fail .intParsing

end WholeText

end LintFixture
