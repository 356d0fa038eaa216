import LintFixture.Number.Numeral

/-!
# Blanks, strings and keys of TOML

The pieces of a document below the level of values. Every reader takes a piece from the start of a
text and gives what follows it, or nothing where the text is at fault. Where a reader has fuel, the
length of the text is enough.
-/

namespace LintFixture.Toml

/-- The blanks within a line. -/
def isLineBlank (c : Char) : Bool := c == ' ' || c == '\t'

/-- Skips the blanks within a line. -/
def skipBlanks (cs : List Char) : List Char := cs.dropWhile isLineBlank

/-- A control character, which documents hold only as a tab or a line feed. -/
def isControl (c : Char) : Bool := decide (c.val < 0x20) || c.val == 0x7f

/-- A control character other than a tab. -/
def isForbidden (c : Char) : Bool := isControl c && c != '\t'

/-- Skips a comment up to the end of its line. -/
def skipComment? : List Char → Option (List Char)
  | '#' :: rest =>
    if (rest.takeWhile (· != '\n')).any isForbidden then none
    else some (rest.dropWhile (· != '\n'))
  | cs => some cs

/-- Skips blanks, line ends and comments; `inside` tells whether a comment has begun. -/
def skipTrivia? (inside : Bool) : List Char → Option (List Char)
  | [] => some []
  | c :: rest =>
    if c == '\n' then skipTrivia? false rest
    else if inside then (if isForbidden c then none else skipTrivia? true rest)
    else if isLineBlank c then skipTrivia? false rest
    else if c == '#' then skipTrivia? true rest
    else some (c :: rest)

/-! ## Strings -/

/-- A hexadecimal digit. -/
def isHexDigit (c : Char) : Bool :=
  isDecimalDigit c || (decide ('a' ≤ c) && decide (c ≤ 'f'))
    || (decide ('A' ≤ c) && decide (c ≤ 'F'))

/-- Reads the number of a character in a fixed number of hexadecimal digits. -/
def readCodePoint? (size : Nat) (cs : List Char) : Option (Char × List Char) :=
  let digits := cs.take size
  let n := numeralValue 16 digits
  if digits.length = size ∧ digits.all isHexDigit ∧ n.isValidChar then
    some (Char.ofNat n, cs.drop size)
  else none

/-- Skips a line continuation: the blanks after the backslash, the line end, and all blanks and
line ends after it. -/
def skipContinuation? (cs : List Char) : Option (List Char) :=
  match skipBlanks cs with
  | [] => some []
  | '\n' :: rest => some (rest.dropWhile fun c => isLineBlank c || c == '\n')
  | _ => none

/-- Reads what a backslash stands for together with the text after it. Strings of several lines
may continue a line. -/
def readEscape? (multiline : Bool) : List Char → Option (List Char × List Char)
  | 'b' :: rest => some (['\x08'], rest)
  | 't' :: rest => some (['\t'], rest)
  | 'n' :: rest => some (['\n'], rest)
  | 'f' :: rest => some (['\x0c'], rest)
  | 'r' :: rest => some (['\r'], rest)
  | '"' :: rest => some (['"'], rest)
  | '\\' :: rest => some (['\\'], rest)
  | 'u' :: rest => (readCodePoint? 4 rest).map fun (c, r) => ([c], r)
  | 'U' :: rest => (readCodePoint? 8 rest).map fun (c, r) => ([c], r)
  | c :: rest =>
    if multiline && (isLineBlank c || c == '\n') then
      (skipContinuation? (c :: rest)).map fun r => ([], r)
    else none
  | [] => none

/-- Reads the inside of a basic string and its end. Every step takes a character. -/
def readBasicBody? (multiline : Bool) : (fuel : Nat) → List Char → Option (List Char × List Char)
  | 0, _ => none
  | _ + 1, [] => none
  | fuel + 1, '"' :: rest =>
    if !multiline then some ([], rest)
    else if ['"', '"'].isPrefixOf rest then some ([], rest.drop 2)
    else (readBasicBody? multiline fuel rest).map fun (s, r) => ('"' :: s, r)
  | fuel + 1, '\\' :: rest => do
    let (text, rest) ← readEscape? multiline rest
    let (s, r) ← readBasicBody? multiline fuel rest
    return (text ++ s, r)
  | fuel + 1, c :: rest =>
    if isForbidden c && !(multiline && c == '\n') then none
    else (readBasicBody? multiline fuel rest).map fun (s, r) => (c :: s, r)

/-- Reads the inside of a literal string of one line and its end. -/
def readLiteralBody? (cs : List Char) : Option (List Char × List Char) :=
  let body := cs.takeWhile (· != '\'')
  match cs.dropWhile (· != '\'') with
  | _ :: rest => if body.any isForbidden then none else some (body, rest)
  | [] => none

/-- Reads the inside of a literal string of several lines and its end. -/
def readLiteralLines? : List Char → Option (List Char × List Char)
  | '\'' :: '\'' :: '\'' :: rest => some ([], rest)
  | c :: rest =>
    if isForbidden c && c != '\n' then none
    else (readLiteralLines? rest).map fun (s, r) => (c :: s, r)
  | [] => none

/-- Adds up to two quotes that directly follow the end of a string of several lines. -/
def addQuotes (quote : Char) : List Char × List Char → List Char × List Char
  | (s, c :: d :: rest) =>
    if c = quote then (if d = quote then (s ++ [quote, quote], rest) else (s ++ [quote], d :: rest))
    else (s, c :: d :: rest)
  | (s, [c]) => if c = quote then (s ++ [quote], []) else (s, [c])
  | (s, []) => (s, [])

/-- Drops a line end that directly follows the start of a string of several lines. -/
def dropFirstLineEnd : List Char → List Char
  | '\n' :: rest => rest
  | cs => cs

/-- Reads a string. -/
def readString? (fuel : Nat) : List Char → Option (List Char × List Char)
  | '"' :: '"' :: '"' :: rest =>
    (readBasicBody? true fuel (dropFirstLineEnd rest)).map (addQuotes '"')
  | '"' :: rest => readBasicBody? false fuel rest
  | '\'' :: '\'' :: '\'' :: rest =>
    (readLiteralLines? (dropFirstLineEnd rest)).map (addQuotes '\'')
  | '\'' :: rest => readLiteralBody? rest
  | _ => none

/-! ## Keys -/

/-- The characters of a key without quotes. -/
def isBareKeyChar (c : Char) : Bool := c.isAlphanum || c == '-' || c == '_'

/-- The names of a dotted key. -/
abbrev Key := List String

/-- Reads one name of a key. -/
def readName? (fuel : Nat) : List Char → Option (String × List Char)
  | '\'' :: rest => (readLiteralBody? rest).map fun (s, r) => (String.ofList s, r)
  | '"' :: rest => (readBasicBody? false fuel rest).map fun (s, r) => (String.ofList s, r)
  | cs =>
    let name := cs.takeWhile isBareKeyChar
    if name.isEmpty then none else some (String.ofList name, cs.dropWhile isBareKeyChar)

/-- Reads a key and the blanks after it. Every name takes a character. -/
def readKey? : (fuel : Nat) → List Char → Option (Key × List Char)
  | 0, _ => none
  | fuel + 1, cs => do
    let (name, rest) ← readName? (fuel + 1) cs
    match skipBlanks rest with
    | '.' :: more =>
      let (names, r) ← readKey? fuel (skipBlanks more)
      return (name :: names, r)
    | r => return ([name], r)

end LintFixture.Toml
