import LintFixture.Toml.Lexeme
import LintFixture.Toml.Refusal
import LintFixture.Value

/-!
# Numbers, dates and times of TOML

A reader takes the longest number or moment from the start of a text. What may follow it is left
to the reader of the value around it.
-/

namespace LintFixture.Toml

/-! ## Numbers -/

/-- Reads digits, each of which may have an underscore before it, and gives the digits alone. -/
def moreDigits (isDigit : Char → Bool) : List Char → List Char × List Char
  | [] => ([], [])
  | '_' :: c :: rest =>
    if isDigit c then
      let (digits, r) := moreDigits isDigit rest
      (c :: digits, r)
    else ([], '_' :: c :: rest)
  | c :: rest =>
    if isDigit c then
      let (digits, r) := moreDigits isDigit rest
      (c :: digits, r)
    else ([], c :: rest)

/-- Reads digits, one at least. -/
def readDigits? (isDigit : Char → Bool) : List Char → Option (List Char × List Char)
  | c :: rest =>
    if isDigit c then
      let (digits, r) := moreDigits isDigit rest
      some (c :: digits, r)
    else none
  | [] => none

/-- Reads a whole number with a mark for its base. -/
def readBased? : List Char → Option (Value × List Char)
  | '0' :: mark :: rest =>
    let read (base : Nat) (isDigit : Char → Bool) : Option (Value × List Char) :=
      (readDigits? isDigit rest).map fun (digits, r) => (.int (numeralValue base digits), r)
    if mark = 'x' then read 16 isHexDigit
    else if mark = 'o' then read 8 fun c => decide ('0' ≤ c) && decide (c ≤ '7')
    else if mark = 'b' then read 2 fun c => c == '0' || c == '1'
    else none
  | _ => none

/-- Reads the digits before a point: a zero alone, or digits that begin with another one. -/
def readWhole? : List Char → Option (List Char × List Char)
  | '0' :: rest => some (['0'], rest)
  | cs => readDigits? isDecimalDigit cs

/-- Reads a point and digits, if they are there. -/
def readFraction : List Char → List Char × List Char
  | '.' :: rest => (readDigits? isDecimalDigit rest).getD ([], '.' :: rest)
  | cs => ([], cs)

/-- Reads a power of ten, if it is there. -/
def readPower (cs : List Char) : Option Int × List Char :=
  match cs with
  | c :: rest =>
    let (down, digits) := takeSign rest
    match readDigits? isDecimalDigit digits with
    | some (power, r) =>
      if c = 'e' ∨ c = 'E' then (some (signedInt down (numeralValue 10 power)), r) else (none, cs)
    | none => (none, cs)
  | [] => (none, cs)

/-- Reads a decimal number, which is a whole one if it has neither fraction nor power. Only the
digits of a whole number are limited. -/
def readDecimal (cs : List Char) : Except Refusal (Value × List Char) := do
  let (negative, rest) := takeSign cs
  let (whole, rest) ← expected (readWhole? rest)
  let (fraction, rest) := readFraction rest
  let (power, rest) := readPower rest
  if fraction.isEmpty ∧ power.isNone then
    if longestNumeral < whole.length then .error (.longNumeral whole.length)
    else return (.int (signedInt negative (numeralValue 10 whole)), rest)
  else
    return (.float (Binary64.ofDecimal negative (numeralValue 10 (whole ++ fraction))
      (power.getD 0 - fraction.length)), rest)

/-- Reads an infinite or an undefined number. -/
def readSpecial? (cs : List Char) : Option (Value × List Char) :=
  let (negative, rest) := takeSign cs
  match rest with
  | 'i' :: 'n' :: 'f' :: r => some (.float (.infinite negative), r)
  | 'n' :: 'a' :: 'n' :: r => some (.float .nan, r)
  | _ => none

/-! ## Dates and times -/

/-- Reads a number of a fixed count of digits within bounds. -/
def readField? (size low high : Nat) (cs : List Char) : Option (Nat × List Char) :=
  let digits := cs.take size
  let n := numeralValue 10 digits
  if digits.length = size ∧ digits.all isDecimalDigit ∧ low ≤ n ∧ n ≤ high then
    some (n, cs.drop size)
  else none

/-- Reads one character. -/
def expect? (c : Char) : List Char → Option (List Char)
  | d :: rest => if d = c then some rest else none
  | [] => none

/-- Reads a fraction of a second, of which microseconds are kept. -/
def readMicros : List Char → Nat × List Char
  | '.' :: rest =>
    let digits := rest.takeWhile isDecimalDigit
    if digits.isEmpty then (0, '.' :: rest)
    else
      let kept := digits.take 6
      (numeralValue 10 (kept ++ List.replicate (6 - kept.length) '0'),
        rest.dropWhile isDecimalDigit)
  | cs => (0, cs)

/-- Reads a time of day. -/
def readTime? (cs : List Char) : Option (ClockTime × List Char) := do
  let (hour, cs) ← readField? 2 0 23 cs
  let (minute, cs) ← readField? 2 0 59 (← expect? ':' cs)
  let (second, cs) ← readField? 2 0 59 (← expect? ':' cs)
  let (micro, cs) := readMicros cs
  return (⟨hour, minute, second, micro⟩, cs)

/-- Reads a date. The calendar may not have it. -/
def readDate? (cs : List Char) : Option (CivilDate × List Char) := do
  let (year, cs) ← readField? 4 0 9999 cs
  let (month, cs) ← readField? 2 1 12 (← expect? '-' cs)
  let (day, cs) ← readField? 2 1 31 (← expect? '-' cs)
  return (⟨year, month, day⟩, cs)

/-- Reads hours and minutes after the sign of an offset. -/
def readHours? (cs : List Char) : Option (Nat × List Char) := do
  let (hour, cs) ← readField? 2 0 23 cs
  let (minute, cs) ← readField? 2 0 59 (← expect? ':' cs)
  return (hour * 60 + minute, cs)

/-- Reads an offset in minutes, if it is there. -/
def readOffset : List Char → Option Int × List Char
  | [] => (none, [])
  | c :: rest =>
    if c = 'Z' ∨ c = 'z' then (some 0, rest)
    else if c = '+' ∨ c = '-' then
      match readHours? rest with
      | some (minutes, r) => (some (signedInt (c == '-') minutes), r)
      | none => (none, c :: rest)
    else (none, c :: rest)

/-- Reads a date with or without a time after it. -/
def readDateTime? (cs : List Char) : Option (Moment × List Char) := do
  let (day, rest) ← readDate? cs
  match rest with
  | c :: more =>
    if c = 'T' ∨ c = 't' ∨ c = ' ' then
      match readTime? more with
      | some (clock, r) =>
        let (offset, r) := readOffset r
        return (.dateTime day clock offset, r)
      | none => return (.date day, rest)
    else return (.date day, rest)
  | [] => return (.date day, rest)

/-- The calendar has the date of a moment. -/
def onCalendar : Moment → Bool
  | .date day => day.isValid
  | .dateTime day _ _ => day.isValid
  | .time _ => true

/-- Reads a number, a date or a time. -/
def readScalar (cs : List Char) : Except Refusal (Value × List Char) :=
  match readDateTime? cs with
  | some (m, rest) => if onCalendar m then .ok (.moment m, rest) else .error .malformed
  | none =>
    match readTime? cs with
    | some (clock, rest) => .ok (.moment (.time clock), rest)
    | none =>
      match readBased? cs <|> readSpecial? cs with
      | some r => .ok r
      | none => readDecimal cs

end LintFixture.Toml
