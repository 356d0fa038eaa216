import LintFixture.Number.Numeral
import LintFixture.Text.Blank
import LintFixture.Text.Digit

/-!
# Binary floating point numbers

A finite number is a sign, a significand below 2^53 and a power of two from -1074 to 971; the
significand has all its 53 bits unless the exponent is the least one, so numbers are equal only if
their parts are. `ofRatio` rounds an exact quotient to the nearest number, a tie to the even
significand, and `ofDecimal` does so with a decimal.
-/

namespace LintFixture

/-- A number of 64 bits. -/
inductive Binary64
  | nan
  | infinite (negative : Bool)
  | finite (negative : Bool) (significand : Nat) (exponent : Int)
  deriving DecidableEq, Repr

namespace Binary64

/-- The quotient rounded to the nearest whole number, a tie to the even one. -/
def roundHalfEven (num den : Nat) : Nat :=
  let q := num / den
  let r := num % den
  if 2 * r < den then q
  else if 2 * r = den then q + q % 2
  else q + 1

/-- `num / (den * 2 ^ e)` rounded to a whole number. -/
def scaleRound (num den : Nat) (e : Int) : Nat :=
  if 0 ≤ e then roundHalfEven num (den * Nat.pow 2 e.toNat)
  else roundHalfEven (num * Nat.pow 2 (-e).toNat) den

/-- The size `num / (den * 2 ^ e)` is at least `bound`. -/
def reaches (num den : Nat) (e : Int) (bound : Nat) : Bool :=
  if 0 ≤ e then decide (bound * (den * Nat.pow 2 e.toNat) ≤ num)
  else decide (bound * den ≤ num * Nat.pow 2 (-e).toNat)

/-- The number nearest to a quotient. -/
def ofRatio (negative : Bool) (num den : Nat) : Binary64 :=
  if num = 0 ∨ den = 0 then finite negative 0 (-1074)
  else
    let guess : Int := (Nat.log2 num : Int) - Nat.log2 den - 53
    let e := if reaches num den (guess + 1) (Nat.pow 2 52) then guess + 1 else guess
    let e := if e < -1074 then -1074 else e
    let m := scaleRound num den e
    let (m, e) := if m = Nat.pow 2 53 then (Nat.pow 2 52, e + 1) else (m, e)
    if 971 < e then infinite negative else finite negative m e

/-- The number nearest to `digits * 10 ^ exponent`. The decimal is told to be out of range by its
number of digits, before any power is taken. -/
def ofDecimal (negative : Bool) (digits : Nat) (exponent : Int) : Binary64 :=
  let size := (Nat.toDigits 10 digits).length
  if digits = 0 ∨ exponent + size < -330 then finite negative 0 (-1074)
  else if 310 < exponent + size then infinite negative
  else if 0 ≤ exponent then ofRatio negative (digits * Nat.pow 10 exponent.toNat) 1
  else ofRatio negative digits (Nat.pow 10 (-exponent).toNat)

/-- The exact size of a finite number as a quotient. -/
def ratio (significand : Nat) (exponent : Int) : Nat × Nat :=
  if 0 ≤ exponent then (significand * Nat.pow 2 exponent.toNat, 1)
  else (significand, Nat.pow 2 (-exponent).toNat)

/-- The whole number that is equal to a number, if any. -/
def toInt? : Binary64 → Option Int
  | finite negative m e =>
    let (num, den) := ratio m e
    if num % den = 0 then some (signedInt negative (num / den)) else none
  | _ => none

/-- The number nearest to the one after a number. -/
def addOne : Binary64 → Binary64
  | finite negative m e =>
    let (num, den) := ratio m e
    let sum := signedInt negative num + den
    ofRatio (decide (sum < 0)) sum.natAbs den
  | x => x

/-- A number is neither infinite nor undefined. -/
def isFinite : Binary64 → Bool
  | finite .. => true
  | _ => false

/-- Reads digits with an optional fraction and an optional power of ten. -/
def readDecimal? (negative : Bool) (cs : List Char) : Option Binary64 :=
  let whole := cs.takeWhile isDecimalDigit
  let rest := cs.dropWhile isDecimalDigit
  let (fraction, rest) := match rest with
    | '.' :: more => (more.takeWhile isDecimalDigit, more.dropWhile isDecimalDigit)
    | _ => ([], rest)
  let digits := numeralValue 10 (whole ++ fraction)
  if whole.isEmpty && fraction.isEmpty then none
  else
    match rest with
    | [] => some (ofDecimal negative digits (-(fraction.length : Int)))
    | c :: power =>
      let (down, power) := takeSign power
      if (c == 'e' || c == 'E') && !power.isEmpty && power.all isDecimalDigit then
        some (ofDecimal negative digits
          (signedInt down (numeralValue 10 power) - fraction.length))
      else none

/-- The digits of a text without the underscores that stand between two of them; `last` tells
whether a digit comes before. An underscore anywhere else is a fault. -/
def withoutUnderscores? : (last : Bool) → List Char → Option (List Char)
  | _, [] => some []
  | last, '_' :: c :: rest =>
    if last && isDecimalDigit c then (withoutUnderscores? true rest).map (c :: ·) else none
  | _, c :: rest =>
    if c = '_' then none else (withoutUnderscores? (isDecimalDigit c) rest).map (c :: ·)

/-- Reads a number: an optional sign, then the name of an infinite or undefined number in any case,
or a decimal in the digits of any script. Blanks may stand around it. -/
def read? (text : String) : Option Binary64 := do
  let plain := (Text.trim Text.isBlank text.toList).map Text.plainDigit
  let (negative, cs) := takeSign (← withoutUnderscores? false plain)
  let word := cs.map Char.toLower
  if ["inf", "infinity"].any (·.toList == word) then return infinite negative
  else if word == "nan".toList then return nan
  else readDecimal? negative cs

end Binary64

end LintFixture
