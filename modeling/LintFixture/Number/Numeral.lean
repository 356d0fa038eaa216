/-!
# Decimal numerals

Reading and writing of whole numbers in base ten.
-/

namespace LintFixture

/-- A digit of ASCII. -/
def isDecimalDigit (c : Char) : Bool :=
  decide ('0' ≤ c) && decide (c ≤ '9')

/-- The number that digits spell, the most significant one first. -/
def digitsValue (base : Nat) (digits : List Nat) : Nat :=
  digits.foldl (fun n d => n * base + d) 0

/-- The value of a digit in any base up to sixteen. -/
def digitOf (c : Char) : Nat :=
  if isDecimalDigit c then c.toNat - '0'.toNat
  else if 'a' ≤ c ∧ c ≤ 'f' then c.toNat - 'a'.toNat + 10
  else c.toNat - 'A'.toNat + 10

/-- The number that the digits of a text spell. -/
def numeralValue (base : Nat) (cs : List Char) : Nat :=
  digitsValue base (cs.map digitOf)

/-- Takes an optional sign from the start of a text; `true` means minus. -/
def takeSign : List Char → Bool × List Char
  | '-' :: rest => (true, rest)
  | '+' :: rest => (false, rest)
  | cs => (false, cs)

/-- A whole number by its sign and size. -/
def signedInt (negative : Bool) (n : Nat) : Int :=
  if negative then -(n : Int) else n

/-- The most digits of a decimal numeral that are read or written. -/
def longestNumeral : Nat := 4300

/-- A number has a decimal numeral that is not too long. -/
def hasNumeral (n : Int) : Bool := decide (n.natAbs < Nat.pow 10 longestNumeral)

theorem hasNumeral_natCast_iff {n : Nat} :
    hasNumeral n = true ↔ n < Nat.pow 10 longestNumeral := by
  rw [hasNumeral, Int.natAbs_natCast, decide_eq_true_iff]

/-- There are positions without a numeral, counted from one. -/
theorem exists_hasNumeral_succ_eq_false : ∃ n : Nat, hasNumeral ((n : Int) + 1) = false := by
  refine ⟨Nat.pow 10 longestNumeral, ?_⟩
  rw [← Bool.not_eq_true, ← Int.natCast_succ, hasNumeral_natCast_iff]
  exact Nat.not_succ_lt_self

theorem hasNumeral_neg (n : Int) : hasNumeral (-n) = hasNumeral n := by
  rw [hasNumeral, hasNumeral, Int.natAbs_neg]

/-- The wording of a numeral that is too long; `found` says how long it is, if that is known. -/
def longNumeralText (found : String) : String :=
  "Exceeds the limit (" ++ toString longestNumeral ++ " digits) for integer string conversion"
    ++ found ++ "; use sys.set_int_max_str_digits() to increase the limit"

/-- Numbers that fit a word of 64 bits. -/
def fitsWord (n : Int) : Bool :=
  decide (-0x8000000000000000 ≤ n) && decide (n < 0x8000000000000000)

/-- The digits of a text in which every underscore stands between two digits, without the
underscores. -/
def groupedDigits? : List Char → Option (List Char)
  | [] => none
  | [c] => if isDecimalDigit c then some [c] else none
  | c :: '_' :: rest =>
    if isDecimalDigit c then (groupedDigits? rest).map (c :: ·) else none
  | c :: rest =>
    if isDecimalDigit c then (groupedDigits? rest).map (c :: ·) else none

end LintFixture
