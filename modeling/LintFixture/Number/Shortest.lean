import LintFixture.Number.Binary64

/-!
# The shortest decimal of a number

A finite number is written with the fewest digits that read back as the number, and of those the
nearest to it. `Binary64.text` writes powers of ten from -4 to 15 by position and always with a
fraction, all others with an exponent of two digits at least.
-/

namespace LintFixture

namespace Binary64

/-- A decimal below one: `0.d₁d₂… * 10 ^ point`. -/
structure Decimal where
  digits : List Char
  point : Int
  deriving DecidableEq, Repr

/-- The `k` with `10 ^ (k - 1) ≤ num / den < 10 ^ k`. -/
def decimalPoint (num den : Nat) : Int :=
  let k : Int := ((Nat.toDigits 10 num).length : Int) - (Nat.toDigits 10 den).length
  let below := if 0 ≤ k then decide (num < den * Nat.pow 10 k.toNat)
    else decide (num * Nat.pow 10 (-k).toNat < den)
  if below then k else k + 1

/-- The neighbours of a quotient among the multiples of `10 ^ exponent` that read back as
`target`, the nearest one of them. -/
def nearestOnGrid? (target : Binary64) (num den : Nat) (exponent : Int) : Option Nat :=
  let (num, den) := if 0 ≤ exponent then (num, den * Nat.pow 10 exponent.toNat)
    else (num * Nat.pow 10 (-exponent).toNat, den)
  let low := num / den
  let readsBack n := ofDecimal false n exponent == target
  match readsBack low, readsBack (low + 1) with
  | true, true =>
    let r := 2 * (num % den)
    some (if r < den ∨ (r = den ∧ low % 2 = 0) then low else low + 1)
  | true, false => some low
  | false, true => some (low + 1)
  | false, false => none

/-- Tries grids of ever more digits. Seventeen digits tell any two numbers apart. -/
def shortestFrom (target : Binary64) (num den : Nat) (point : Int) : Nat → Nat → Nat × Int
  | 0, _ => (0, 0)
  | fuel + 1, size =>
    match nearestOnGrid? target num den (point - size) with
    | some n => (n, point - size)
    | none => shortestFrom target num den point fuel (size + 1)

/-- The shortest decimal of a finite number other than zero. -/
def shortest (significand : Nat) (exponent : Int) : Decimal :=
  let (num, den) := ratio significand exponent
  let (n, e) := shortestFrom (finite false significand exponent) num den (decimalPoint num den) 17 1
  let digits := Nat.toDigits 10 n
  let kept := (digits.reverse.dropWhile (· == '0')).reverse
  ⟨kept, e + digits.length⟩

/-- Writes a decimal by position, with one digit at least on both sides of the point. -/
def positional (d : Decimal) : List Char :=
  if d.point ≤ 0 then '0' :: '.' :: List.replicate (-d.point).toNat '0' ++ d.digits
  else
    let whole := d.digits.take d.point.toNat
    let fraction := d.digits.drop d.point.toNat
    whole ++ List.replicate (d.point.toNat - d.digits.length) '0'
      ++ '.' :: (if fraction.isEmpty then ['0'] else fraction)

/-- Writes a decimal with one digit before the point and a power of ten. -/
def scientific (d : Decimal) : List Char :=
  let power := d.point - 1
  let digits := Nat.toDigits 10 power.natAbs
  let head := match d.digits with
    | [] => []
    | [c] => [c]
    | c :: rest => c :: '.' :: rest
  head ++ 'e' :: (if power < 0 then '-' else '+')
    :: (if digits.length < 2 then '0' :: digits else digits)

/-- The text of a number. -/
def text : Binary64 → String
  | nan => "nan"
  | infinite negative => if negative then "-inf" else "inf"
  | finite negative m e =>
    let body :=
      if m = 0 then ['0', '.', '0']
      else
        let d := shortest m e
        if -4 < d.point ∧ d.point ≤ 16 then positional d else scientific d
    String.ofList (if negative then '-' :: body else body)

end Binary64

end LintFixture
