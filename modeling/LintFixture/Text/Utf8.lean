/-!
# UTF-8

`encodeUtf8` writes characters as bytes, and `decodeUtf8` reads them back one byte at a time. A
fault says where the sequence that cannot be read begins, how many of its bytes were read, and
what was wrong: the first byte of it, one of the next, or that the bytes ended.
-/

namespace LintFixture.Text

/-- Why bytes are not UTF-8. -/
inductive Utf8Fault.Cause
  | start
  | continuation
  | unfinished
  deriving DecidableEq

/-- The bytes that could not be read: `length` of them from `position` on, `first` being the
first. -/
structure Utf8Fault where
  position : Nat
  length : Nat
  first : UInt8
  cause : Utf8Fault.Cause
  deriving DecidableEq

/-- A character of which some bytes are read: `owed` are to come, and the next one lies between
`low` and `high`. -/
structure PartialChar where
  position : Nat
  first : UInt8
  value : Nat
  owed : Nat
  low : UInt8
  high : UInt8

/-- What the first byte of a character of several bytes promises. -/
def leadByte (position : Nat) (b : UInt8) : Option PartialChar :=
  let n := b.toNat
  if b < 0xc2 then none
  else if b < 0xe0 then some ⟨position, b, n - 0xc0, 1, 0x80, 0xbf⟩
  else if b = 0xe0 then some ⟨position, b, 0, 2, 0xa0, 0xbf⟩
  else if b = 0xed then some ⟨position, b, 0xd, 2, 0x80, 0x9f⟩
  else if b < 0xf0 then some ⟨position, b, n - 0xe0, 2, 0x80, 0xbf⟩
  else if b = 0xf0 then some ⟨position, b, 0, 3, 0x90, 0xbf⟩
  else if b < 0xf4 then some ⟨position, b, n - 0xf0, 3, 0x80, 0xbf⟩
  else if b = 0xf4 then some ⟨position, b, 4, 3, 0x80, 0x8f⟩
  else none

/-- Reads the bytes from `position` on, within a character or between two. -/
def decodeFrom (position : Nat) : Option PartialChar → List UInt8 → Except Utf8Fault (List Char)
  | none, [] => .ok []
  | some p, [] => .error ⟨p.position, position - p.position, p.first, .unfinished⟩
  | none, b :: rest =>
    if b < 0x80 then
      (decodeFrom (position + 1) none rest).map (Char.ofNat b.toNat :: ·)
    else
      match leadByte position b with
      | some p => decodeFrom (position + 1) (some p) rest
      | none => .error ⟨position, 1, b, .start⟩
  | some p, b :: rest =>
    if p.low ≤ b ∧ b ≤ p.high then
      let value := p.value * 0x40 + (b.toNat - 0x80)
      if p.owed ≤ 1 then
        (decodeFrom (position + 1) none rest).map (Char.ofNat value :: ·)
      else
        decodeFrom (position + 1) (some ⟨p.position, p.first, value, p.owed - 1, 0x80, 0xbf⟩) rest
    else
      .error ⟨p.position, position - p.position, p.first, .continuation⟩

/-- The characters that bytes encode. -/
def decodeUtf8 (bytes : List UInt8) : Except Utf8Fault (List Char) :=
  decodeFrom 0 none bytes

/-- The bytes of a list of characters. -/
def encodeUtf8 (cs : List Char) : List UInt8 :=
  cs.flatMap String.utf8EncodeChar

end LintFixture.Text
