import LintFixture.Toml.Scalar
import LintFixture.Toml.Table

/-!
# Reading TOML

`read` reads a document as a table, or tells why not: the place and the wording of a fault in the
document are not kept. The depth of values is limited by a room that every one takes a part of.
-/

namespace LintFixture.Toml

/-- The room that an array takes. -/
def arrayRoom : Nat := 2

/-- The room that an inline table takes. -/
def tableRoom : Nat := 3

/-- The room that nested values have together. -/
def wholeRoom : Nat := 980

/-- The room that is left after a part of it is taken. -/
def takeRoom (part room : Nat) : Except Refusal Nat :=
  if room < part then .error .tooDeep else .ok (room - part)

mutual

/-- Reads a value. Two steps of fuel for every character are enough. -/
def readValue : (fuel room : Nat) → List Char → Except Refusal (Value × List Char)
  | 0, _, _ => .error .malformed
  | fuel + 1, room, cs =>
    match cs with
    | '"' :: _ => (expected (readString? fuel cs)).map fun (s, r) => (.text (String.ofList s), r)
    | '\'' :: _ => (expected (readString? fuel cs)).map fun (s, r) => (.text (String.ofList s), r)
    | 't' :: 'r' :: 'u' :: 'e' :: rest => .ok (.bool true, rest)
    | 'f' :: 'a' :: 'l' :: 's' :: 'e' :: rest => .ok (.bool false, rest)
    | '[' :: rest => do
      let room ← takeRoom arrayRoom room
      let rest ← expected (skipTrivia? false rest)
      let (items, r) ← readItems fuel room rest
      return (.list items, r)
    | '\x7b' :: rest => do
      let room ← takeRoom tableRoom room
      match skipBlanks rest with
      | '\x7d' :: r => return (.mapping [], r)
      | rest =>
        let (table, r) ← readEntries fuel room [] [] rest
        return (.mapping table, r)
    | _ => readScalar cs

/-- Reads the items of an array and its end. -/
def readItems : (fuel room : Nat) → List Char → Except Refusal (List Value × List Char)
  | 0, _, _ => .error .malformed
  | fuel + 1, room, cs =>
    match cs with
    | ']' :: rest => .ok ([], rest)
    | _ => do
      let (item, rest) ← readValue fuel room cs
      match ← expected (skipTrivia? false rest) with
      | ']' :: rest => return ([item], rest)
      | ',' :: rest =>
        let (items, r) ← readItems fuel room (← expected (skipTrivia? false rest))
        return (item :: items, r)
      | _ => .error .malformed

/-- Reads the entries of an inline table and its end; `table` and `frozen` are what is read. -/
def readEntries : (fuel room : Nat) → Table → List Key → List Char →
    Except Refusal (Table × List Char)
  | 0, _, _, _, _ => .error .malformed
  | fuel + 1, room, table, frozen, cs => do
    let (key, rest) ← expected (readKey? fuel cs)
    let (v, rest) ← readValue fuel room (skipBlanks (← expected (expect? '=' rest)))
    let table ←
      if Document.isFrozen frozen key then .error .malformed
      else expected (changeAt? false (addKey? (key.getLastD "") v) key.dropLast table)
    match skipBlanks rest with
    | '\x7d' :: rest => return (table, rest)
    | ',' :: rest =>
      readEntries fuel room table (if isCompound v then key :: frozen else frozen)
        (skipBlanks rest)
    | _ => .error .malformed

end

/-- Reads a key, an equals sign and a value, with fuel for every character. -/
def readPair (fuel : Nat) (cs : List Char) : Except Refusal ((Key × Value) × List Char) := do
  let (key, rest) ← expected (readKey? fuel cs)
  let rest := skipBlanks (← expected (expect? '=' rest))
  let (v, rest) ← readValue (2 * fuel) wholeRoom rest
  return ((key, v), rest)

/-- Reads the header of a table or of the item of a list. -/
def readHeader? (fuel : Nat) (d : Document) : List Char → Option (Document × List Char)
  | '[' :: rest => do
    let (key, rest) ← readKey? fuel (skipBlanks rest)
    let d ← d.closeSection.openListItem? key
    return (d, ← expect? ']' (← expect? ']' rest))
  | rest => do
    let (key, rest) ← readKey? fuel (skipBlanks rest)
    let d ← d.closeSection.openTable? key
    return (d, ← expect? ']' rest)

/-- Reads what one line begins with: a header, a pair or nothing. -/
def readStatement (fuel : Nat) (d : Document) :
    List Char → Except Refusal (Document × List Char)
  | [] => .ok (d, [])
  | c :: rest =>
    if c = '[' then expected (readHeader? fuel d rest)
    else if c = '\n' ∨ c = '#' then .ok (d, c :: rest)
    else do
      let ((key, v), rest) ← readPair fuel (c :: rest)
      return (← expected (d.set? key v), rest)

/-- Reads the statements of a document. Every line takes a character, so the length of the text is
fuel enough. -/
def readLines : (fuel : Nat) → Document → List Char → Except Refusal Document
  | 0, _, _ => .error .malformed
  | fuel + 1, d, cs => do
    let (d, rest) ← readStatement (fuel + 1) d (skipBlanks cs)
    match ← expected (skipComment? (skipBlanks rest)) with
    | [] => return d
    | '\n' :: rest => readLines fuel d rest
    | _ => .error .malformed

/-- Line ends of two characters count as one. -/
def joinLineEnds : List Char → List Char
  | '\r' :: '\n' :: rest => '\n' :: joinLineEnds rest
  | c :: rest => c :: joinLineEnds rest
  | [] => []

/-- Reads a document. -/
def read (cs : List Char) : Except Refusal Table :=
  let cs := joinLineEnds cs
  (readLines (cs.length + 1) .empty cs).map (·.table)

end LintFixture.Toml
