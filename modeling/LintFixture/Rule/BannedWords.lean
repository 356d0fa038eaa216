import LintFixture.Rule.Basic
import LintFixture.Text.Blank
import LintFixture.Text.Case
import LintFixture.Text.Word

/-!
# Banned words

The rule reports the words of its options wherever they stand between word boundaries, in upper or
lower case. Of several words that match at one place, the first one in lower case order is taken,
and the search goes on after it. Words that differ in their last letter alone are looked for by
that letter: beyond the basic plane it then stands for the letters whose lower case it is.
-/

namespace LintFixture

namespace Rule

/-- The words that options ban: their texts without blank ones and repetitions, in lower case
order. -/
def bannedWords (options : List Value) : List (List Char) :=
  let words := (options.map fun v => v.display.toList).filter fun w => !w.all Text.isBlank
  words.eraseDups.mergeSort fun a b => !(Text.lowered b).lex (Text.lowered a)

/-- Two letters are equal, cases aside. -/
def sameLetter (w c : Char) : Bool := Text.fold w == Text.fold c

/-- A letter of the text is one that a last letter stands for among several ones. -/
def sameLastLetter (w c : Char) : Bool :=
  if w.toNat < 0x10000 then sameLetter w c else Text.toLower c == w

/-- Several words differ in their last letter alone. -/
def differInLast : List (List Char) → Bool
  | first :: second :: rest => (second :: rest).all fun w => w.dropLast == first.dropLast
  | _ => false

/-- What follows a word at the start of a text, and the last character of the text that matched
it. The last letters are compared by `ends`. -/
def afterWord? (ends : Char → Char → Bool) :
    (word text : List Char) → (last : Option Char) → Option (Option Char × List Char)
  | [], text, last => some (last, text)
  | _ :: _, [], _ => none
  | w :: word, c :: text, _ =>
    if (if word.isEmpty then ends w c else sameLetter w c) then
      afterWord? ends word text (some c)
    else none

/-- The length of the first word that stands between boundaries at the start of a text. -/
def wordAt? (words : List (List Char)) (before : Option Char) (text : List Char) : Option Nat :=
  let ends := if differInLast words then sameLastLetter else sameLetter
  if Text.isBoundary before text.head? then
    words.findSome? fun word =>
      match afterWord? ends word text before with
      | some (last, rest) => if Text.isBoundary last rest.head? then some word.length else none
      | none => none
  else none

/-- The column and text of every occurrence from `column` on; the first `skip` characters belong
to an occurrence already found. -/
def occurrencesFrom (words : List (List Char)) :
    (column skip : Nat) → (before : Option Char) → List Char → List (Nat × List Char)
  | _, _, _, [] => []
  | column, skip + 1, _, c :: text => occurrencesFrom words (column + 1) skip (some c) text
  | column, 0, before, c :: text =>
    match wordAt? words before (c :: text) with
    | some n =>
      (column, (c :: text).take n) :: occurrencesFrom words (column + 1) (n - 1) (some c) text
    | none => occurrencesFrom words (column + 1) 0 (some c) text

/-- The banned words of a line. -/
def findBanned (words : List (List Char)) (cs : List Char) : List Finding :=
  (occurrencesFrom words 0 0 none cs).map fun (column, word) =>
    ⟨column, word.length, "'" ++ String.ofList word ++ "' is banned"⟩

/-- Bans the words of the options, all of which have to be writable. -/
def bannedWordsRule : Rule where
  label := "BannedWordsRule"
  name := "banned-words"
  check options name source :=
    if Value.areWritable options then
      .ok (diagnosticsOf name source (findBanned (bannedWords options)))
    else .error .unwritable

end Rule

end LintFixture
