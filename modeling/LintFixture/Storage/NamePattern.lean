/-!
# Patterns of names

A star in a pattern stands for any text, a question mark for any character, and a bracketed set
for one of its characters. A set holds characters and ranges; ranges that run backwards hold
nothing, and an exclamation mark at the start turns the set around.
-/

namespace LintFixture

/-- Characters by ranges, or all others. -/
structure CharSet where
  negated : Bool
  ranges : List (Char × Char)
  deriving DecidableEq, Repr

/-- A character lies in a set. -/
def CharSet.contains (s : CharSet) (c : Char) : Bool :=
  s.negated != s.ranges.any fun r => decide (r.1 ≤ c) && decide (c ≤ r.2)

/-- A piece of a pattern: any text, or one character of a set. -/
inductive PatternItem
  | star
  | one (set : CharSet)
  deriving DecidableEq, Repr

namespace PatternItem

/-- Just one character. -/
def lit (c : Char) : PatternItem := .one ⟨false, [(c, c)]⟩

/-- Any character. -/
def any : PatternItem := .one ⟨true, []⟩

end PatternItem

/-! ## Sets -/

/-- Cuts the inside of a set at the hyphens of its ranges; at least `skip` characters come before
the next cut. A hyphen at either end, or right after a range, is a character. -/
def cutRanges (skip : Nat) : List Char → List (List Char)
  | [] => [[]]
  | c :: rest =>
    if skip = 0 ∧ c = '-' then [] :: cutRanges 2 rest
    else
      match cutRanges (skip - 1) rest with
      | [] => [[c]]
      | chunk :: chunks => (c :: chunk) :: chunks

/-- A hyphen before the end of a set is a character. -/
def closeRanges : List (List Char) → List (List Char)
  | [chunk, []] => [chunk ++ ['-']]
  | [] => []
  | chunk :: chunks => chunk :: closeRanges chunks

/-- Drops the ranges that run backwards, together with their ends. -/
def dropBackward : List (List Char) → List (List Char)
  | [] => []
  | chunk :: chunks =>
    match dropBackward chunks with
    | [] => [chunk]
    | next :: more =>
      match chunk.getLast?, next with
      | some hi, lo :: after =>
        if lo < hi then (chunk.dropLast ++ after) :: more else chunk :: next :: more
      | _, _ => chunk :: next :: more

/-- Writes chunks with a mark, `none`, for the hyphen of a range between them. -/
def markRanges (chunks : List (List Char)) : List (Option Char) :=
  [none].intercalate (chunks.map (·.map some))

/-- The ranges that marked characters describe. -/
def rangesOf : List (Option Char) → List (Char × Char)
  | some a :: none :: some b :: rest => (a, b) :: rangesOf rest
  | some a :: rest => (a, a) :: rangesOf rest
  | none :: rest => ('-', '-') :: rangesOf rest
  | [] => []

/-- The set with the given inside. -/
def CharSet.ofInside (inside : List Char) : CharSet :=
  let first := if inside.head? = some '!' then 2 else 1
  let chunks := dropBackward (closeRanges (cutRanges first inside))
  match markRanges chunks with
  | some '!' :: marks => ⟨true, rangesOf marks⟩
  | marks => ⟨false, rangesOf marks⟩

/-- The inside of a set after its opening bracket, and what follows it. The first character,
besides an exclamation mark, may be a closing bracket. -/
def setInside? (cs : List Char) : Option (List Char × List Char) :=
  let start := match cs with
    | '!' :: ']' :: _ => 2
    | '!' :: _ => 1
    | ']' :: _ => 1
    | _ => 0
  let tail := cs.drop start
  match tail.dropWhile (· != ']') with
  | _ :: rest => some (cs.take start ++ tail.takeWhile (· != ']'), rest)
  | [] => none

/-! ## Patterns -/

/-- The pieces of a pattern. Every piece takes a character, so the length is fuel enough. -/
def patternItems : (fuel : Nat) → List Char → List PatternItem
  | 0, _ => []
  | _ + 1, [] => []
  | fuel + 1, '*' :: rest => .star :: patternItems fuel rest
  | fuel + 1, '?' :: rest => .any :: patternItems fuel rest
  | fuel + 1, '[' :: rest =>
    match setInside? rest with
    | some (inside, more) => .one (CharSet.ofInside inside) :: patternItems fuel more
    | none => .lit '[' :: patternItems fuel rest
  | fuel + 1, c :: rest => .lit c :: patternItems fuel rest

/-- For every place of a list, whether the values from there on hold one that is true. -/
def anyFrom : List Bool → List Bool
  | [] => []
  | b :: rest =>
    let later := anyFrom rest
    (b || later.headD false) :: later

/-- For every end of a text, from the whole to the empty one, whether it matches a pattern. -/
def matchedEnds (cs : List Char) : List PatternItem → List Bool
  | [] => cs.map (fun _ => false) ++ [true]
  | .star :: items => anyFrom (matchedEnds cs items)
  | .one set :: items =>
    List.zipWith (fun c matched => set.contains c && matched) cs (matchedEnds cs items).tail
      ++ [false]

/-- A text matches a pattern as a whole. -/
def matchesItems (items : List PatternItem) (cs : List Char) : Bool :=
  (matchedEnds cs items).headD false

/-- A name matches the text of a pattern. -/
def matchesPattern (pattern name : List Char) : Bool :=
  matchesItems (patternItems pattern.length pattern) name

end LintFixture
