/-!
# Entries under keys

Lists of keys with values in which every key occurs once.
-/

namespace LintFixture

/-- Gives a key a value: a key that is there keeps its place, a new one goes to the end. -/
def insertEntry [BEq κ] (entries : List (κ × α)) (key : κ) (value : α) : List (κ × α) :=
  if entries.any (·.1 == key) then
    entries.map fun e => if e.1 == key then (key, value) else e
  else entries ++ [(key, value)]

/-- The entries that a list of keys with values comes to; of several values of a key the last one
stays, at the place of the first. -/
def entriesOf [BEq κ] (pairs : List (κ × α)) : List (κ × α) :=
  pairs.foldl (fun entries e => insertEntry entries e.1 e.2) []

end LintFixture
