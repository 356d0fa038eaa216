import LintFixture.Proofs.PathText
import LintFixture.Proofs.Reading
import LintFixture.Storage.Search

/-!
# Patterns of names and of searches

A name matches a pattern where the pieces of the pattern spell it (`matchesItems_iff`): the table
of the ends that match is that of the tail of the name, with one entry more. A star and a text
without pattern characters match the names that end in the text (`matchesPattern_star_iff`).

A search pattern is read name by name, as far as there is room. What can be read comes to its
steps, and what cannot is `Unreadable`, by two stars within a name or by too many names
(`ofText_eq_error_iff`). A pattern that is one star and a suffix is one name, unless the suffix has
a slash.
-/

namespace LintFixture

/-! ## The table of ends -/

theorem length_anyFrom : ∀ l : List Bool, (anyFrom l).length = l.length
  | [] => rfl
  | _ :: rest => congrArg (· + 1) (length_anyFrom rest)

theorem length_matchedEnds (cs : List Char) : ∀ items : List PatternItem,
    (matchedEnds cs items).length = cs.length + 1
  | [] => by simp [matchedEnds]
  | .star :: items => by rw [matchedEnds, length_anyFrom, length_matchedEnds cs items]
  | .one set :: items => by simp [matchedEnds, length_matchedEnds cs items]

theorem matchedEnds_eq (cs : List Char) (items : List PatternItem) :
    ∃ rest, matchedEnds cs items = matchesItems items cs :: rest := by
  obtain ⟨b, rest, hends⟩ := List.exists_cons_of_length_eq_add_one (length_matchedEnds cs items)
  exact ⟨rest, by rw [matchesItems, hends]; rfl⟩

/-- The table of a text has one entry more than that of its tail. -/
theorem matchedEnds_cons (c : Char) (cs : List Char) : ∀ items : List PatternItem,
    matchedEnds (c :: cs) items = matchesItems items (c :: cs) :: matchedEnds cs items
  | [] => rfl
  | .star :: items => by
    rw [matchesItems, matchedEnds, matchedEnds_cons c cs items]
    rfl
  | .one set :: items => by
    obtain ⟨rest, hends⟩ := matchedEnds_eq cs items
    rw [matchesItems, matchedEnds, matchedEnds_cons c cs items, matchedEnds, hends]
    rfl

variable {items : List PatternItem} {c : Char} {cs name : List Char} {set : CharSet}

theorem matchesItems_nil : matchesItems [] cs = cs.isEmpty := by
  cases cs <;> rfl

theorem matchesItems_star_nil :
    matchesItems (.star :: items) [] = matchesItems items [] := by
  obtain ⟨b, hends⟩ := List.length_eq_one_iff.mp (length_matchedEnds [] items)
  rw [matchesItems, matchesItems, matchedEnds, hends]
  simp [anyFrom]

theorem matchesItems_star_cons : matchesItems (.star :: items) (c :: cs) =
    (matchesItems items (c :: cs) || matchesItems (.star :: items) cs) := by
  rw [matchesItems, matchedEnds, matchedEnds_cons]
  rfl

theorem matchesItems_one_nil : matchesItems (.one set :: items) [] = false := by
  rfl

theorem matchesItems_one_cons : matchesItems (.one set :: items) (c :: cs) =
    (set.contains c && matchesItems items cs) := by
  obtain ⟨rest, hends⟩ := matchedEnds_eq cs items
  rw [matchesItems, matchedEnds, matchedEnds_cons, hends]
  rfl

/-- A text that the pieces of a pattern spell in their order. -/
inductive Spelled : List PatternItem → List Char → Prop
  | nil : Spelled [] []
  | star {items rest} (any : List Char) : Spelled items rest →
    Spelled (.star :: items) (any ++ rest)
  | one {set c items rest} : set.contains c = true → Spelled items rest →
    Spelled (.one set :: items) (c :: rest)

theorem spelled_star_iff :
    Spelled (.star :: items) cs ↔ ∃ any rest, cs = any ++ rest ∧ Spelled items rest := by
  constructor
  · rintro ⟨⟩
    exact ⟨_, _, rfl, ‹_›⟩
  · rintro ⟨any, rest, rfl, h⟩
    exact .star any h

theorem spelled_star_cons_iff : Spelled (.star :: items) (c :: cs) ↔
    Spelled items (c :: cs) ∨ Spelled (.star :: items) cs := by
  constructor
  · intro h
    obtain ⟨any, rest, hcut, hrest⟩ := spelled_star_iff.mp h
    cases any with
    | nil => exact Or.inl (by rwa [hcut])
    | cons _ any =>
      obtain ⟨rfl, rfl⟩ := List.cons.inj hcut
      exact Or.inr (.star any hrest)
  · rintro (h | h)
    · exact .star [] h
    · obtain ⟨any, rest, rfl, hrest⟩ := spelled_star_iff.mp h
      exact .star (c :: any) hrest

/-- **A text matches a pattern** where the pieces of the pattern spell it. -/
theorem matchesItems_iff : ∀ {items : List PatternItem} {cs : List Char},
    matchesItems items cs = true ↔ Spelled items cs
  | [], cs => by
    rw [matchesItems_nil, List.isEmpty_iff]
    constructor
    · rintro rfl
      exact .nil
    · rintro ⟨⟩
      rfl
  | .star :: items, [] => by
    rw [matchesItems_star_nil, matchesItems_iff, spelled_star_iff]
    constructor
    · exact fun h => ⟨[], [], rfl, h⟩
    · rintro ⟨any, rest, hcut, h⟩
      obtain ⟨-, rfl⟩ := List.append_eq_nil_iff.mp hcut.symm
      exact h
  | .star :: items, c :: cs => by
    rw [matchesItems_star_cons, Bool.or_eq_true, matchesItems_iff, matchesItems_iff,
      spelled_star_cons_iff]
  | .one set :: items, [] => by
    rw [matchesItems_one_nil]
    exact iff_of_false Bool.false_ne_true nofun
  | .one set :: items, c :: cs => by
    rw [matchesItems_one_cons, Bool.and_eq_true, matchesItems_iff]
    constructor
    · exact fun h => .one h.1 h.2
    · rintro ⟨⟩
      exact ⟨‹_›, ‹_›⟩

/-! ## Patterns without sets and question marks -/

/-- Every character of a text stands for itself in a pattern. -/
def IsPlain (cs : List Char) : Prop := ∀ c ∈ cs, c ≠ '*' ∧ c ≠ '?' ∧ c ≠ '['

instance (cs : List Char) : Decidable (IsPlain cs) := List.decidableBAll _ cs

theorem contains_lit {c d : Char} :
    (⟨false, [(c, c)]⟩ : CharSet).contains d = true ↔ d = c := by
  simp only [CharSet.contains, List.any_cons, List.any_nil, Bool.or_false, Bool.false_bne,
    Bool.and_eq_true, decide_eq_true_iff]
  constructor
  · exact fun h => Char.le_antisymm h.2 h.1
  · rintro rfl
    exact ⟨Char.le_refl d, Char.le_refl d⟩

theorem patternItems_plain : ∀ {fuel : Nat} {cs : List Char}, IsPlain cs → cs.length ≤ fuel →
    patternItems fuel cs = cs.map .lit
  | 0, [], _, _ => rfl
  | 0, _ :: _, _, h => absurd h (by simp)
  | _ + 1, [], _, _ => rfl
  | fuel + 1, c :: rest, hplain, h => by
    obtain ⟨⟨hstar, hany, hset⟩, hrest⟩ := List.forall_mem_cons.mp hplain
    have ih := patternItems_plain hrest (Nat.le_of_succ_le_succ h)
    rw [patternItems, ih]
    · rfl
    · exact hstar
    · exact hany
    · exact hset

theorem spelled_lits_iff : ∀ {cs name : List Char}, Spelled (cs.map .lit) name ↔ name = cs
  | [], name => by
    constructor
    · rintro ⟨⟩
      rfl
    · rintro rfl
      exact .nil
  | c :: cs, name => by
    constructor
    · rintro (_ | _ | ⟨hc, hrest⟩)
      rw [contains_lit.mp hc, spelled_lits_iff.mp hrest]
    · rintro rfl
      exact .one (contains_lit.mpr rfl) (spelled_lits_iff.mpr rfl)

/-- A star and a plain text match the names that end in the text. -/
theorem matchesPattern_star_iff {cs name : List Char} (h : IsPlain cs) :
    matchesPattern ('*' :: cs) name = true ↔ cs <:+ name := by
  have hitems : patternItems ('*' :: cs).length ('*' :: cs) = .star :: cs.map .lit := by
    rw [List.length_cons, patternItems, patternItems_plain h (Nat.le_refl _)]
  rw [matchesPattern, hitems, matchesItems_iff, spelled_star_iff]
  simp only [spelled_lits_iff]
  constructor
  · rintro ⟨any, rest, rfl, rfl⟩
    exact ⟨any, rfl⟩
  · rintro ⟨any, rfl⟩
    exact ⟨any, cs, rfl, rfl⟩

namespace SearchStep

/-! ## Reading a search pattern -/

/-- Two stars stand side by side within a name. -/
def Misstarred (name : String) : Prop := name ≠ "**" ∧ ['*', '*'] <:+: name.toList

instance (name : String) : Decidable (Misstarred name) := inferInstanceAs (Decidable (_ ∧ _))

theorem hasDoubleStar_iff : ∀ {cs : List Char}, hasDoubleStar cs = true ↔ ['*', '*'] <:+: cs
  | [] => by simp [hasDoubleStar]
  | [c] => by
    have hlength : ¬ ['*', '*'] <:+: [c] := fun h => by simpa using h.length_le
    simp [hasDoubleStar, hlength]
  | c :: d :: rest => by
    rw [List.infix_cons_iff, ← hasDoubleStar_iff, List.cons_prefix_cons, List.cons_prefix_cons]
    by_cases h : c = '*' ∧ d = '*'
    · obtain ⟨rfl, rfl⟩ := h
      simp [hasDoubleStar]
    · rw [hasDoubleStar]
      · simp [@eq_comm _ '*', h]
      · rintro rest rfl hrest
        exact h ⟨rfl, (List.cons.inj hrest).1⟩

/-- What a name of a search pattern stands for. -/
def stepOf (name : Name) : SearchStep :=
  if name.text = "**" then .deep
  else if isPattern name.text.toList then .matching name.text.toList
  else .exactly name

theorem ofName_of_misstarred {name : Name} (h : Misstarred name.text) :
    ofName name = .error .badPattern := by
  unfold ofName
  dsimp only
  rw [if_neg h.1, if_pos (hasDoubleStar_iff.mpr h.2)]

theorem ofName_of_not_misstarred {name : Name} (h : ¬ Misstarred name.text) :
    ofName name = .ok (stepOf name) := by
  unfold ofName stepOf
  dsimp only
  by_cases hdeep : name.text = "**"
  · rw [if_pos hdeep, if_pos hdeep]
  · have hstars : ¬ hasDoubleStar name.text.toList = true := fun hstars =>
      h ⟨hdeep, hasDoubleStar_iff.mp hstars⟩
    rw [if_neg hdeep, if_neg hdeep, if_neg hstars]
    split <;> rfl

/-- The names of a pattern are read as far as there is room. -/
theorem ofNames_eq : ∀ (room : Nat) (names : List Name), ofNames room names =
    if ∃ name ∈ names.take room, Misstarred name.text then .error .badPattern
    else if room < names.length then .error .tooDeep
    else .ok (names.map stepOf)
  | _, [] => by simp [ofNames]
  | 0, name :: rest => by simp [ofNames]
  | room + 1, name :: rest => by
    rw [ofNames]
    by_cases hname : Misstarred name.text
    · rw [ofName_of_misstarred hname, if_pos ⟨name, List.mem_cons_self, hname⟩]
      rfl
    · have hrest : (∃ other ∈ (name :: rest).take (room + 1), Misstarred other.text) ↔
          ∃ other ∈ rest.take room, Misstarred other.text := by simp [hname]
      rw [ofName_of_not_misstarred hname, ofNames_eq room rest]
      simp only [hrest, List.length_cons, Nat.add_lt_add_iff_right]
      split
      · rfl
      · split <;> rfl

/-- The steps of a pattern that can be read. -/
def stepsOf (pattern : String) : List SearchStep :=
  (Path.namesOf pattern.toList).map stepOf ++
    if pattern.toList.getLast? = some '/' then [.itself] else []

/-- Why a pattern cannot be read. -/
inductive Unreadable (pattern : String) : Fault → Prop
  /-- Two stars stand within a name, -/
  | stars {name : Name} : name ∈ (Path.namesOf pattern.toList).take mostNames →
    Misstarred name.text → Unreadable pattern .badPattern
  /-- or there are more names than are followed. -/
  | depth : mostNames < (Path.namesOf pattern.toList).length →
    (∀ name ∈ (Path.namesOf pattern.toList).take mostNames, ¬ Misstarred name.text) →
    Unreadable pattern .tooDeep

section Reading

variable {pattern : String} {fault : Fault}

theorem ofText_eq (pattern : String) : ofText pattern =
    (ofNames mostNames (Path.namesOf pattern.toList)).map fun steps =>
      if pattern.toList.getLast? = some '/' then steps ++ [.itself] else steps := by
  unfold ofText
  cases ofNames mostNames (Path.namesOf pattern.toList) <;> rfl

theorem ofText_eq_error_iff : ofText pattern = .error fault ↔ Unreadable pattern fault := by
  rw [ofText_eq, map_eq_error_iff, ofNames_eq]
  constructor
  · intro h
    split at h
    · rename_i hstars
      obtain ⟨name, hname, hstars⟩ := hstars
      cases h
      exact .stars hname hstars
    · rename_i hnone
      split at h
      · rename_i hlong
        cases h
        exact .depth hlong fun name hname hstars => hnone ⟨name, hname, hstars⟩
      · cases h
  · intro h
    cases h with
    | stars hname hstars => rw [if_pos ⟨_, hname, hstars⟩]
    | depth hlong hnone =>
      rw [if_neg fun ⟨name, hname, hstars⟩ => hnone name hname hstars, if_pos hlong]

theorem ofText_eq_ok (h : ∀ fault, ¬ Unreadable pattern fault) :
    ofText pattern = .ok (stepsOf pattern) := by
  cases hread : ofText pattern with
  | error fault => exact absurd (ofText_eq_error_iff.mp hread) (h fault)
  | ok steps =>
    rw [ofText_eq, map_eq_ok_iff, ofNames_eq] at hread
    obtain ⟨names, hnames, rfl⟩ := hread
    split at hnames
    · cases hnames
    · split at hnames
      · cases hnames
      · cases hnames
        rw [stepsOf]
        split <;> simp

theorem namesOf_name (name : Name) : Path.namesOf name.text.toList = [name] := by
  have hread := Path.namesOf_intercalate [name]
  rwa [List.map_singleton, String.intercalate_singleton] at hread

/-- A pattern that is a single name can be read unless two stars stand side by side in it. -/
theorem unreadable_of_name (name : Name) :
    Unreadable name.text fault ↔ Misstarred name.text ∧ fault = .badPattern := by
  have hnames := namesOf_name name
  constructor
  · rintro (⟨hname, hstars⟩ | ⟨hlong, -⟩)
    · rw [hnames] at hname
      rw [List.mem_singleton.mp (List.mem_of_mem_take hname)] at hstars
      exact ⟨hstars, rfl⟩
    · rw [hnames] at hlong
      exact absurd (show mostNames < 1 from hlong) (by decide)
  · rintro ⟨hstars, rfl⟩
    exact .stars (by rw [hnames]; exact List.mem_singleton_self name) hstars

end Reading

section Star

variable {suffix : String}

theorem toList_star (suffix : String) : ("*" ++ suffix).toList = '*' :: suffix.toList := by
  simp

theorem isName_star (hslash : '/' ∉ suffix.toList) : isName ("*" ++ suffix) = true := by
  have hne : "*" ++ suffix ≠ "" := fun h => by
    simpa [toList_star] using congrArg String.toList h
  have hdot : "*" ++ suffix ≠ "." := fun h => by
    simpa [toList_star] using congrArg String.toList h
  simp [isName, hne, hdot, hslash]

theorem star_ne (hstar : suffix.toList.head? ≠ some '*') : "*" ++ suffix ≠ "**" := fun h => by
  have hchars := congrArg String.toList h
  rw [toList_star] at hchars
  exact hstar (by rw [(List.cons.inj hchars).2]; rfl)

/-- Two stars stand side by side after a star where they do so in the suffix, if it does not start
with one. -/
theorem misstarred_star_iff (hstar : suffix.toList.head? ≠ some '*') :
    Misstarred ("*" ++ suffix) ↔ ['*', '*'] <:+: suffix.toList := by
  rw [Misstarred, toList_star, List.infix_cons_iff]
  have hstart : ¬ ['*', '*'] <+: '*' :: suffix.toList := fun h => by
    obtain ⟨rest, hrest⟩ := (List.cons_prefix_cons.mp h).2
    exact hstar (by rw [← hrest]; rfl)
  exact ⟨fun h => h.2.resolve_left hstart, fun h => ⟨star_ne hstar, Or.inr h⟩⟩

/-- A star before a suffix cannot be read where two stars stand side by side in the suffix. -/
theorem unreadable_star_iff (hstar : suffix.toList.head? ≠ some '*') (hslash : '/' ∉ suffix.toList)
    {fault : Fault} :
    Unreadable ("*" ++ suffix) fault ↔ ['*', '*'] <:+: suffix.toList ∧ fault = .badPattern := by
  rw [← misstarred_star_iff hstar]
  exact unreadable_of_name ⟨_, isName_star hslash⟩

theorem stepsOf_star (hstar : suffix.toList.head? ≠ some '*') (hslash : '/' ∉ suffix.toList) :
    stepsOf ("*" ++ suffix) = [.matching ('*' :: suffix.toList)] := by
  let name : Name := ⟨"*" ++ suffix, isName_star hslash⟩
  have hlast : ("*" ++ suffix).toList.getLast? ≠ some '/' := fun h =>
    name.slash_not_mem (List.mem_of_getLast? h)
  have hnames : Path.namesOf ("*" ++ suffix).toList = [name] := namesOf_name name
  rw [stepsOf, hnames, if_neg hlast]
  simp [stepOf, name, star_ne hstar, isPattern]

/-- A star before a plain text without slashes stands for the matching names. -/
theorem ofText_star (hplain : IsPlain suffix.toList) (hslash : '/' ∉ suffix.toList) :
    ofText ("*" ++ suffix) = .ok [.matching ('*' :: suffix.toList)] := by
  have hstar : '*' ∉ suffix.toList := fun h => (hplain _ h).1 rfl
  have hhead : suffix.toList.head? ≠ some '*' := fun h => hstar (List.mem_of_head? h)
  have hread : ∀ fault, ¬ Unreadable ("*" ++ suffix) fault := fun fault h => by
    have hstars := ((unreadable_star_iff hhead hslash).mp h).1
    exact hstar (hstars.subset List.mem_cons_self)
  rw [ofText_eq_ok hread, stepsOf_star hhead hslash]

end Star

end SearchStep

end LintFixture
