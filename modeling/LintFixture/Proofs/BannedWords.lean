import LintFixture.Proofs.Letters
import LintFixture.Proofs.Linting

/-!
# Banned words

A word occurs at a column of a line where it is written there, cases aside, between word
boundaries (`Occurs`). A search goes through a line column by column, and either takes a word that
it notices and goes on behind it, or passes (`Scanned`). By induction on that, what is found are
occurrences, they do not overlap, and each occurrence of a word that is looked for meets one that
is found: it is either found itself or begins before the end of one.

* `check_bannedWords`: the rule reports the banned words of a source, all that can be seen. Unseen
  are, of words that differ in their last letter alone, those that end in a capital beyond the
  basic plane.
* `check_bannedWords_alone`: a word that stands alone is reported if it starts and ends with word
  characters, for there is no boundary between a sign and a blank.
-/

namespace LintFixture.Rule

/-! ## Words in a line -/

/-- A line has a word boundary before a column. -/
def BoundaryAt (cs : List Char) (column : Nat) : Prop :=
  Text.isBoundary (cs.take column).getLast? (cs.drop column).head? = true

instance (cs : List Char) (column : Nat) : Decidable (BoundaryAt cs column) :=
  inferInstanceAs (Decidable (_ = true))

/-- A word stands at a column of a line, cases aside, between word boundaries. -/
structure Occurs (word cs : List Char) (column : Nat) : Prop where
  spells : List.Forall₂ (fun w c => sameLetter w c = true) word ((cs.drop column).take word.length)
  opens : BoundaryAt cs column
  closes : BoundaryAt cs (column + word.length)

/-- A word that is never found: its last letter, among several ones, stands for nothing. -/
def Unseen (words : List (List Char)) (word : List Char) : Prop :=
  differInLast words = true ∧ ∃ w ∈ word.getLast?, IsBeyondCapital w

/-- A word that is looked for stands at a column of a line, and is found there. -/
structure Noticed (words : List (List Char)) (cs : List Char) (column : Nat) (word : List Char) :
    Prop where
  mem : word ∈ words
  occurs : Occurs word cs column
  seen : ¬ Unseen words word

section Matching

variable {words : List (List Char)} {cs word : List Char} {column n : Nat}

/-- What follows a word at the start of a text, where last letters are compared like others under
a condition on the word. -/
theorem afterWord?_eq_some_iff {ends : Char → Char → Bool} {seen : Char → Prop}
    (hends : ∀ w c, ends w c = true ↔ sameLetter w c = true ∧ seen w) :
    ∀ {word text rest : List Char} {last before : Option Char},
      afterWord? ends word text before = some (last, rest) ↔
        ∃ span, text = span ++ rest ∧
          List.Forall₂ (fun w c => sameLetter w c = true) word span ∧
          (∀ w ∈ word.getLast?, seen w) ∧ last = span.getLast?.or before
  | [], text, rest, last, before => by
    rw [afterWord?]
    constructor
    · rintro ⟨⟩
      exact ⟨[], rfl, .nil, nofun, rfl⟩
    · rintro ⟨span, rfl, hspells, -, rfl⟩
      cases hspells
      rfl
  | w :: word, [], rest, last, before => by
    rw [afterWord?]
    refine iff_of_false nofun ?_
    rintro ⟨span, htext, hspells, -, -⟩
    obtain ⟨rfl, -⟩ := List.append_eq_nil_iff.mp htext.symm
    cases hspells
  | [w], c :: text, rest, last, before => by
    simp only [afterWord?, List.isEmpty_nil, if_true]
    constructor
    · intro h
      split at h
      · rename_i hc
        cases h
        exact ⟨[c], rfl, .cons ((hends w c).mp hc).1 .nil, by simp [((hends w c).mp hc).2], rfl⟩
      · cases h
    · rintro ⟨_, htext, hspells, hseen, rfl⟩
      obtain _ | ⟨hc, hnil⟩ := hspells
      cases hnil
      obtain ⟨rfl, rfl⟩ := List.cons.inj htext
      rw [if_pos ((hends w c).mpr ⟨hc, hseen w rfl⟩)]
      rfl
  | w :: v :: word, c :: text, rest, last, before => by
    simp only [afterWord?, List.isEmpty_cons, Bool.false_eq_true, if_false]
    constructor
    · intro h
      split at h
      · rename_i hc
        obtain ⟨span, rfl, hspells, hseen, rfl⟩ := (afterWord?_eq_some_iff hends).mp h
        exact ⟨c :: span, rfl, .cons hc hspells, by simpa using hseen, by simp [List.getLast?_cons]⟩
      · cases h
    · rintro ⟨_, htext, hspells, hseen, rfl⟩
      obtain _ | ⟨hc, hspells⟩ := hspells
      obtain ⟨rfl, rfl⟩ := List.cons.inj htext
      rw [if_pos hc]
      exact (afterWord?_eq_some_iff hends).mpr
        ⟨_, rfl, hspells, by simpa using hseen, by simp [List.getLast?_cons]⟩

theorem ends_iff (words : List (List Char)) (w c : Char) :
    (if differInLast words then sameLastLetter else sameLetter) w c = true ↔
      sameLetter w c = true ∧ ¬ (differInLast words = true ∧ IsBeyondCapital w) := by
  split
  · rename_i h
    simp [sameLastLetter_iff, h]
  · rename_i h
    simp [h]

/-- A word is found at a boundary where it stands there up to another one. -/
theorem afterWord?_closes_iff (hopens : BoundaryAt cs column) :
    (∃ last rest, afterWord? (if differInLast words then sameLastLetter else sameLetter) word
        (cs.drop column) (cs.take column).getLast? = some (last, rest) ∧
      Text.isBoundary last rest.head? = true) ↔ Occurs word cs column ∧ ¬ Unseen words word := by
  simp only [afterWord?_eq_some_iff (ends_iff words)]
  constructor
  · rintro ⟨last, rest, ⟨span, htext, hspells, hseen, rfl⟩, hcloses⟩
    have hlength := hspells.length_eq
    refine ⟨⟨?_, hopens, ?_⟩, ?_⟩
    · rwa [htext, hlength, List.take_left]
    · rw [BoundaryAt, List.take_add, List.getLast?_append, ← List.drop_drop, htext, hlength,
        List.take_left, List.drop_left]
      exact hcloses
    · rintro ⟨hlast, w, hw, hbeyond⟩
      exact hseen w hw ⟨hlast, hbeyond⟩
  · rintro ⟨⟨hspells, -, hcloses⟩, hseen⟩
    refine ⟨_, _, ⟨_, (List.take_append_drop word.length _).symm, hspells, ?_, rfl⟩, ?_⟩
    · exact fun w hw h => hseen ⟨h.1, w, hw, h.2⟩
    · rw [BoundaryAt, List.take_add, List.getLast?_append, ← List.drop_drop] at hcloses
      exact hcloses

/-- **A word is found at a column** where one of the words is noticed there. -/
theorem wordAt?_of_eq_some
    (h : wordAt? words (cs.take column).getLast? (cs.drop column) = some n) :
    ∃ word, Noticed words cs column word ∧ word.length = n := by
  unfold wordAt? at h
  dsimp only at h
  split at h
  · rename_i hopens
    obtain ⟨word, hmem, hword⟩ := List.exists_of_findSome?_eq_some h
    split at hword
    · rename_i last rest hafter
      split at hword
      · rename_i hcloses
        cases hword
        obtain ⟨hoccurs, hseen⟩ := (afterWord?_closes_iff hopens).mp ⟨last, rest, hafter, hcloses⟩
        exact ⟨word, ⟨hmem, hoccurs, hseen⟩, rfl⟩
      · cases hword
    · cases hword
  · cases h

theorem not_noticed_of_wordAt?
    (h : wordAt? words (cs.take column).getLast? (cs.drop column) = none) :
    ¬ Noticed words cs column word := by
  rintro ⟨hmem, hoccurs, hseen⟩
  have hopens : Text.isBoundary (cs.take column).getLast? (cs.drop column).head? = true :=
    hoccurs.opens
  obtain ⟨last, rest, hafter, hcloses⟩ := (afterWord?_closes_iff hopens).mpr ⟨hoccurs, hseen⟩
  unfold wordAt? at h
  rw [if_pos hopens, List.findSome?_eq_none_iff] at h
  have hnone := h word hmem
  simp only [hafter, hcloses, if_true, reduceCtorEq] at hnone

end Matching

/-! ## The search through a line -/

/-- What a search of a line finds from a column on: an occurrence of a word that is noticed there,
after which it goes on, or nothing at this column. -/
inductive Scanned (words : List (List Char)) (cs : List Char) :
    Nat → List (Nat × List Char) → Prop
  | done {column : Nat} : cs.length ≤ column → Scanned words cs column []
  | found {column : Nat} {word : List Char} {rest : List (Nat × List Char)} :
    Noticed words cs column word → Scanned words cs (column + word.length) rest →
    Scanned words cs column ((column, (cs.drop column).take word.length) :: rest)
  | pass {column : Nat} {rest : List (Nat × List Char)} :
    (∀ word, ¬ Noticed words cs column word) → Scanned words cs (column + 1) rest →
    Scanned words cs column rest

section Scanning

variable {words : List (List Char)} {cs word : List Char} {column i : Nat}
  {found : List (Nat × List Char)}

/-- The search goes through a line in this way. -/
theorem scanned_occurrencesFrom (hne : [] ∉ words) : ∀ (text : List Char) (column skip : Nat),
    cs.drop column = text →
      Scanned words cs (column + skip)
        (occurrencesFrom words column skip (cs.take column).getLast? text)
  | [], column, skip, htext => by
    rw [occurrencesFrom]
    have hend := List.drop_eq_nil_iff.mp htext
    exact .done (by omega)
  | c :: text, column, skip, htext => by
    have hrest : cs.drop (column + 1) = text := by
      rw [← List.drop_drop, htext]
      rfl
    have hbefore : (cs.take (column + 1)).getLast? = some c := by
      rw [List.take_add, List.getLast?_append, htext]
      rfl
    have ih := fun skip => hbefore ▸ scanned_occurrencesFrom hne text (column + 1) skip hrest
    cases skip with
    | succ skip =>
      rw [occurrencesFrom]
      have hgo := ih skip
      rwa [Nat.add_right_comm, Nat.add_assoc] at hgo
    | zero =>
      rw [occurrencesFrom]
      split
      · rename_i n hword
        rw [← htext] at hword
        obtain ⟨word, hnoticed, rfl⟩ := wordAt?_of_eq_some hword
        have hpos : 0 < word.length :=
          List.length_pos_iff.mpr fun hnil => hne (hnil ▸ hnoticed.mem)
        rw [← htext]
        refine .found hnoticed ?_
        have hgo := ih (word.length - 1)
        rwa [show column + 1 + (word.length - 1) = column + word.length by omega] at hgo
      · rename_i hword
        rw [← htext] at hword
        exact .pass (fun word => not_noticed_of_wordAt? hword) (ih 0)

theorem Occurs.length_eq (h : Occurs word cs column) :
    ((cs.drop column).take word.length).length = word.length :=
  h.spells.length_eq.symm

theorem Occurs.add_le (h : Occurs word cs column) (hne : word ≠ []) :
    column + word.length ≤ cs.length := by
  have hlength := h.length_eq
  have hpos := List.length_pos_iff.mpr hne
  rw [List.length_take, List.length_drop] at hlength
  omega

/-- What is found is an occurrence of a word, at its column and as it is written there. -/
theorem Scanned.noticed (h : Scanned words cs column found) : ∀ p ∈ found, column ≤ p.1 ∧
    ∃ word, Noticed words cs p.1 word ∧ p.2 = (cs.drop p.1).take word.length := by
  induction h with
  | done => exact nofun
  | found hnoticed _ ih =>
    refine List.forall_mem_cons.mpr ⟨⟨Nat.le_refl _, _, hnoticed, rfl⟩, fun p hp => ?_⟩
    obtain ⟨hcolumn, hword⟩ := ih p hp
    exact ⟨by omega, hword⟩
  | pass _ _ ih =>
    intro p hp
    obtain ⟨hcolumn, hword⟩ := ih p hp
    exact ⟨by omega, hword⟩

/-- What is found comes from left to right, one occurrence after the end of the other. -/
theorem Scanned.pairwise (h : Scanned words cs column found) :
    found.Pairwise fun p q => p.1 + p.2.length ≤ q.1 := by
  induction h with
  | done => exact .nil
  | found hnoticed hrest ih =>
    refine .cons (fun q hq => ?_) ih
    rw [hnoticed.occurs.length_eq]
    exact (hrest.noticed q hq).1
  | pass _ _ ih => exact ih

/-- Every occurrence of a word that is looked for meets one that is found. -/
theorem Scanned.meets (h : Scanned words cs column found) (hne : [] ∉ words)
    (hnoticed : Noticed words cs i word) (hcolumn : column ≤ i) :
    ∃ p ∈ found, p.1 < i + word.length ∧ i < p.1 + p.2.length := by
  have hword : word ≠ [] := fun hnil => hne (hnil ▸ hnoticed.mem)
  have hpos := List.length_pos_iff.mpr hword
  induction h with
  | done hend =>
    have := hnoticed.occurs.add_le hword
    omega
  | @found column word' rest hfirst _ ih =>
    by_cases hover : i < column + word'.length
    · refine ⟨_, List.mem_cons_self, by dsimp only; omega, ?_⟩
      rwa [hfirst.occurs.length_eq]
    · obtain ⟨p, hp, hmeets⟩ := ih (Nat.le_of_not_lt hover)
      exact ⟨p, List.mem_cons_of_mem _ hp, hmeets⟩
  | @pass column rest hnone _ ih =>
    refine ih (Nat.lt_of_le_of_ne hcolumn fun heq => ?_)
    subst heq
    exact hnone word hnoticed

end Scanning

/-! ## Reports -/

/-- A text that the options ban: one of them is written in this way, and it is not blank. -/
def Banned (options : List Value) (word : List Char) : Prop :=
  (∃ v ∈ options, v.display.toList = word) ∧ ∃ c ∈ word, Text.isBlank c = false

theorem mem_bannedWords_iff {options : List Value} {word : List Char} :
    word ∈ bannedWords options ↔ Banned options word := by
  simp [bannedWords, Banned, List.mem_eraseDups, List.mem_mergeSort]

theorem Banned.ne_nil {options : List Value} {word : List Char} (h : Banned options word) :
    word ≠ [] := by
  rintro rfl
  obtain ⟨-, c, hc, -⟩ := h
  cases hc

theorem nil_not_mem_bannedWords {options : List Value} : [] ∉ bannedWords options :=
  fun h => (mem_bannedWords_iff.mp h).ne_nil rfl

/-- A diagnostic marks a part of a span of its line. -/
def Meets (d : Diagnostic) (column width : Nat) : Prop :=
  ∃ w, d.width = some w ∧ d.column < column + width ∧ column < d.column + w

/-- What the rule reports on a source for its options. -/
structure Reported (options : List Value) (name source : String) (ds : List Diagnostic) :
    Prop where
  /-- A diagnostic marks a banned word in its line, and its message quotes what stands there, -/
  sound : ∀ d ∈ ds, ∃ (line column : Nat) (text : String) (word : List Char),
    (Text.splitLines source)[line]? = some text ∧ Banned options word ∧
    ¬ Unseen (bannedWords options) word ∧ Occurs word text.toList column ∧ 0 < word.length ∧
    d = ⟨line, column, some (word.length : Int),
      "'" ++ String.ofList ((text.toList.drop column).take word.length) ++ "' is banned",
      some name⟩
  /-- diagnostics come line after line, and those of a line from left to right without overlap, -/
  ordered : ds.Pairwise fun a b => a.line < b.line ∨
    a.line = b.line ∧ ∃ width, a.width = some width ∧ a.column + width ≤ b.column
  /-- every banned word that is not unseen meets a diagnostic of its line, -/
  complete : ∀ (line : Nat) text word column, (Text.splitLines source)[line]? = some text →
    Banned options word → ¬ Unseen (bannedWords options) word →
    Occurs word text.toList column → ∃ d ∈ ds, d.line = line ∧ Meets d column word.length
  /-- and a line without diagnostics has none. -/
  clean : ∀ (line : Nat) text, (Text.splitLines source)[line]? = some text →
    (∀ d ∈ ds, d.line ≠ line) → ∀ word column, Banned options word →
      ¬ Unseen (bannedWords options) word → ¬ Occurs word text.toList column

section Rule

variable {options : List Value} {name source : String}

/-- The words that the search of a line finds. -/
theorem scanned_findBanned (options : List Value) (cs : List Char) :
    ∃ found, Scanned (bannedWords options) cs 0 found ∧
      findBanned (bannedWords options) cs = found.map fun p =>
        ⟨p.1, p.2.length, "'" ++ String.ofList p.2 ++ "' is banned"⟩ :=
  ⟨_, scanned_occurrencesFrom nil_not_mem_bannedWords cs 0 0 rfl, rfl⟩

/-- A finding is the mark of a banned word, with what stands there in its message. -/
theorem occurs_of_mem_findBanned {cs : List Char} {f : Finding}
    (h : f ∈ findBanned (bannedWords options) cs) :
    ∃ word, Noticed (bannedWords options) cs f.column word ∧ f.width = word.length ∧
      f.message =
        "'" ++ String.ofList ((cs.drop f.column).take word.length) ++ "' is banned" := by
  obtain ⟨found, hscanned, hfound⟩ := scanned_findBanned options cs
  rw [hfound] at h
  obtain ⟨p, hp, rfl⟩ := List.mem_map.mp h
  obtain ⟨-, word, hnoticed, hspan⟩ := hscanned.noticed p hp
  refine ⟨word, hnoticed, ?_, by rw [hspan]⟩
  dsimp only
  rw [hspan, hnoticed.occurs.length_eq]

/-- A banned word that is seen meets a diagnostic of its line. -/
theorem exists_meets (name : String) {word : List Char} {line column : Nat} {text : String}
    (htext : (Text.splitLines source)[line]? = some text) (hbanned : Banned options word)
    (hseen : ¬ Unseen (bannedWords options) word) (hoccurs : Occurs word text.toList column) :
    ∃ d ∈ diagnosticsOf name source (findBanned (bannedWords options)),
      d.line = line ∧ Meets d column word.length := by
  obtain ⟨found, hscanned, hfound⟩ := scanned_findBanned options text.toList
  obtain ⟨p, hp, hleft, hright⟩ := hscanned.meets nil_not_mem_bannedWords
    ⟨mem_bannedWords_iff.mpr hbanned, hoccurs, hseen⟩ (Nat.zero_le column)
  have hfinding := hfound ▸ List.mem_map_of_mem hp
  exact ⟨⟨line, p.1, some p.2.length, _, some name⟩,
    mem_diagnosticsOf_iff.mpr ⟨text, line, htext, _, hfinding, rfl⟩, rfl, _, rfl,
    Int.ofNat_lt.mpr hleft, Int.ofNat_lt.mpr hright⟩

theorem reported_diagnosticsOf (options : List Value) (name source : String) :
    Reported options name source
      (diagnosticsOf name source (findBanned (bannedWords options))) where
  sound d hd := by
    obtain ⟨text, line, htext, f, hf, rfl⟩ := mem_diagnosticsOf_iff.mp hd
    obtain ⟨word, ⟨hmem, hoccurs, hseen⟩, hwidth, hmessage⟩ := occurs_of_mem_findBanned hf
    have hbanned := mem_bannedWords_iff.mp hmem
    exact ⟨line, f.column, text, word, htext, hbanned, hseen, hoccurs,
      List.length_pos_iff.mpr hbanned.ne_nil, by rw [hwidth, hmessage]⟩
  ordered := by
    refine pairwise_diagnosticsOf fun line cs => ?_
    obtain ⟨found, hscanned, hfound⟩ := scanned_findBanned options cs
    rw [hfound, List.map_map, List.pairwise_map]
    exact hscanned.pairwise.imp fun h => ⟨_, rfl, Int.ofNat_le.mpr h⟩
  complete line text word column htext hbanned hseen hoccurs :=
    exists_meets name htext hbanned hseen hoccurs
  clean line text htext hnone word column hbanned hseen hoccurs := by
    obtain ⟨d, hd, hline, -⟩ := exists_meets name htext hbanned hseen hoccurs
    exact hnone d hd hline

/-- **The rule reports the banned words of a source**, all of them between word boundaries and
regardless of case, unless there is an option that cannot be written. Of words that differ in
their last letter alone, those that end in a capital beyond the basic plane are not seen. -/
theorem check_bannedWords (options : List Value) (name source : String) :
    if Value.areWritable options then
      ∃ ds, bannedWordsRule.check options name source = .ok ds ∧ Reported options name source ds
    else bannedWordsRule.check options name source = .error .unwritable := by
  split
  · rename_i hwritable
    exact ⟨_, if_pos hwritable, reported_diagnosticsOf options name source⟩
  · rename_i hwritable
    exact if_neg hwritable

set_option maxRecDepth 4000 in
theorem check_beyond :
    bannedWordsRule.check [.text "𐐀", .text "𐐁"] "banned-words" "𐐀" = .ok [] := by
  cbv

/-- Two capitals beyond the basic plane as words, and a line of one of them: nothing is found. -/
theorem not_complete_beyond : ¬ ∀ (options : List Value) (name source : String)
    (ds : List Diagnostic), bannedWordsRule.check options name source = .ok ds →
      ∀ (line : Nat) text word column, (Text.splitLines source)[line]? = some text →
        Banned options word → Occurs word text.toList column →
          ∃ d ∈ ds, d.line = line ∧ Meets d column word.length := by
  intro h
  have hbanned : Banned [.text "𐐀", .text "𐐁"] ['𐐀'] :=
    ⟨⟨_, List.mem_cons_self, rfl⟩, '𐐀', List.mem_cons_self, by decide +kernel⟩
  have hoccurs : Occurs ['𐐀'] "𐐀".toList 0 :=
    ⟨.cons (by decide +kernel) .nil, by decide +kernel, by decide +kernel⟩
  obtain ⟨d, hd, -⟩ := h _ _ _ _ check_beyond 0 "𐐀" ['𐐀'] 0 (by decide +kernel) hbanned hoccurs
  cases hd

end Rule

/-! ## Words that stand alone -/

/-- A word stands alone at a column of a line: it is written there, and what is next to it on
either side is blank or an end of the line. -/
structure StandsAlone (word cs : List Char) (column : Nat) : Prop where
  written : (cs.drop column).take word.length = word
  before : (cs.take column).getLast?.all Text.isBlank = true
  after : (cs.drop (column + word.length)).head?.all Text.isBlank = true

/-- The first and the last character of a word are word characters. -/
def WordEnds (word : List Char) : Prop :=
  word.head?.any Text.isWord = true ∧ word.getLast?.any Text.isWord = true

section Alone

variable {word cs : List Char} {column : Nat}

theorem any_isWord_of_blank {c? : Option Char} (h : c?.all Text.isBlank = true) :
    c?.any Text.isWord = false := by
  cases c? with
  | none => rfl
  | some c => exact Text.isWord_of_isBlank h

theorem StandsAlone.opens_iff (h : StandsAlone word cs column) (hne : word ≠ []) :
    BoundaryAt cs column ↔ word.head?.any Text.isWord = true := by
  have hhead : (cs.drop column).head? = word.head? := by
    rw [← h.written, List.head?_take, if_neg (by simpa using hne)]
  rw [BoundaryAt, Text.isBoundary, any_isWord_of_blank h.before, hhead]
  simp

theorem StandsAlone.closes_iff (h : StandsAlone word cs column) (hne : word ≠ []) :
    BoundaryAt cs (column + word.length) ↔ word.getLast?.any Text.isWord = true := by
  have hlast : (cs.take (column + word.length)).getLast? = word.getLast? := by
    rw [List.take_add, h.written, List.getLast?_append]
    obtain ⟨c, hc⟩ := Option.ne_none_iff_exists'.mp (mt List.getLast?_eq_none_iff.mp hne)
    rw [hc]
    rfl
  rw [BoundaryAt, Text.isBoundary, any_isWord_of_blank h.after, hlast]
  simp

/-- A word that stands alone is an occurrence where its ends are word characters. -/
theorem StandsAlone.occurs_iff (h : StandsAlone word cs column) (hne : word ≠ []) :
    Occurs word cs column ↔ WordEnds word := by
  have hspells : List.Forall₂ (fun w c => sameLetter w c = true) word
      ((cs.drop column).take word.length) := by
    rw [h.written]
    exact List.forall₂_same.mpr fun c _ => beq_self_eq_true _
  rw [WordEnds, ← h.opens_iff hne, ← h.closes_iff hne]
  exact ⟨fun hoccurs => ⟨hoccurs.opens, hoccurs.closes⟩, fun hends => ⟨hspells, hends.1, hends.2⟩⟩

end Alone

section Rule

variable {options : List Value} {name source s text : String} {line column : Nat}

/-- **A banned word that stands alone** is reported if it starts and ends with word characters and
is not unseen; otherwise no diagnostic marks it as such. -/
theorem check_bannedWords_alone (name : String) (hmem : .text s ∈ options) (hne : s ≠ "")
    (hblank : s.toList.any Text.isBlank = false)
    (htext : (Text.splitLines source)[line]? = some text)
    (halone : StandsAlone s.toList text.toList column) :
    if Value.areWritable options then
      ∃ ds, bannedWordsRule.check options name source = .ok ds ∧
        (WordEnds s.toList ∧ ¬ Unseen (bannedWords options) s.toList →
          ∃ d ∈ ds, d.line = line ∧ Meets d column s.toList.length) ∧
        (¬ WordEnds s.toList → ∀ d ∈ ds, d.line = line → d.column = column →
          d.width ≠ some s.toList.length)
    else bannedWordsRule.check options name source = .error .unwritable := by
  have hchars : s.toList ≠ [] := fun h => hne (String.toList_eq_nil_iff.mp h)
  have hbanned : Banned options s.toList := by
    obtain ⟨c, cs, hs⟩ := List.exists_cons_of_ne_nil hchars
    have hc : c ∈ s.toList := hs ▸ List.mem_cons_self
    exact ⟨⟨_, hmem, rfl⟩, c, hc, by simpa using List.any_eq_false.mp hblank c hc⟩
  have hreport := reported_diagnosticsOf options name source
  split
  · rename_i hwritable
    refine ⟨_, if_pos hwritable, ?_, ?_⟩
    · rintro ⟨hends, hseen⟩
      exact hreport.complete line text _ column htext hbanned hseen
        ((halone.occurs_iff hchars).mpr hends)
    · intro hends d hd hline hcolumn hwidth
      obtain ⟨line', column', text', word, htext', -, -, hoccurs, -, rfl⟩ := hreport.sound d hd
      obtain rfl := Int.ofNat.inj hline
      obtain rfl := Int.ofNat.inj hcolumn
      obtain rfl := Option.some.inj (htext.symm.trans htext')
      have hlength := Int.ofNat.inj (Option.some.inj hwidth)
      exact hends ⟨(halone.opens_iff hchars).mp hoccurs.opens,
        (halone.closes_iff hchars).mp (hlength ▸ hoccurs.closes)⟩
  · rename_i hwritable
    exact if_neg hwritable

/-- A word between letters at both of its ends, after a blank and at the end of its line. -/
theorem check_bannedWords_alone_spam :
    Value.text "spam" ∈ [Value.text "spam"] ∧ "spam" ≠ "" ∧
      "spam".toList.any Text.isBlank = false ∧
      (Text.splitLines "no spam")[0]? = some "no spam" ∧
      StandsAlone "spam".toList "no spam".toList 3 ∧
      ∃ ds, bannedWordsRule.check [.text "spam"] "banned-words" "no spam" = .ok ds ∧
        ∃ d ∈ ds, d.line = 0 ∧ Meets d 3 4 := by
  have hmem : Value.text "spam" ∈ [Value.text "spam"] := List.mem_singleton_self _
  have hblank : "spam".toList.any Text.isBlank = false := by decide +kernel
  have htext : (Text.splitLines "no spam")[0]? = some "no spam" := by decide +kernel
  have halone : StandsAlone "spam".toList "no spam".toList 3 :=
    ⟨by decide, by decide +kernel, by decide +kernel⟩
  have hends : WordEnds "spam".toList := ⟨by decide +kernel, by decide +kernel⟩
  have hseen : ¬ Unseen (bannedWords [.text "spam"]) "spam".toList := fun h => by
    have hwords : differInLast (bannedWords [.text "spam"]) = false := by cbv
    cases hwords.symm.trans h.1
  obtain ⟨ds, hcheck, hmeets, -⟩ :=
    check_bannedWords_alone "banned-words" hmem (by decide) hblank htext halone
  exact ⟨hmem, by decide, hblank, htext, halone, ds, hcheck, hmeets ⟨hends, hseen⟩⟩

/-- A word that ends in signs, on a line of its own: it is not found. -/
theorem not_check_bannedWords_signs : ¬ ∀ (options : List Value) (name source s text : String)
    (line column : Nat), .text s ∈ options → s ≠ "" → s.toList.any Text.isBlank = false →
      (Text.splitLines source)[line]? = some text → StandsAlone s.toList text.toList column →
        ∃ ds, bannedWordsRule.check options name source = .ok ds ∧
          ∃ d ∈ ds, d.line = line ∧ Meets d column s.toList.length := by
  intro h
  have hcheck : bannedWordsRule.check [.text "c++"] "banned-words" "c++" = .ok [] := by cbv
  obtain ⟨ds, hds, d, hd, -⟩ := h [.text "c++"] "banned-words" "c++" "c++" "c++" 0 0
    (List.mem_singleton_self _) (by decide) (by decide +kernel) (by decide +kernel)
    ⟨by decide, by decide +kernel, by decide +kernel⟩
  cases hcheck.symm.trans hds
  cases hd

end Rule

end LintFixture.Rule
