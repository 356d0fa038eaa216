import LintFixture.Proofs.Marks
import LintFixture.Proofs.Reading
import Mathlib.Data.Finset.Card

/-!
# Sessions of a parser

A parser may be called in any order, and may be called again after a call that failed. What it
knows then are the lines that it accepted, with their numbers among all lines that it was given:
`run_after` says so, by one step for each line (`Parser.feed_after`) and an induction over the
lines of a call and over the calls. Everything else is a fact about rows that are readable and
whose numbers rise, which the accepted lines are.

Headline: `run_sound`, what holds of a parser after every sequence of calls.
-/

namespace LintFixture

/-! ## Calls -/

/-- A call of a parser. -/
inductive ParserCall
  | feed (text : String)
  | feedAll (lines : List String)
  | finish
  deriving DecidableEq, Repr

/-- The lines that a call gives to the parser. -/
def ParserCall.lines : ParserCall → List String
  | feed text => [text]
  | feedAll lines => lines
  | finish => []

/-- A line that is given to a parser, and what the parser has against it. -/
structure Attempt where
  text : String
  error : Option FixtureError
  deriving DecidableEq, Repr

namespace Parser

/-- What a call comes to, and the state after it. -/
def call (p : Parser) : ParserCall → Except FixtureError (Option Fixture) × Parser
  | .feed text => ((p.feed text).1.map fun () => none, (p.feed text).2)
  | .feedAll lines => ((p.feedAll lines).1.map fun () => none, (p.feedAll lines).2)
  | .finish => (p.finish.map some, p)

/-- The state after calls, whatever they come to. -/
def run (p : Parser) (calls : List ParserCall) : Parser :=
  calls.foldl (fun p c => (p.call c).2) p

/-- The lines that are attempted of those that are given in one call: all up to the first one at
fault. -/
def attempts (p : Parser) : List String → List Attempt
  | [] => []
  | text :: rest =>
    match p.feed text with
    | (.ok (), next) => ⟨text, none⟩ :: next.attempts rest
    | (.error e, _) => [⟨text, some e⟩]

/-- The lines that are attempted in calls, in their order. -/
def history (p : Parser) : List ParserCall → List Attempt
  | [] => []
  | c :: rest => p.attempts c.lines ++ (p.call c).2.history rest

/-- Every call that gives lines gives them one after the other. -/
theorem call_eq_feedAll (p : Parser) (c : ParserCall) : (p.call c).2 = (p.feedAll c.lines).2 := by
  cases c with
  | feed text =>
    rw [call, ParserCall.lines, feedAll]
    split <;> simp_all [feedAll]
  | feedAll lines => rfl
  | finish => rfl

theorem run_append (p : Parser) (calls more : List ParserCall) :
    p.run (calls ++ more) = (p.run calls).run more :=
  List.foldl_append

end Parser

/-! ## Accepted lines -/

/-- The attempts without error as rows; the first attempt has the number after `n`. -/
def accepted (n : Nat) : List Attempt → List Row
  | [] => []
  | ⟨text, none⟩ :: rest => ⟨n + 1, text⟩ :: accepted (n + 1) rest
  | ⟨_, some _⟩ :: rest => accepted (n + 1) rest

theorem accepted_append : ∀ (n : Nat) (as bs : List Attempt),
    accepted n (as ++ bs) = accepted n as ++ accepted (n + as.length) bs
  | _, [], _ => rfl
  | n, ⟨text, none⟩ :: rest, bs => by
    rw [List.cons_append, accepted, accepted, accepted_append (n + 1) rest, List.length_cons,
      List.cons_append, Nat.add_right_comm, Nat.add_assoc]
  | n, ⟨text, some e⟩ :: rest, bs => by
    rw [List.cons_append, accepted, accepted, accepted_append (n + 1) rest, List.length_cons,
      Nat.add_right_comm, Nat.add_assoc]

theorem mem_accepted : ∀ {n : Nat} {as : List Attempt} {row : Row},
    row ∈ accepted n as ↔ ∃ i text, as[i]? = some ⟨text, none⟩ ∧ row = ⟨n + i + 1, text⟩
  | n, [], row => by simp [accepted]
  | n, a :: rest, row => by
    have hlater : row ∈ accepted (n + 1) rest ↔
        ∃ i text, rest[i]? = some ⟨text, none⟩ ∧ row = ⟨n + (i + 1) + 1, text⟩ := by
      simp only [mem_accepted, Nat.add_right_comm n 1, Nat.add_assoc n _ 1]
    constructor
    · intro h
      obtain ⟨text, _ | e⟩ := a
      · rcases List.mem_cons.mp h with rfl | h
        · exact ⟨0, text, rfl, rfl⟩
        · obtain ⟨i, t, hi, rfl⟩ := hlater.mp h
          exact ⟨i + 1, t, hi, rfl⟩
      · obtain ⟨i, t, hi, rfl⟩ := hlater.mp h
        exact ⟨i + 1, t, hi, rfl⟩
    · rintro ⟨_ | i, text, hi, rfl⟩
      · cases hi
        exact List.mem_cons_self
      · have hmem := hlater.mpr ⟨i, text, hi, rfl⟩
        obtain ⟨text, _ | e⟩ := a
        · exact List.mem_cons_of_mem _ hmem
        · exact hmem

/-- The numbers of accepted lines are those of attempts. -/
theorem number_of_mem_accepted {n : Nat} {as : List Attempt} {row : Row}
    (h : row ∈ accepted n as) : n < row.number ∧ row.number ≤ n + as.length := by
  obtain ⟨i, text, hi, rfl⟩ := mem_accepted.mp h
  have hlt := (List.getElem?_eq_some_iff.mp hi).1
  dsimp only
  omega

theorem accepted_rises : ∀ (n : Nat) (as : List Attempt),
    (accepted n as).Pairwise fun a b => a.number < b.number
  | _, [] => .nil
  | n, ⟨_, none⟩ :: rest =>
    .cons (fun _ h => (number_of_mem_accepted h).1) (accepted_rises (n + 1) rest)
  | n, ⟨_, some _⟩ :: rest => accepted_rises (n + 1) rest

/-- Every attempt is accepted or fails. -/
theorem length_accepted : ∀ (n : Nat) (as : List Attempt),
    (accepted n as).length + (as.filter (·.error.isSome)).length = as.length
  | _, [] => rfl
  | n, ⟨text, none⟩ :: rest => by
    have ih := length_accepted (n + 1) rest
    rw [accepted, List.filter_cons_of_neg (by simp), List.length_cons, List.length_cons]
    omega
  | n, ⟨_, some _⟩ :: rest => by
    have ih := length_accepted (n + 1) rest
    rw [accepted, List.filter_cons_of_pos rfl, List.length_cons, List.length_cons]
    omega

namespace Parser

/-- The lines of one call: those that are accepted are read, and all that are attempted count. -/
theorem feedAll_after : ∀ (lines : List String) {rows : List Row} {n : Nat}, Readable rows →
    ((after rows n).feedAll lines).2 =
        after (rows ++ accepted n ((after rows n).attempts lines))
          (n + ((after rows n).attempts lines).length) ∧
      Readable (rows ++ accepted n ((after rows n).attempts lines))
  | [], rows, n, h => by
    rw [feedAll, attempts, accepted, List.append_nil]
    exact ⟨rfl, h⟩
  | text :: rest, rows, n, h => by
    rw [feedAll, attempts, feed_after]
    cases hfault : fault? rows ⟨n + 1, text⟩ with
    | some e =>
      dsimp only
      rw [accepted, accepted, List.append_nil]
      exact ⟨rfl, h⟩
    | none =>
      dsimp only
      obtain ⟨hstate, hreadable⟩ :=
        feedAll_after rest (n := n + 1) (readable_concat.mpr ⟨h, hfault⟩)
      have hcons : ∀ as, rows ++ accepted n (⟨text, none⟩ :: as) =
          rows ++ [⟨n + 1, text⟩] ++ accepted (n + 1) as := fun as => List.append_cons rows _ _
      rw [hcons, List.length_cons]
      exact ⟨hstate.trans (congrArg (after _) (Nat.add_right_comm n 1 _)), hreadable⟩

/-- **The state after calls** is that of the lines that were accepted. -/
theorem run_after : ∀ (calls : List ParserCall) {rows : List Row} {n : Nat}, Readable rows →
    (after rows n).run calls =
        after (rows ++ accepted n ((after rows n).history calls))
          (n + ((after rows n).history calls).length) ∧
      Readable (rows ++ accepted n ((after rows n).history calls))
  | [], rows, n, h => by
    rw [history, accepted, List.append_nil]
    exact ⟨rfl, h⟩
  | c :: rest, rows, n, h => by
    obtain ⟨hstate, hreadable⟩ := feedAll_after c.lines (n := n) h
    obtain ⟨hrun, hrest⟩ :=
      run_after rest (n := n + ((after rows n).attempts c.lines).length) hreadable
    rw [history, call_eq_feedAll, hstate, accepted_append, List.length_append, ← List.append_assoc,
      ← Nat.add_assoc]
    refine ⟨?_, hrest⟩
    rw [← hrun, ← hstate, ← call_eq_feedAll]
    rfl

end Parser

/-! ## What rows add up to -/

namespace Line

variable {text : String} {n : Int}

/-- The marks of a line have its number, and their columns rise. -/
theorem marksOf_rises :
    (∀ m ∈ marksOf text n, m.lineNumber = n) ∧
      (marksOf text n).Pairwise fun a b => a.column < b.column := by
  cases h : classify text n with
  | error e => simp [marksOf, h]
  | ok line =>
    cases line with
    | source t => simp [marksOf, h]
    | legend t entry => simp [marksOf, h]
    | marked t marks =>
      obtain ⟨rfl, a, hwf, -, rfl⟩ := classify_eq_marked_iff.mp h
      have hdecode := marksDecode_marks n hwf
      rw [(parts_of_marked h).2.2.1]
      refine ⟨fun m hm => ?_, hdecode.rising⟩
      rw [hdecode.found] at hm
      obtain ⟨found, -, rfl⟩ := List.mem_map.mp hm
      rfl

end Line

/-- An annotation stands on one of the rows, under its number. -/
theorem number_of_mem_annotations {rows : List Row} {a : Annotation} (h : a ∈ annotations rows) :
    ∃ row ∈ rows, a.mark.lineNumber = row.number := by
  obtain ⟨⟨row, i⟩, hrow, ha⟩ := List.mem_flatMap.mp h
  obtain ⟨m, hm, rfl⟩ := List.mem_map.mp ha
  have hget := List.mk_mem_zipIdx_iff_getElem?.mp hrow
  exact ⟨row, List.mem_of_getElem? hget, Line.marksOf_rises.1 m hm⟩

/-- The order of annotations: by row, and within a row by column. -/
def Annotation.Before (a b : Annotation) : Prop :=
  a.mark.lineNumber < b.mark.lineNumber ∨
    (a.mark.lineNumber = b.mark.lineNumber ∧ a.mark.column < b.mark.column)

/-- **Annotations come in order**, and none has fewer source lines above it than one before. -/
theorem annotations_rise {rows : List Row} (h : rows.Pairwise fun a b => a.number < b.number) :
    (annotations rows).Pairwise fun a b => a.above.length ≤ b.above.length ∧ a.Before b := by
  -- The last row has the highest number, and its marks have all source lines above them.
  induction rows using List.reverseRecOn with
  | nil => exact .nil
  | append_singleton rows row ih =>
    obtain ⟨hrows, -, hlast⟩ := List.pairwise_append.mp h
    rw [annotations_concat, List.pairwise_append]
    refine ⟨ih hrows, ?_, ?_⟩
    · rw [List.pairwise_map]
      refine Line.marksOf_rises.2.imp_of_mem fun {a b} ha hb hcolumn => ?_
      refine ⟨le_rfl, Or.inr ⟨?_, hcolumn⟩⟩
      exact (Line.marksOf_rises.1 a ha).trans (Line.marksOf_rises.1 b hb).symm
    · intro a ha b hb
      obtain ⟨m, hm, rfl⟩ := List.mem_map.mp hb
      obtain ⟨r, hr, hnumber⟩ := number_of_mem_annotations ha
      have hlt := hlast r hr row (List.mem_singleton_self row)
      have habove := above_prefix ha
      refine ⟨habove.length_le, Or.inl ?_⟩
      rw [hnumber, Line.marksOf_rises.1 m hm]
      exact_mod_cast hlt

/-- A number that a list does not have is one more, however often it is added. -/
theorem card_toFinset_append {l m : List Int} {k : Int} (hk : k ∉ l) (hne : m ≠ [])
    (hm : ∀ x ∈ m, x = k) : (l ++ m).toFinset.card = l.toFinset.card + 1 := by
  have hsingle : m.toFinset = {k} := by
    refine Finset.eq_singleton_iff_nonempty_unique_mem.mpr ⟨?_, fun x hx => ?_⟩
    · exact List.toFinset_nonempty_iff m |>.mpr hne
    · exact hm x (List.mem_toFinset.mp hx)
  rw [List.toFinset_append, hsingle, Finset.union_comm, ← Finset.insert_eq,
    Finset.card_insert_of_notMem (by simpa using hk)]

/-- **Every readable row is of one kind**: it is a source line, defines a tag or is annotated. -/
theorem length_of_readable {rows : List Row} (hreadable : Readable rows)
    (h : rows.Pairwise fun a b => a.number < b.number) :
    (sources rows).length + (definitions rows).length +
      ((annotations rows).map (·.mark.lineNumber)).toFinset.card = rows.length := by
  -- The last row has a number of its own: if it is annotated, it is one more to be counted.
  induction rows using List.reverseRecOn with
  | nil => rfl
  | append_singleton rows row ih =>
    obtain ⟨hrows, -, hlast⟩ := List.pairwise_append.mp h
    have ih := ih hreadable.of_append hrows
    obtain ⟨line, hline⟩ := hreadable.judged row (List.mem_append_right _ List.mem_cons_self)
    rw [sources_concat, definitions_concat, annotations_concat, List.map_append, List.length_append,
      List.length_append, List.length_append, List.length_singleton]
    cases line with
    | source t =>
      obtain ⟨-, hs, hm, he⟩ := Line.parts_of_source hline
      simp only [hs, hm, he, if_true, List.map_nil, List.append_nil, Option.toList_none,
        List.length_singleton, List.length_nil]
      omega
    | legend t entry =>
      obtain ⟨hs, hm, he⟩ := Line.parts_of_legend hline
      simp only [hs, hm, he, Bool.false_eq_true, if_false, List.map_nil, List.append_nil,
        Option.toList_some, List.length_singleton, List.length_nil]
      omega
    | marked t marks =>
      obtain ⟨hne, hs, hm, he⟩ := Line.parts_of_marked hline
      have hnew : (row.number : Int) ∉ (annotations rows).map (·.mark.lineNumber) := by
        intro hmem
        obtain ⟨a, ha, hnumber⟩ := List.mem_map.mp hmem
        obtain ⟨r, hr, hother⟩ := number_of_mem_annotations ha
        have hlt := hlast r hr row (List.mem_singleton_self row)
        omega
      rw [card_toFinset_append hnew (by simpa [hm] using hne) ?_]
      · simp only [hs, he, Bool.false_eq_true, if_false, Option.toList_none, List.length_nil]
        omega
      · simpa using Line.marksOf_rises.1

/-! ## What the legend holds -/

/-- A line that fits the grammar defines a tag where it is a legend line for it. -/
theorem Line.entryOf?_eq_some_iff {text : String} {n : Int}
    (hjudged : ∃ line, classify text n = .ok line) {entry : LegendEntry} :
    entryOf? text n = some entry ↔
      LegendLine entry.tag.toList entry.message.toList text.toList ∧ entry.lineNumber = n := by
  obtain ⟨line, hline⟩ := hjudged
  cases line with
  | source t =>
    obtain ⟨-, hsource⟩ := classify_eq_source_iff.mp hline
    simp [(parts_of_source hline).2.2.2, hsource.2.1]
  | marked t marks =>
    obtain ⟨rfl, a, hwf, hr, -⟩ := classify_eq_marked_iff.mp hline
    simp [(parts_of_marked hline).2.2.2, not_legendLine_of_annotationLine ⟨a, hwf, hr⟩]
  | legend t other =>
    obtain ⟨-, hlegend, -, hnumber⟩ := classify_eq_legend_iff.mp hline
    rw [(parts_of_legend hline).2.2, Option.some.injEq]
    constructor
    · rintro rfl
      exact ⟨hlegend, hnumber⟩
    · rintro ⟨hother, hn⟩
      have hscan := scanLegendTag?_eq_some_iff.mpr hlegend
      rw [scanLegendTag?_eq_some_iff.mpr hother, Option.some.injEq, Prod.mk.injEq,
        List.cons.injEq] at hscan
      obtain ⟨tag, message, number⟩ := other
      obtain ⟨tag', message', number'⟩ := entry
      obtain rfl := String.toList_injective hscan.1
      obtain rfl := String.toList_injective hscan.2.2
      obtain rfl : number' = number := hn.trans hnumber.symm
      rfl

/-- Attempt `i` of a history, an accepted one, defines a tag. -/
def DefinesAt (history : List Attempt) (i : Nat) (tag message : String) : Prop :=
  ∃ text, history[i]? = some ⟨text, none⟩ ∧
    LegendLine tag.toList message.toList text.toList

theorem mem_definitions_accepted_iff {history : List Attempt}
    (h : Readable (accepted 0 history)) {entry : LegendEntry} :
    entry ∈ definitions (accepted 0 history) ↔
      ∃ i : Nat, entry.lineNumber = i + 1 ∧ DefinesAt history i entry.tag entry.message := by
  unfold definitions
  rw [List.mem_filterMap]
  constructor
  · rintro ⟨row, hrow, hentry⟩
    obtain ⟨hlegend, hnumber⟩ := (Line.entryOf?_eq_some_iff (h.judged row hrow)).mp hentry
    obtain ⟨i, text, hi, rfl⟩ := mem_accepted.mp hrow
    exact ⟨i, by simpa using hnumber, text, hi, hlegend⟩
  · rintro ⟨i, hnumber, text, hi, hlegend⟩
    have hrow : ⟨0 + i + 1, text⟩ ∈ accepted 0 history := mem_accepted.mpr ⟨i, text, hi, rfl⟩
    exact ⟨_, hrow, (Line.entryOf?_eq_some_iff (h.judged _ hrow)).mpr
      ⟨hlegend, by simpa using hnumber⟩⟩

/-- **A tag stands for what its first accepted definition says.** -/
theorem find?_accepted_iff {history : List Attempt} (h : Readable (accepted 0 history))
    {tag : String} {entry : LegendEntry} :
    (⟨definitions (accepted 0 history)⟩ : Legend).find? tag = some entry ↔
      entry.tag = tag ∧ ∃ i : Nat, entry.lineNumber = i + 1 ∧
        DefinesAt history i tag entry.message ∧
        ∀ j < i, ∀ message, ¬ DefinesAt history j tag message := by
  have honce : (⟨definitions (accepted 0 history)⟩ : Legend).tags.Nodup := h.once
  rw [Legend.find?_eq_some_iff honce, and_comm]
  refine and_congr_right ?_
  rintro rfl
  rw [mem_definitions_accepted_iff h]
  constructor
  · rintro ⟨i, hnumber, hdefines⟩
    refine ⟨i, hnumber, hdefines, fun j hj message hearlier => ?_⟩
    -- An earlier definition of the tag would be another entry for it.
    have hmem := (mem_definitions_accepted_iff h).mpr ⟨i, hnumber, hdefines⟩
    have hother : ⟨entry.tag, message, j + 1⟩ ∈ definitions (accepted 0 history) :=
      (mem_definitions_accepted_iff h).mpr ⟨j, rfl, hearlier⟩
    have hsame := List.inj_on_of_nodup_map honce hother hmem rfl
    have hline : (j : Int) + 1 = entry.lineNumber := congrArg LegendEntry.lineNumber hsame
    omega
  · rintro ⟨i, hnumber, hdefines, -⟩
    exact ⟨i, hnumber, hdefines⟩

/-! ## Sound states -/

/-- What holds of a parser to which these lines were given. -/
structure Parser.Sound (p : Parser) (history : List Attempt) : Prop where
  counted : p.lineNumber = history.length
  /-- Marks belong to source lines, so there is none before the first of them, -/
  anchored : ∀ m ∈ p.marks.toList, m.line < p.sourceLines.size
  /-- and their order is that of the lines which they belong to, -/
  anchors_rise : p.marks.toList.Pairwise fun a b => a.line ≤ b.line
  /-- of the lines which they stand on, and of their columns within a line. -/
  ordered : p.marks.toList.Pairwise fun a b =>
    a.mark.lineNumber < b.mark.lineNumber ∨
      (a.mark.lineNumber = b.mark.lineNumber ∧ a.mark.column < b.mark.column)
  numbered : ∀ m ∈ p.marks.toList, 1 ≤ m.mark.lineNumber ∧ m.mark.lineNumber ≤ p.lineNumber
  defined_once : p.legend.tags.Nodup
  /-- A tag stands for what the first accepted line says that defines it. -/
  first_definition : ∀ tag entry, p.legend.find? tag = some entry ↔
    entry.tag = tag ∧ ∃ i : Nat, entry.lineNumber = i + 1 ∧
      DefinesAt history i tag entry.message ∧
      ∀ j < i, ∀ message, ¬ DefinesAt history j tag message
  /-- Every line is a source line, a legend line, an annotation line or at fault. -/
  adds_up : p.sourceLines.size + p.legend.size +
    (p.marks.toList.map (·.mark.lineNumber)).toFinset.card +
      (history.filter (·.error.isSome)).length = p.lineNumber

/-- The state of accepted lines is sound. -/
theorem sound_after {history : List Attempt} (h : Readable (accepted 0 history)) :
    (Parser.after (accepted 0 history) history.length).Sound history := by
  have hordered := annotations_rise (accepted_rises 0 history)
  have hanchored : ∀ a ∈ annotations (accepted 0 history),
      a.above.length - 1 < (sources (accepted 0 history)).length := fun a ha => by
    have hpos := List.length_pos_iff.mpr (h.anchored a ha)
    have habove := above_prefix ha
    have hle := habove.length_le
    omega
  have hnumbered : ∀ a ∈ annotations (accepted 0 history),
      1 ≤ a.mark.lineNumber ∧ a.mark.lineNumber ≤ history.length := fun a ha => by
    obtain ⟨row, hrow, hnumber⟩ := number_of_mem_annotations ha
    have hbounds := number_of_mem_accepted hrow
    omega
  have hsum := length_of_readable h (accepted_rises 0 history)
  have hattempts := length_accepted 0 history
  constructor
  case counted => rfl
  case anchored => simpa [Parser.after, Annotation.anchored] using hanchored
  case anchors_rise =>
    simp only [Parser.after, List.pairwise_map]
    exact hordered.imp fun hab => Nat.sub_le_sub_right hab.1 1
  case ordered =>
    simp only [Parser.after, List.pairwise_map]
    exact hordered.imp And.right
  case numbered => simpa [Parser.after, Annotation.anchored] using hnumbered
  case defined_once => exact h.once
  case first_definition => exact fun tag entry => find?_accepted_iff h
  case adds_up =>
    simp only [Parser.after, Legend.size, List.map_map, List.size_toArray]
    simp only [Function.comp_def, Annotation.anchored]
    omega

/-- **After every sequence of calls a parser is sound**, those that failed included, and it makes
no difference how often it was finished in between. -/
theorem run_sound (calls : List ParserCall) :
    (Parser.start.run calls).Sound (Parser.start.history calls) ∧
      ∀ more, Parser.start.run (calls ++ .finish :: more) = Parser.start.run (calls ++ more) := by
  refine ⟨?_, fun more => ?_⟩
  · rw [← Parser.after_nil]
    obtain ⟨hstate, hreadable⟩ := Parser.run_after calls (n := 0) readable_nil
    rw [List.nil_append] at hstate hreadable
    rw [hstate, Nat.zero_add]
    exact sound_after hreadable
  · rw [Parser.run_append, Parser.run_append]
    rfl

end LintFixture
