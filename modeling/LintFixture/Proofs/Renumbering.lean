import LintFixture.Proofs.Faults

/-!
# Rows without their numbers

The number of a line goes into the marks and the legend entries that the line makes, and from there
into what is said about faults. It has no part in what is read: rows with the same texts are
readable together, and what they come to differs in numbers only. `unnumbered` makes rows of texts
alone, all of them with the number zero, and whatever rows add up to is compared with that.

Results:
* `readable_unnumbered_iff`: whether rows are readable is a matter of their texts.
* `exists_ofLines_iff`: when lines can be taken apart, and what they expect, without their numbers.
* `sameEnd_finish`: runs that have accepted the same texts end alike.
-/

namespace LintFixture

/-! ## Taking numbers away -/

/-- The mark without the number of its line. -/
def Mark.unnumbered (m : Mark) : Mark := { m with lineNumber := 0 }

/-- The entry without the number of its line. -/
def LegendEntry.unnumbered (e : LegendEntry) : LegendEntry := { e with lineNumber := 0 }

/-- The annotation without the number of its line. -/
def Annotation.unnumbered (a : Annotation) : Annotation := { a with mark := a.mark.unnumbered }

/-- Texts as rows without numbers. -/
def unnumbered (texts : List String) : List Row := texts.map (Row.mk 0)

theorem unnumbered_append (texts more : List String) :
    unnumbered (texts ++ more) = unnumbered texts ++ unnumbered more :=
  List.map_append

theorem unnumbered_concat (texts : List String) (text : String) :
    unnumbered (texts ++ [text]) = unnumbered texts ++ [⟨0, text⟩] :=
  unnumbered_append texts [text]

theorem map_text_unnumbered (texts : List String) : (unnumbered texts).map (·.text) = texts := by
  simp [unnumbered, Function.comp_def]

/-! ## Lines -/

namespace Line

/-- The line without its number. -/
def unnumbered : Line → Line
  | source text => source text
  | marked text marks => marked text (marks.map Mark.unnumbered)
  | legend text entry => legend text entry.unnumbered

theorem marksFrom_unnumbered (n : Int) : ∀ (groups : List (List Char × Group)) (column : Nat),
    (GroupLine.marksFrom n column groups).map Mark.unnumbered =
      GroupLine.marksFrom 0 column groups
  | [], _ => rfl
  | (blanks, group) :: rest, column => by
    simp only [GroupLine.marksFrom, List.map_cons, marksFrom_unnumbered n rest, Mark.unnumbered]

variable (text : String) (n : Int)

/-- **The number of a line** has no part in how the line is judged. -/
theorem classify_unnumbered :
    (∃ e e', classify text n = .error e ∧ classify text 0 = .error e') ∨
      ∃ line, classify text n = .ok line ∧ classify text 0 = .ok line.unnumbered := by
  unfold classify
  simp only
  split
  · rename_i a hscan
    refine Or.inr ⟨_, rfl, ?_⟩
    rw [unnumbered, GroupLine.marks, GroupLine.marks, marksFrom_unnumbered]
  split
  · exact Or.inr ⟨_, rfl, rfl⟩
  split
  · exact Or.inl ⟨_, _, rfl, rfl⟩
  split
  · exact Or.inl ⟨_, _, rfl, rfl⟩
  · exact Or.inr ⟨_, rfl, rfl⟩

theorem judged_unnumbered :
    (∃ line, classify text n = .ok line) ↔ ∃ line, classify text 0 = .ok line := by
  obtain ⟨e, e', hn, h⟩ | ⟨line, hn, h⟩ := classify_unnumbered text n <;> simp [hn, h]

theorem marksOf_unnumbered : (marksOf text n).map Mark.unnumbered = marksOf text 0 := by
  unfold marksOf
  obtain ⟨e, e', hn, h⟩ | ⟨line, hn, h⟩ := classify_unnumbered text n
  · simp [hn, h]
  · cases line <;> simp [hn, h, unnumbered]

theorem entryOf?_unnumbered :
    (entryOf? text n).map LegendEntry.unnumbered = entryOf? text 0 := by
  unfold entryOf?
  obtain ⟨e, e', hn, h⟩ | ⟨line, hn, h⟩ := classify_unnumbered text n
  · simp [hn, h]
  · cases line <;> simp [hn, h, unnumbered]

end Line

/-! ## Rows -/

section Rows

variable (rows : List Row)

theorem sources_unnumbered (texts : List String) :
    sources (unnumbered texts) = texts.filter Line.isSource := by
  rw [sources, map_text_unnumbered]

theorem definitions_unnumbered :
    (definitions rows).map LegendEntry.unnumbered =
      definitions (unnumbered (rows.map (·.text))) := by
  simp only [definitions, unnumbered, List.map_filterMap, List.filterMap_map, Function.comp_def,
    Nat.cast_zero, Line.entryOf?_unnumbered]

/-- The annotations of rows come to those of their texts. -/
theorem annotations_unnumbered :
    (annotations rows).map Annotation.unnumbered =
      annotations (unnumbered (rows.map (·.text))) := by
  induction rows using List.reverseRecOn with
  | nil => rfl
  | append_singleton rows row ih =>
    have hmarks := Line.marksOf_unnumbered row.text row.number
    rw [List.map_append, List.map_singleton, unnumbered_concat, annotations_concat,
      annotations_concat, List.map_append, ih, sources_unnumbered, Nat.cast_zero, ← hmarks]
    simp only [List.map_map, Function.comp_def, Annotation.unnumbered, sources]

theorem tags_unnumbered :
    (definitions (unnumbered (rows.map (·.text)))).map (·.tag) =
      (definitions rows).map (·.tag) := by
  rw [← definitions_unnumbered, List.map_map]
  rfl

theorem messages_unnumbered :
    Legend.messages ⟨definitions (unnumbered (rows.map (·.text)))⟩ =
      Legend.messages ⟨definitions rows⟩ := by
  unfold Legend.messages
  rw [← definitions_unnumbered, List.map_map]
  rfl

/-- **Whether rows are readable** is a matter of their texts. -/
theorem readable_unnumbered_iff :
    Readable (unnumbered (rows.map (·.text))) ↔ Readable rows := by
  have hjudged : (∀ row ∈ unnumbered (rows.map (·.text)),
        ∃ line, Line.classify row.text row.number = .ok line) ↔
      ∀ row ∈ rows, ∃ line, Line.classify row.text row.number = .ok line := by
    simp only [unnumbered, List.forall_mem_map]
    exact forall₂_congr fun row _ => (Line.judged_unnumbered row.text row.number).symm
  have hanchored : (∀ a ∈ annotations (unnumbered (rows.map (·.text))), a.above ≠ []) ↔
      ∀ a ∈ annotations rows, a.above ≠ [] := by
    rw [← annotations_unnumbered, List.forall_mem_map]
    rfl
  constructor
  · rintro ⟨hj, ha, ho⟩
    exact ⟨hjudged.mp hj, hanchored.mp ha, tags_unnumbered rows ▸ ho⟩
  · rintro ⟨hj, ha, ho⟩
    exact ⟨hjudged.mpr hj, hanchored.mpr ha, (tags_unnumbered rows).symm ▸ ho⟩

end Rows

/-! ## What is expected -/

/-- What is expected under a legend is expected under one with more messages. -/
theorem Expects.mono {l l' : Legend} (h : ∀ x ∈ l.messages, x ∈ l'.messages) {a : Annotation}
    {d : Diagnostic} (hd : Expects l a d) : Expects l' a d :=
  ⟨hd.line, hd.column, hd.width, h _ hd.message, hd.rule⟩

theorem expects_unnumbered_iff {l : Legend} {a : Annotation} {d : Diagnostic} :
    Expects l a.unnumbered d ↔ Expects l a d := by
  constructor
  · rintro ⟨hline, hcolumn, hwidth, hmessage, hrule⟩
    exact ⟨hline, hcolumn, hwidth, hmessage, hrule⟩
  · rintro ⟨hline, hcolumn, hwidth, hmessage, hrule⟩
    exact ⟨hline, hcolumn, hwidth, hmessage, hrule⟩

theorem forall₂_expects_unnumbered_iff (rows : List Row) {expected : List Diagnostic} :
    List.Forall₂ (Expects ⟨definitions (unnumbered (rows.map (·.text)))⟩)
        (annotations (unnumbered (rows.map (·.text)))) expected ↔
      List.Forall₂ (Expects ⟨definitions rows⟩) (annotations rows) expected := by
  rw [← annotations_unnumbered, List.forall₂_map_left_iff]
  simp only [expects_unnumbered_iff]
  have hmessages := messages_unnumbered rows
  constructor
  · exact fun h => h.imp fun _ _ hd => hd.mono fun x hx => hmessages ▸ hx
  · exact fun h => h.imp fun _ _ hd => hd.mono fun x hx => hmessages ▸ hx

/-! ## Fixtures -/

/-- Two fixtures differ in the numbers of legend lines at most. -/
structure Fixture.Alike (f g : Fixture) : Prop where
  sourceLines : f.sourceLines = g.sourceLines
  expected : f.expected = g.expected
  messages : f.legend.messages = g.legend.messages

/-- A fixture holds what stands in these lines, whatever their numbers. -/
structure Fixture.IsOf (f : Fixture) (lines : List String) : Prop where
  readable : Readable (unnumbered lines)
  sourceLines : f.sourceLines = lines.filter Line.isSource
  messages : f.legend.messages = Legend.messages ⟨definitions (unnumbered lines)⟩
  expected : List.Forall₂ (Expects ⟨definitions (unnumbered lines)⟩)
    (annotations (unnumbered lines)) f.expected

/-- **What lines come to**, but for their numbers. -/
theorem exists_ofLines_iff {lines : List String} {f : Fixture} :
    (∃ g, Fixture.ofLines lines = .ok g ∧ f.Alike g) ↔ f.IsOf lines := by
  have htexts : (numbered lines).map (·.text) = lines := map_text_numberedFrom lines 0
  have hreadable := readable_unnumbered_iff (numbered lines)
  have hmessages := messages_unnumbered (numbered lines)
  have hexpects := @forall₂_expects_unnumbered_iff (numbered lines) f.expected
  rw [htexts] at hreadable hmessages hexpects
  constructor
  · rintro ⟨g, hg, hsame⟩
    obtain ⟨hr, hs, hl, he⟩ := ofLines_eq_ok_iff.mp hg
    rw [hl, ← hsame.expected] at he
    refine ⟨hreadable.mpr hr, hsame.sourceLines.trans hs, ?_, hexpects.mpr he⟩
    rw [hsame.messages, hl, hmessages, legendOf]
  · rintro ⟨hr, hs, hm, he⟩
    refine ⟨⟨f.sourceLines, f.expected, legendOf lines⟩,
      ofLines_eq_ok_iff.mpr ⟨hreadable.mp hr, hs, rfl, hexpects.mp he⟩, rfl, rfl, ?_⟩
    rw [hm, hmessages, legendOf]

theorem isOf_of_ofLines {lines : List String} {f : Fixture}
    (h : Fixture.ofLines lines = .ok f) : f.IsOf lines :=
  exists_ofLines_iff.mp ⟨f, h, rfl, rfl, rfl⟩

/-! ## Ends of runs -/

/-- Two runs end alike: with fixtures that differ in numbers at most, or because of one tag. -/
inductive SameEnd : Except FixtureError Fixture → Except FixtureError Fixture → Prop
  | ok {f g : Fixture} : f.Alike g → SameEnd (.ok f) (.ok g)
  | unresolvedTag (tag : String) (m n : Int) :
      SameEnd (.error (.unresolvedTag tag m)) (.error (.unresolvedTag tag n))

theorem Legend.contains_iff {l : Legend} {tag : String} : l.contains tag = true ↔ tag ∈ l.tags := by
  rw [← not_iff_not, ← find?_eq_none_iff, contains]
  cases l.find? tag <;> simp

theorem contains_unnumbered (rows : List Row) (tag : String) :
    (⟨definitions (unnumbered (rows.map (·.text)))⟩ : Legend).contains tag =
      (⟨definitions rows⟩ : Legend).contains tag := by
  rw [Bool.eq_iff_iff, Legend.contains_iff, Legend.contains_iff, Legend.tags, Legend.tags,
    tags_unnumbered]

/-- The first annotation without a definition comes to the one among the texts. -/
theorem find?_unnumbered (rows : List Row) :
    ((annotations rows).find? fun a =>
        !(⟨definitions rows⟩ : Legend).contains a.mark.tag).map Annotation.unnumbered =
      (annotations (unnumbered (rows.map (·.text)))).find? fun a =>
        !(⟨definitions (unnumbered (rows.map (·.text)))⟩ : Legend).contains a.mark.tag := by
  rw [← annotations_unnumbered, List.find?_map]
  simp only [contains_unnumbered]
  rfl

/-- **Runs that have accepted the same texts** end alike. -/
theorem sameEnd_finish {rows₁ rows₂ : List Row} (h₁ : Readable rows₁)
    (htexts : rows₁.map (·.text) = rows₂.map (·.text)) (n₁ n₂ : Nat) :
    SameEnd (Parser.after rows₁ n₁).finish (Parser.after rows₂ n₂).finish := by
  have h₂ : Readable rows₂ := by
    rw [← readable_unnumbered_iff, ← htexts, readable_unnumbered_iff]
    exact h₁
  cases hfinish : (Parser.after rows₁ n₁).finish with
  | ok f =>
    obtain ⟨hs, hl, he⟩ := (finish_after_eq_ok_iff h₁.once).mp hfinish
    have hexpected : List.Forall₂ (Expects ⟨definitions rows₂⟩) (annotations rows₂) f.expected := by
      rw [← forall₂_expects_unnumbered_iff, ← htexts, forall₂_expects_unnumbered_iff, ← hl]
      exact he
    have hother : (Parser.after rows₂ n₂).finish =
        .ok ⟨sources rows₂, f.expected, ⟨definitions rows₂⟩⟩ :=
      (finish_after_eq_ok_iff h₂.once).mpr ⟨rfl, rfl, hexpected⟩
    rw [hother]
    refine .ok ⟨?_, rfl, ?_⟩
    · rw [hs, sources, sources, htexts]
    · rw [hl, ← messages_unnumbered rows₁, htexts, messages_unnumbered]
  | error e =>
    obtain ⟨a, ha, rfl⟩ := finish_after_eq_error_iff.mp hfinish
    have hfound := find?_unnumbered rows₁
    rw [ha, htexts, ← find?_unnumbered] at hfound
    obtain ⟨b, hb, hsame⟩ := Option.map_eq_some_iff.mp hfound.symm
    have htag : b.mark.tag = a.mark.tag := congrArg (fun x => x.mark.tag) hsame
    have hother : (Parser.after rows₂ n₂).finish =
        .error (.unresolvedTag b.mark.tag b.mark.lineNumber) :=
      finish_after_eq_error_iff.mpr ⟨b, hb, rfl⟩
    rw [hother, htag]
    exact .unresolvedTag _ _ _

end LintFixture
