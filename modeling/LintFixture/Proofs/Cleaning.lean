import LintFixture.Proofs.Composition
import LintFixture.Proofs.Verdict

/-!
# Source without its markup

The source of a fixture is what is left of its lines when the markup is taken out. A source line is
one wherever it stands, so the source is read as itself and nothing else (`parse_source`).

`Cleared` takes out some of the markup lines and keeps the others. The source lines are still the
same ones, and what is above an annotation that is kept is what was above it before. So the lines
that are left can only be at fault for a tag whose definition was taken out
(`exists_ofLines_cleared_iff`).

Headline: `parse_cleaned`, cleaning twice is cleaning once, and the source does not depend on how
much of the markup is there.
-/

namespace LintFixture

/-! ## Lines of source alone -/

/-- Where all rows are source, nothing is expected or defined. -/
theorem parts_of_sources : ∀ {rows : List Row}, (∀ row ∈ rows, Line.isSource row.text = true) →
    Readable rows ∧ annotations rows = [] ∧ definitions rows = [] := by
  intro rows
  induction rows using List.reverseRecOn with
  | nil => exact fun _ => ⟨readable_nil, rfl, rfl⟩
  | append_singleton rows row ih =>
    intro h
    obtain ⟨hreadable, hannotations, hdefinitions⟩ :=
      ih fun r hr => h r (List.mem_append_left _ hr)
    have hrow := h row (List.mem_append_right _ (List.mem_singleton_self row))
    have hclassify : Line.classify row.text row.number = .ok (.source row.text) :=
      Line.classify_eq_source_iff.mpr ⟨rfl, Line.isSource_iff.mp hrow⟩
    obtain ⟨-, -, hmarks, hentry⟩ := Line.parts_of_source hclassify
    refine ⟨readable_concat_iff.mpr ⟨hreadable, ⟨_, hclassify⟩, ?_, ?_⟩, ?_, ?_⟩
    · exact fun hne => absurd hmarks hne
    · rw [hentry]
      exact fun entry he => absurd he (Option.not_mem_none entry)
    · rw [annotations_concat, hannotations, hmarks]
      rfl
    · rw [definitions_concat, hdefinitions, hentry]
      rfl

/-- **Lines of source** are read as themselves. -/
theorem ofLines_of_sources {lines : List String}
    (h : ∀ line ∈ lines, Line.isSource line = true) :
    Fixture.ofLines lines = .ok ⟨lines, [], .empty⟩ := by
  have hrows : ∀ row ∈ numbered lines, Line.isSource row.text = true := by
    rw [← map_text_numberedFrom lines 0, List.forall_mem_map] at h
    exact h
  obtain ⟨hreadable, hannotations, hdefinitions⟩ := parts_of_sources hrows
  refine ofLines_eq_ok_iff.mpr ⟨hreadable, (List.filter_eq_self.mpr h).symm, ?_, ?_⟩
  · rw [legendOf, hdefinitions]
    rfl
  · rw [annotationsOf, hannotations]
    exact .nil

/-- A source is cut into lines of source. A fixture without any source line has the empty text for
its source, which has one line, an empty one, and that is source as well. -/
theorem isSource_of_mem_splitLines {text : String} {f : Fixture}
    (hsource : f.sourceLines = (Text.splitLines text).filter Line.isSource) :
    ∀ line ∈ Text.splitLines f.source, Line.isSource line = true := by
  by_cases hne : f.sourceLines = []
  · have hlines : Text.splitLines f.source = [""] := by
      rw [Fixture.source, hne]
      rfl
    rw [hlines, List.forall_mem_singleton]
    cbv
  · rw [splitLines_source hsource hne, hsource]
    exact fun line hline => List.of_mem_filter hline

/-- **A source is read as itself**, without anything expected and without legend. -/
theorem parse_source {text : String} {f : Fixture}
    (hsource : f.sourceLines = (Text.splitLines text).filter Line.isSource) :
    Fixture.parse f.source = .ok ⟨Text.splitLines f.source, [], .empty⟩ :=
  ofLines_of_sources (isSource_of_mem_splitLines hsource)

/-! ## Taking out markup -/

/-- An annotation line or a legend line. -/
def MarkupLine (cs : List Char) : Prop :=
  AnnotationLine cs ∨ ∃ tag message, LegendLine tag message cs

theorem Line.isSource_of_markup {text : String} (h : MarkupLine text.toList) :
    isSource text = false := by
  refine isSource_eq_false fun hs => ?_
  rcases h with h | ⟨tag, message, h⟩
  · exact hs.1 h
  · exact hs.2.1 tag message h

/-- What comes below a line has its source above it. -/
theorem annotations_cons (text : String) (texts : List String) :
    annotations (unnumbered (text :: texts)) = annotations (unnumbered [text]) ++
      (annotations (unnumbered texts)).map (·.below (sources (unnumbered [text]))) :=
  annotations_append (unnumbered [text]) (unnumbered texts)

/-- Some of the markup lines are taken out of a list of lines, and everything else is kept. -/
inductive Cleared : (lines kept : List String) → Prop
  | nil : Cleared [] []
  | keep {text lines kept} : Cleared lines kept → Cleared (text :: lines) (text :: kept)
  | drop {text lines kept} : MarkupLine text.toList → Cleared lines kept →
      Cleared (text :: lines) kept

namespace Cleared

variable {lines kept : List String} (h : Cleared lines kept)

include h

theorem sublist : kept.Sublist lines := by
  induction h with
  | nil => exact .slnil
  | keep _ ih => exact ih.cons_cons _
  | drop _ _ ih => exact ih.cons _

/-- The source lines are all kept. -/
theorem filter_isSource : kept.filter Line.isSource = lines.filter Line.isSource := by
  induction h with
  | nil => rfl
  | keep _ ih => rw [List.filter_cons, List.filter_cons, ih]
  | drop hmarkup _ ih =>
    rw [List.filter_cons_of_neg (by simp [Line.isSource_of_markup hmarkup]), ih]

/-- The annotations that are kept have the same source lines above them. -/
theorem annotations_sublist :
    (annotations (unnumbered kept)).Sublist (annotations (unnumbered lines)) := by
  induction h with
  | nil => exact .refl _
  | @keep text lines kept _ ih =>
    rw [annotations_cons text kept, annotations_cons text lines]
    exact (List.Sublist.refl _).append (ih.map _)
  | @drop text lines kept hmarkup _ ih =>
    -- No source line goes, so nothing is missing above the annotations that follow.
    have hnone : sources (unnumbered [text]) = [] := by
      simp [sources_unnumbered, Line.isSource_of_markup hmarkup]
    have hself : (annotations (unnumbered lines)).map (·.below []) =
        annotations (unnumbered lines) := List.map_id _
    rw [annotations_cons, hnone, hself]
    exact ih.trans (List.sublist_append_right _ _)

/-- **What is left can be read line by line** where the whole can. -/
theorem readable (hreadable : Readable (unnumbered lines)) : Readable (unnumbered kept) := by
  have hrows : (unnumbered kept).Sublist (unnumbered lines) := h.sublist.map _
  refine ⟨fun row hrow => hreadable.judged row (hrows.subset hrow),
    fun a ha => hreadable.anchored a (h.annotations_sublist.subset ha), ?_⟩
  exact hreadable.once.sublist ((hrows.filterMap _).map _)

end Cleared

/-- **When lines can be taken apart that are left of others**: every tag that is used has to be
defined. -/
theorem exists_ofLines_cleared_iff {lines kept : List String} {f : Fixture}
    (hf : Fixture.ofLines lines = .ok f) (h : Cleared lines kept) :
    (∃ g, Fixture.ofLines kept = .ok g) ↔
      ∀ a ∈ annotationsOf kept, a.mark.tag ∈ (legendOf kept).tags := by
  have hreadable : Readable (numbered kept) := by
    have hkept := h.readable (isOf_of_ofLines hf).readable
    rw [← map_text_numberedFrom kept 0] at hkept
    exact (readable_unnumbered_iff _).mp hkept
  rw [← exists_all_expects_iff]
  constructor
  · rintro ⟨g, hg⟩
    obtain ⟨-, -, hlegend, hexpected⟩ := ofLines_eq_ok_iff.mp hg
    exact ⟨_, hlegend ▸ hexpected⟩
  · rintro ⟨es, hes⟩
    exact ⟨⟨_, es, _⟩, ofLines_eq_ok_iff.mpr ⟨hreadable, rfl, rfl, hes⟩⟩

/-- **Cleaning is idempotent, and markup has no part in it.** The source of a fixture is read as the
same source, with nothing expected and without legend. A text that is left when annotation lines
and legend lines are taken out of a fixture can be read where the tags that it uses are still
defined, and it has the same source. -/
theorem parse_cleaned {text : String} {f : Fixture} (h : Fixture.parse text = .ok f) :
    (∃ g, Fixture.parse f.source = .ok g ∧ g.source = f.source ∧ g.expected = [] ∧
      g.legend = .empty) ∧
    ∀ kept, Cleared (Text.splitLines text) kept → kept ≠ [] →
      ((∃ g, Fixture.parse (Text.joinLines kept) = .ok g) ↔
        ∀ a ∈ annotationsOf kept, a.mark.tag ∈ (legendOf kept).tags) ∧
      ∀ g, Fixture.parse (Text.joinLines kept) = .ok g → g.source = f.source := by
  obtain ⟨-, hsource, -, -⟩ := ofLines_eq_ok_iff.mp h
  refine ⟨⟨_, parse_source hsource, Text.joinLines_splitLines f.source, rfl, rfl⟩,
    fun kept hkept hne => ?_⟩
  have hfeed : ∀ line ∈ kept, '\n' ∉ line.toList := fun line hline =>
    Text.not_mem_of_mem_splitLines (hkept.sublist.subset hline)
  rw [parse_joinLines hne hfeed]
  refine ⟨exists_ofLines_cleared_iff h hkept, fun g hg => ?_⟩
  obtain ⟨-, hsource', -, -⟩ := ofLines_eq_ok_iff.mp hg
  rw [Fixture.source, Fixture.source, hsource, hsource', hkept.filter_isSource]

/-- Of two annotations and two definitions one each is taken out; the source has an empty line in
its middle and another one at its end. -/
theorem parse_cleaned_half :
    ∃ f, Fixture.parse "[a]: m\nx\n~ [a]\n\n ~~ [b]\n[b]: n\n" = .ok f ∧
      Cleared (Text.splitLines "[a]: m\nx\n~ [a]\n\n ~~ [b]\n[b]: n\n")
        ["[a]: m", "x", "~ [a]", "", ""] ∧
      ∃ g g', Fixture.parse f.source = .ok g ∧
        Fixture.parse (Text.joinLines ["[a]: m", "x", "~ [a]", "", ""]) = .ok g' ∧
        g.expected = [] ∧ g'.expected ≠ [] ∧ g.source = f.source ∧ g'.source = f.source := by
  have h : Fixture.parse "[a]: m\nx\n~ [a]\n\n ~~ [b]\n[b]: n\n" =
      .ok ⟨["x", "", ""], [⟨0, 0, some 1, "m", none⟩, ⟨1, 1, some 2, "n", none⟩],
        ⟨[⟨"a", "m", 1⟩, ⟨"b", "n", 6⟩]⟩⟩ := by cbv
  have hlines : Text.splitLines "[a]: m\nx\n~ [a]\n\n ~~ [b]\n[b]: n\n" =
      ["[a]: m", "x", "~ [a]", "", " ~~ [b]", "[b]: n", ""] := by decide
  have hgroup : Group.WellFormed ⟨2, [' '], ['b']⟩ :=
    ⟨by decide, by decide, by decide, by decide⟩
  have hannotation : MarkupLine " ~~ [b]".toList :=
    Or.inl ⟨⟨[([' '], ⟨2, [' '], ['b']⟩)], []⟩, ⟨List.cons_ne_nil _ _,
      .cons (by decide) (Or.inl rfl) hgroup .nil, by decide⟩, by decide⟩
  have hlegend : MarkupLine "[b]: n".toList := Or.inr ⟨['b'], ['n'], by decide, by decide⟩
  have hcleared : Cleared (Text.splitLines "[a]: m\nx\n~ [a]\n\n ~~ [b]\n[b]: n\n")
      ["[a]: m", "x", "~ [a]", "", ""] :=
    hlines ▸ .keep (.keep (.keep (.keep (.drop hannotation (.drop hlegend (.keep .nil))))))
  have hleft : Fixture.parse (Text.joinLines ["[a]: m", "x", "~ [a]", "", ""]) =
      .ok ⟨["x", "", ""], [⟨0, 0, some 1, "m", none⟩], ⟨[⟨"a", "m", 1⟩]⟩⟩ := by cbv
  obtain ⟨⟨g, hg, hsource, hexpected, -⟩, hkept⟩ := parse_cleaned h
  exact ⟨_, h, hcleared, g, _, hg, hleft, hexpected, List.cons_ne_nil _ _, hsource,
    (hkept _ hcleared (List.cons_ne_nil _ _)).2 _ hleft⟩

end LintFixture
