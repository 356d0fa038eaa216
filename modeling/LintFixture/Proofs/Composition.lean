import LintFixture.Proofs.Renumbering

/-!
# Arranging the lines of a fixture

Where a line stands matters for source lines and annotations, in their order, and for nothing else.
A legend line adds neither to the source nor to what is above an annotation, so it may stand
anywhere (`IsOf.moved`). And a fixture may stand below another one: its annotations have the source
of the other one above their own, and its tags go on meaning what they meant, provided that the
other one does not define them (`IsOf.append`).

Both are facts about rows without numbers, since all numbers change.

Headlines:
* `parse_legend_anywhere`: legend lines may be moved.
* `parse_append`: a text put below another one is read like both of them.
-/

namespace LintFixture

/-! ## Legend lines -/

namespace Line

/-- The text is a legend line. -/
def isLegend (text : String) : Bool :=
  match classify text 0 with
  | .ok (.legend ..) => true
  | _ => false

variable {text : String}

/-- A legend line is no source and has no marks. -/
theorem parts_of_isLegend (h : isLegend text = true) :
    isSource text = false ∧ marksOf text 0 = [] := by
  unfold isLegend at h
  split at h
  · rename_i t entry hlegend
    obtain ⟨hs, hm, -⟩ := parts_of_legend hlegend
    exact ⟨hs, hm⟩
  · cases h

end Line

/-- Two lists of lines differ in the order and the places of their legend lines only. -/
structure LegendsMoved (lines₁ lines₂ : List String) : Prop where
  others : lines₁.filter (fun text => !Line.isLegend text) =
    lines₂.filter fun text => !Line.isLegend text
  legends : (lines₁.filter Line.isLegend).Perm (lines₂.filter Line.isLegend)

namespace LegendsMoved

variable {lines₁ lines₂ : List String}

theorem symm (h : LegendsMoved lines₁ lines₂) : LegendsMoved lines₂ lines₁ :=
  ⟨h.others.symm, h.legends.symm⟩

theorem perm (h : LegendsMoved lines₁ lines₂) : lines₁.Perm lines₂ := by
  have hparts := fun lines : List String => List.filter_append_perm Line.isLegend lines
  refine (hparts lines₁).symm.trans (.trans ?_ (hparts lines₂))
  rw [h.others]
  exact h.legends.append_right _

end LegendsMoved

theorem filter_isSource_others (lines : List String) :
    (lines.filter fun text => !Line.isLegend text).filter Line.isSource =
      lines.filter Line.isSource := by
  rw [List.filter_filter]
  refine List.filter_congr fun text _ => ?_
  cases h : Line.isLegend text with
  | false => simp
  | true => simp [(Line.parts_of_isLegend h).1]

/-- **Legend lines have no part in annotations.** -/
theorem annotations_others (lines : List String) :
    annotations (unnumbered (lines.filter fun text => !Line.isLegend text)) =
      annotations (unnumbered lines) := by
  induction lines using List.reverseRecOn with
  | nil => rfl
  | append_singleton lines text ih =>
    rw [List.filter_append, unnumbered_concat, annotations_concat]
    cases h : Line.isLegend text with
    | false =>
      have hkept : [text].filter (fun text => !Line.isLegend text) = [text] := by simp [h]
      rw [hkept, unnumbered_concat, annotations_concat, ih, sources_unnumbered,
        filter_isSource_others, sources_unnumbered]
    | true =>
      have hdropped : [text].filter (fun text => !Line.isLegend text) = [] := by simp [h]
      rw [hdropped, List.append_nil, ih, Nat.cast_zero, (Line.parts_of_isLegend h).2,
        List.map_nil, List.append_nil]

namespace LegendsMoved

variable {lines₁ lines₂ : List String} (h : LegendsMoved lines₁ lines₂)

include h

theorem filter_isSource : lines₁.filter Line.isSource = lines₂.filter Line.isSource := by
  rw [← filter_isSource_others, h.others, filter_isSource_others]

theorem annotations_eq : annotations (unnumbered lines₁) = annotations (unnumbered lines₂) := by
  rw [← annotations_others, h.others, annotations_others]

theorem definitions_perm :
    (definitions (unnumbered lines₁)).Perm (definitions (unnumbered lines₂)) :=
  (h.perm.map (Row.mk 0)).filterMap _

theorem readable (hreadable : Readable (unnumbered lines₁)) : Readable (unnumbered lines₂) := by
  obtain ⟨hj, ha, ho⟩ := hreadable
  refine ⟨fun row hrow => ?_, h.annotations_eq ▸ ha, ?_⟩
  · exact hj row ((h.perm.map (Row.mk 0)).mem_iff.mpr hrow)
  · exact (h.definitions_perm.map (·.tag)).nodup_iff.mp ho

end LegendsMoved

/-- **A fixture whose legend lines are moved** has its definitions in another order. -/
theorem Fixture.IsOf.moved {lines₁ lines₂ : List String} {f : Fixture} (hf : f.IsOf lines₁)
    (h : LegendsMoved lines₁ lines₂) :
    IsOf ⟨f.sourceLines, f.expected, ⟨definitions (unnumbered lines₂)⟩⟩ lines₂ := by
  obtain ⟨hreadable, hsource, -, hexpected⟩ := hf
  refine ⟨h.readable hreadable, hsource.trans h.filter_isSource, rfl, ?_⟩
  rw [← h.annotations_eq]
  refine hexpected.imp fun a d hd => hd.mono fun x hx => ?_
  exact (h.definitions_perm.map fun e => (e.tag, e.message)).mem_iff.mp hx

/-! ## Legends as mappings -/

namespace Legend

theorem tags_eq (l : Legend) : l.tags = l.messages.map Prod.fst := by
  simp [tags, messages, Function.comp_def]

theorem error_of_resolve {l : Legend} {tag : String} {n : Int} {e : FixtureError}
    (h : l.resolve tag n = .error e) : e = .unresolvedTag tag n := by
  unfold resolve at h
  split at h
  · cases h
  · cases h
    rfl

/-- Tags that are defined once are resolved alike, whatever the order of the definitions. -/
theorem resolve_perm {l l' : Legend} (h : l.tags.Nodup) (hperm : l.messages.Perm l'.messages)
    (tag : String) (n : Int) : l.resolve tag n = l'.resolve tag n := by
  have h' : l'.tags.Nodup := by
    rw [tags_eq] at h ⊢
    exact (hperm.map Prod.fst).nodup_iff.mp h
  have hiff : ∀ message, l.resolve tag n = .ok message ↔ l'.resolve tag n = .ok message :=
    fun message => by rw [resolve_eq_ok_iff h, resolve_eq_ok_iff h', hperm.mem_iff]
  cases hr : l.resolve tag n with
  | ok message => exact ((hiff message).mp hr).symm
  | error e =>
    cases hr' : l'.resolve tag n with
    | ok message =>
      rw [(hiff message).mpr hr'] at hr
      cases hr
    | error e' => rw [error_of_resolve hr, error_of_resolve hr']

end Legend

theorem Fixture.IsOf.tags {lines : List String} {f : Fixture} (h : f.IsOf lines) :
    f.legend.tags = (definitions (unnumbered lines)).map (·.tag) := by
  rw [Legend.tags_eq, h.messages, ← Legend.tags_eq, Legend.tags]

/-- Two fixtures hold the same, their legends taken as mappings. -/
structure Fixture.SameContent (f g : Fixture) : Prop where
  source : f.source = g.source
  expected : f.expected = g.expected
  legend : ∀ tag n, f.legend.resolve tag n = g.legend.resolve tag n

theorem ofLines_moved {lines₁ lines₂ : List String} (h : LegendsMoved lines₁ lines₂)
    {f₁ : Fixture} (hf₁ : Fixture.ofLines lines₁ = .ok f₁) :
    ∃ f₂, Fixture.ofLines lines₂ = .ok f₂ ∧ f₁.SameContent f₂ := by
  have hof := isOf_of_ofLines hf₁
  obtain ⟨f₂, hf₂, hsame⟩ := exists_ofLines_iff.mpr (hof.moved h)
  have honce : f₁.legend.tags.Nodup := by
    rw [hof.tags]
    exact hof.readable.once
  refine ⟨f₂, hf₂, congrArg Text.joinLines hsame.sourceLines, hsame.expected,
    Legend.resolve_perm honce ?_⟩
  rw [hof.messages, ← hsame.messages]
  exact h.definitions_perm.map fun e => (e.tag, e.message)

theorem parse_joinLines {lines : List String} (hne : lines ≠ [])
    (hfeed : ∀ line ∈ lines, '\n' ∉ line.toList) :
    Fixture.parse (Text.joinLines lines) = Fixture.ofLines lines := by
  rw [Fixture.parse, Text.splitLines_joinLines hne hfeed]

theorem parse_moved {lines₁ lines₂ : List String} (hfeed : ∀ line ∈ lines₁, '\n' ∉ line.toList)
    (h : LegendsMoved lines₁ lines₂) {f₁ : Fixture}
    (hf₁ : Fixture.parse (Text.joinLines lines₁) = .ok f₁) :
    ∃ f₂, Fixture.parse (Text.joinLines lines₂) = .ok f₂ ∧ f₁.SameContent f₂ := by
  by_cases hne : lines₁ = []
  · -- There is nothing to move.
    have hnil : lines₂ = [] := List.nil_perm.mp (hne ▸ h.perm)
    rw [hne] at hf₁
    rw [hnil]
    exact ⟨f₁, hf₁, rfl, rfl, fun _ _ => rfl⟩
  · have hne₂ : lines₂ ≠ [] := fun hnil => hne (List.perm_nil.mp (hnil ▸ h.perm))
    rw [parse_joinLines hne hfeed] at hf₁
    rw [parse_joinLines hne₂ fun line hline => hfeed line (h.perm.mem_iff.mpr hline)]
    exact ofLines_moved h hf₁

/-- **Legend lines may stand anywhere.** Of two lists of lines that differ in the order and the
places of their legend lines only, both can be read or none, and they are read as the same source,
with the same expected diagnostics and the same legend. -/
theorem parse_legend_anywhere {lines₁ lines₂ : List String}
    (hfeed : ∀ line ∈ lines₁, '\n' ∉ line.toList) (h : LegendsMoved lines₁ lines₂) :
    ((∃ f, Fixture.parse (Text.joinLines lines₁) = .ok f) ↔
      ∃ f, Fixture.parse (Text.joinLines lines₂) = .ok f) ∧
    ∀ f₁ f₂, Fixture.parse (Text.joinLines lines₁) = .ok f₁ →
      Fixture.parse (Text.joinLines lines₂) = .ok f₂ → f₁.SameContent f₂ := by
  have hfeed₂ : ∀ line ∈ lines₂, '\n' ∉ line.toList := fun line hline =>
    hfeed line (h.perm.mem_iff.mpr hline)
  refine ⟨⟨?_, ?_⟩, fun f₁ f₂ hf₁ hf₂ => ?_⟩
  · rintro ⟨f, hf⟩
    obtain ⟨g, hg, -⟩ := parse_moved hfeed h hf
    exact ⟨g, hg⟩
  · rintro ⟨f, hf⟩
    obtain ⟨g, hg, -⟩ := parse_moved hfeed₂ h.symm hf
    exact ⟨g, hg⟩
  · obtain ⟨g, hg, hsame⟩ := parse_moved hfeed h hf₁
    obtain rfl := Except.ok.inj (hg.symm.trans hf₂)
    exact hsame

/-- Two definitions that stand before the source and in the middle of it, and behind it in the other
order. -/
theorem parse_legend_anywhere_two_tags :
    LegendsMoved ["[a]: m", "x", "[b]: n", "~ [a]  ~~ [b]", "y"]
      ["x", "~ [a]  ~~ [b]", "y", "[b]: n", "[a]: m"] ∧
    ∃ f₁ f₂,
      Fixture.parse (Text.joinLines ["[a]: m", "x", "[b]: n", "~ [a]  ~~ [b]", "y"]) = .ok f₁ ∧
      Fixture.parse (Text.joinLines ["x", "~ [a]  ~~ [b]", "y", "[b]: n", "[a]: m"]) = .ok f₂ ∧
      f₁.legend ≠ f₂.legend ∧ f₁.SameContent f₂ := by
  have hmoved : LegendsMoved ["[a]: m", "x", "[b]: n", "~ [a]  ~~ [b]", "y"]
      ["x", "~ [a]  ~~ [b]", "y", "[b]: n", "[a]: m"] := by
    have h₁ : ["[a]: m", "x", "[b]: n", "~ [a]  ~~ [b]", "y"].filter Line.isLegend =
        ["[a]: m", "[b]: n"] := by cbv
    have h₂ : ["x", "~ [a]  ~~ [b]", "y", "[b]: n", "[a]: m"].filter Line.isLegend =
        ["[b]: n", "[a]: m"] := by cbv
    refine ⟨by cbv, ?_⟩
    rw [h₁, h₂]
    exact .swap _ _ _
  have hf₁ : Fixture.parse (Text.joinLines ["[a]: m", "x", "[b]: n", "~ [a]  ~~ [b]", "y"]) =
      .ok ⟨["x", "y"], [⟨0, 0, some 1, "m", none⟩, ⟨0, 7, some 2, "n", none⟩],
        ⟨[⟨"a", "m", 1⟩, ⟨"b", "n", 3⟩]⟩⟩ := by cbv
  have hf₂ : Fixture.parse (Text.joinLines ["x", "~ [a]  ~~ [b]", "y", "[b]: n", "[a]: m"]) =
      .ok ⟨["x", "y"], [⟨0, 0, some 1, "m", none⟩, ⟨0, 7, some 2, "n", none⟩],
        ⟨[⟨"b", "n", 4⟩, ⟨"a", "m", 5⟩]⟩⟩ := by cbv
  exact ⟨hmoved, _, _, hf₁, hf₂, by decide,
    (parse_legend_anywhere (by decide) hmoved).2 _ _ hf₁ hf₂⟩

/-! ## One fixture below another -/

section Append

variable (rows more : List Row)

theorem sources_append : sources (rows ++ more) = sources rows ++ sources more := by
  unfold sources
  rw [List.map_append, List.filter_append]

theorem definitions_append : definitions (rows ++ more) = definitions rows ++ definitions more :=
  List.filterMap_append

/-- The annotation with further source lines above it. -/
def Annotation.below (above : List String) (a : Annotation) : Annotation :=
  { a with above := above ++ a.above }

/-- Annotations of rows that come after others have the source of these above them. -/
theorem annotations_append : annotations (rows ++ more) =
    annotations rows ++ (annotations more).map (·.below (sources rows)) := by
  induction more using List.reverseRecOn with
  | nil =>
    rw [List.append_nil]
    exact (List.append_nil _).symm
  | append_singleton more row ih =>
    rw [← List.append_assoc, annotations_concat, ih, annotations_concat, sources_append]
    simp [Function.comp_def, Annotation.below]

end Append

theorem Readable.append {rows more : List Row} (hrows : Readable rows) (hmore : Readable more)
    (hdisjoint : ((definitions rows).map (·.tag)).Disjoint ((definitions more).map (·.tag))) :
    Readable (rows ++ more) := by
  constructor
  case judged =>
    intro row hrow
    rcases List.mem_append.mp hrow with h | h
    · exact hrows.judged row h
    · exact hmore.judged row h
  case anchored =>
    intro a ha
    rw [annotations_append, List.mem_append] at ha
    rcases ha with ha | ha
    · exact hrows.anchored a ha
    · obtain ⟨b, hb, rfl⟩ := List.mem_map.mp ha
      simp [hmore.anchored b hb, Annotation.below]
  case once =>
    rw [definitions_append, List.map_append]
    exact hrows.once.append hmore.once hdisjoint

/-- The diagnostic on a line further down. -/
def Diagnostic.movedDown (n : Nat) (d : Diagnostic) : Diagnostic := { d with line := d.line + n }

theorem Expects.below {legend : Legend} {a : Annotation} {d : Diagnostic} (h : Expects legend a d)
    (hne : a.above ≠ []) (above : List String) :
    Expects legend (a.below above) (d.movedDown above.length) := by
  refine ⟨?_, h.column, h.width, h.message, h.rule⟩
  have hpos := List.length_pos_iff.mpr hne
  have hline := h.line
  simp only [Diagnostic.movedDown, Annotation.below, List.length_append]
  omega

/-- One fixture below another. -/
def Fixture.append (f g : Fixture) : Fixture where
  sourceLines := f.sourceLines ++ g.sourceLines
  expected := f.expected ++ g.expected.map (·.movedDown f.sourceLines.length)
  legend := ⟨f.legend.entries ++ g.legend.entries⟩

theorem Legend.messages_append (entries more : List LegendEntry) :
    messages ⟨entries ++ more⟩ = messages ⟨entries⟩ ++ messages ⟨more⟩ :=
  List.map_append

/-- **A fixture below another one** is that of the lines of both, one below the other. -/
theorem Fixture.IsOf.append {lines₁ lines₂ : List String} {f₁ f₂ : Fixture} (h₁ : f₁.IsOf lines₁)
    (h₂ : f₂.IsOf lines₂) (hdisjoint : f₁.legend.tags.Disjoint f₂.legend.tags) :
    (f₁.append f₂).IsOf (lines₁ ++ lines₂) := by
  have hmessages : (f₁.append f₂).legend.messages =
      Legend.messages ⟨definitions (unnumbered (lines₁ ++ lines₂))⟩ := by
    rw [unnumbered_append, definitions_append, Legend.messages_append, Fixture.append,
      Legend.messages_append, ← h₁.messages, ← h₂.messages]
  rw [h₁.tags, h₂.tags] at hdisjoint
  constructor
  case readable =>
    rw [unnumbered_append]
    exact h₁.readable.append h₂.readable hdisjoint
  case sourceLines => rw [Fixture.append, List.filter_append, h₁.sourceLines, h₂.sourceLines]
  case messages => exact hmessages
  case expected =>
    -- Each part goes on under the legend of both, the second one with the first source above it.
    rw [unnumbered_append, annotations_append, definitions_append, Fixture.append,
      sources_unnumbered, ← h₁.sourceLines]
    refine List.rel_append ?_ ?_
    · exact h₁.expected.imp fun a d hd => hd.mono fun x hx => by
        rw [Legend.messages_append]
        exact List.mem_append_left _ hx
    · rw [List.forall₂_map_left_iff, List.forall₂_map_right_iff]
      refine ((List.forall₂_and_left _ _).mpr ⟨h₂.readable.anchored, h₂.expected⟩).imp ?_
      rintro a d ⟨hne, hd⟩
      refine (hd.below hne f₁.sourceLines).mono fun x hx => ?_
      rw [Legend.messages_append]
      exact List.mem_append_right _ hx

/-- **A text below another one** is read like both of them, if both have a source line and no tag is
defined in both: the sources and the legends are put together, and what the second text expects is
expected further down by the number of source lines of the first one. -/
theorem parse_append {t₁ t₂ : String} {f₁ f₂ : Fixture} (h₁ : Fixture.parse t₁ = .ok f₁)
    (h₂ : Fixture.parse t₂ = .ok f₂)
    (hsource₁ : ∃ line ∈ Text.splitLines t₁, SourceLine line.toList)
    (hsource₂ : ∃ line ∈ Text.splitLines t₂, SourceLine line.toList)
    (hdisjoint : f₁.legend.tags.Disjoint f₂.legend.tags) :
    ∃ f, Fixture.parse (t₁ ++ "\n" ++ t₂) = .ok f ∧
      f.source = f₁.source ++ "\n" ++ f₂.source ∧
      f.expected = f₁.expected ++
        f₂.expected.map (·.movedDown ((Text.splitLines t₁).countP Line.isSource)) ∧
      f.legend.messages = f₁.legend.messages ++ f₂.legend.messages := by
  have hof₁ := isOf_of_ofLines h₁
  have hof₂ := isOf_of_ofLines h₂
  obtain ⟨f, hf, hsame⟩ := exists_ofLines_iff.mpr (hof₁.append hof₂ hdisjoint)
  have hne : ∀ {t : String} {g : Fixture}, g.IsOf (Text.splitLines t) →
      (∃ line ∈ Text.splitLines t, SourceLine line.toList) → g.sourceLines ≠ [] := by
    rintro t g hg ⟨line, hline, hsource⟩
    rw [hg.sourceLines]
    exact List.ne_nil_of_mem (List.mem_filter.mpr ⟨hline, Line.isSource_iff.mpr hsource⟩)
  refine ⟨f, ?_, ?_, ?_, ?_⟩
  · rw [Fixture.parse, Text.splitLines_append]
    exact hf
  · rw [Fixture.source, ← hsame.sourceLines]
    exact Text.joinLines_append (hne hof₁ hsource₁) (hne hof₂ hsource₂)
  · rw [← hsame.expected, List.countP_eq_length_filter, ← hof₁.sourceLines]
    rfl
  · rw [← hsame.messages]
    exact Legend.messages_append _ _

/-- The first text ends in an empty line, and an annotation stands on the first line of the second
one. -/
theorem parse_append_empty_line :
    ∃ f₁ f₂, Fixture.parse "x\n~ [a]\n[a]: m\n" = .ok f₁ ∧
      Fixture.parse "y\n ~~ [b]\n[b]: n" = .ok f₂ ∧
      ∃ f, Fixture.parse ("x\n~ [a]\n[a]: m\n" ++ "\n" ++ "y\n ~~ [b]\n[b]: n") = .ok f ∧
        f.source = "x\n" ++ "\n" ++ "y" ∧
        f.expected = [⟨0, 0, some 1, "m", none⟩, ⟨2, 1, some 2, "n", none⟩] ∧
        f.legend.messages = [("a", "m"), ("b", "n")] := by
  have h₁ : Fixture.parse "x\n~ [a]\n[a]: m\n" =
      .ok ⟨["x", ""], [⟨0, 0, some 1, "m", none⟩], ⟨[⟨"a", "m", 3⟩]⟩⟩ := by cbv
  have h₂ : Fixture.parse "y\n ~~ [b]\n[b]: n" =
      .ok ⟨["y"], [⟨0, 1, some 2, "n", none⟩], ⟨[⟨"b", "n", 3⟩]⟩⟩ := by cbv
  have hcount : (Text.splitLines "x\n~ [a]\n[a]: m\n").countP Line.isSource = 2 := by cbv
  have hsource₁ : ∃ line ∈ Text.splitLines "x\n~ [a]\n[a]: m\n", SourceLine line.toList :=
    ⟨"x", by decide, Line.isSource_iff.mp (by cbv)⟩
  have hsource₂ : ∃ line ∈ Text.splitLines "y\n ~~ [b]\n[b]: n", SourceLine line.toList :=
    ⟨"y", by decide, Line.isSource_iff.mp (by cbv)⟩
  obtain ⟨f, hf, hs, he, hm⟩ := parse_append h₁ h₂ hsource₁ hsource₂ (by simp [Legend.tags])
  refine ⟨_, _, h₁, h₂, f, hf, hs, ?_, hm⟩
  rw [he, hcount]
  rfl

end LintFixture
