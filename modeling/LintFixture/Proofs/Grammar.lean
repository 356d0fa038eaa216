import LintFixture.Fixture.Line
import Mathlib.Data.List.TakeWhile

/-!
# The grammar of fixture lines

The languages of fixture lines, written without a scanner. An annotation line is the rendering of
a well-formed `GroupLine`: blanks, groups with a blank at least between two of them, and blanks. A
legend line is a tag in brackets at its start, a colon, a space and a message. Two wider languages
hold the lines that are refused where they are neither: `AnnotationLike` and `LegendLike`.

Every scanner is the inverse of a rendering, and no rendering has two readings, because tildes,
blanks, brackets and tag characters are four disjoint sets and each scanner takes the longest run.

Results:
* `Group.scan?_eq_some_iff`, `GroupLine.scan?_eq_some_iff`: what is read is well-formed and renders
  to the text, and every well-formed text is read.
* `scanLegend?_eq_some_iff`, `isAnnotationLike_iff`: the same for legend lines and for lines that
  only start like an annotation.
* `not_legendLine_of_annotationLine`: no line is both.
* `classify_grammar`: the four outcomes of `Line.classify` are the four parts into which the
  languages cut the lines without line feed.
-/

namespace LintFixture

/-! ## The longest run at the start of a list -/

/-- Where a run of characters ends before one of another kind, taking and dropping while cut the
list there. -/
theorem span_run {α : Type} {p : α → Bool} {run rest : List α} (hrun : ∀ c ∈ run, p c = true)
    (hrest : ∀ c ∈ rest.head?, p c = false) :
    (run ++ rest).takeWhile p = run ∧ (run ++ rest).dropWhile p = rest := by
  rw [List.takeWhile_append_of_pos hrun, List.dropWhile_append_of_pos hrun]
  cases rest with
  | nil => simp
  | cons c rest =>
    have hc : ¬ p c = true := by simp [hrest c rfl]
    rw [List.takeWhile_cons_of_neg hc, List.dropWhile_cons_of_neg hc, List.append_nil]
    exact ⟨rfl, rfl⟩

/-! ## Tags and runs of blanks -/

/-- A tag: at least one character, each of them a tag character. -/
def IsTag (tag : List Char) : Prop := tag ≠ [] ∧ ∀ c ∈ tag, isTagChar c = true

/-- A run of blanks, which may be empty. -/
def IsGapRun (cs : List Char) : Prop := ∀ c ∈ cs, isGap c = true

-- The search for an instance would enumerate all characters instead of those of the list.
instance (cs : List Char) : Decidable (IsGapRun cs) := List.decidableBAll _ cs

instance (tag : List Char) : Decidable (IsTag tag) :=
  @instDecidableAnd _ _ inferInstance (List.decidableBAll _ tag)

theorem isGapRun_takeWhile (cs : List Char) : IsGapRun (cs.takeWhile isGap) :=
  fun _ hc => List.mem_takeWhile_imp hc

theorem isTag_takeWhile {cs : List Char} (h : cs.takeWhile isTagChar ≠ []) :
    IsTag (cs.takeWhile isTagChar) :=
  ⟨h, fun _ hc => List.mem_takeWhile_imp hc⟩

/-- A tag ends at its closing bracket. -/
theorem span_tag {tag : List Char} (h : IsTag tag) (rest : List Char) :
    (tag ++ ']' :: rest).takeWhile isTagChar = tag ∧
      (tag ++ ']' :: rest).dropWhile isTagChar = ']' :: rest := by
  refine span_run h.2 fun c hc => ?_
  obtain rfl : ']' = c := by simpa using hc
  decide

/-! ## Groups -/

namespace Group

/-- A group as it has to be written: a tilde at least, a blank at least, and a tag. -/
structure WellFormed (g : Group) : Prop where
  tildes : 0 < g.tildes
  gap_ne_nil : g.gap ≠ []
  gap : IsGapRun g.gap
  tag : IsTag g.tag

theorem render_append (g : Group) (rest : List Char) :
    g.render ++ rest = List.replicate g.tildes '~' ++ (g.gap ++ '[' :: (g.tag ++ ']' :: rest)) := by
  simp [render]

/-- A well-formed group starts with a tilde. -/
theorem head?_render {g : Group} (h : g.WellFormed) (rest : List Char) :
    (g.render ++ rest).head? = some '~' := by
  obtain ⟨n, hn⟩ := Nat.exists_eq_succ_of_ne_zero h.tildes.ne'
  rw [render_append, hn, List.replicate_succ]
  rfl

/-- The tildes of a group end at a blank, the blanks at the bracket. -/
theorem span_gap {gap : List Char} (h : IsGapRun gap) (rest : List Char) :
    (gap ++ '[' :: rest).takeWhile isGap = gap ∧
      (gap ++ '[' :: rest).dropWhile isGap = '[' :: rest := by
  refine span_run h fun c hc => ?_
  obtain rfl : '[' = c := by simpa using hc
  decide

theorem span_tildes (n : Nat) {gap : List Char} (hne : gap ≠ []) (h : IsGapRun gap)
    (rest : List Char) :
    (List.replicate n '~' ++ (gap ++ rest)).takeWhile (· == '~') = List.replicate n '~' ∧
      (List.replicate n '~' ++ (gap ++ rest)).dropWhile (· == '~') = gap ++ rest := by
  refine span_run (fun c hc => by simpa using (List.mem_replicate.mp hc).2) fun c hc => ?_
  obtain ⟨b, bs, rfl⟩ := List.exists_cons_of_ne_nil hne
  obtain rfl : b = c := by simpa using hc
  have hb : isGap b = true := h b List.mem_cons_self
  by_contra hc
  rw [Bool.not_eq_false, beq_iff_eq] at hc
  rw [hc] at hb
  exact absurd hb (by decide)

theorem takeWhile_tildes (cs : List Char) :
    cs.takeWhile (· == '~') = List.replicate (cs.takeWhile (· == '~')).length '~' :=
  List.eq_replicate_of_mem fun c hc => by simpa using List.mem_takeWhile_imp hc

/-- A rendered group is read, whatever follows it. -/
theorem scan?_render {g : Group} (h : g.WellFormed) (rest : List Char) :
    scan? (g.render ++ rest) = some (g, rest) := by
  obtain ⟨ht, hd⟩ := span_tildes g.tildes h.gap_ne_nil h.gap ('[' :: (g.tag ++ ']' :: rest))
  obtain ⟨hgt, hgd⟩ := span_gap h.gap (g.tag ++ ']' :: rest)
  obtain ⟨htt, htd⟩ := span_tag h.tag rest
  have hn : (List.replicate g.tildes '~').isEmpty = false := by
    simpa using h.tildes.ne'
  have hg : g.gap.isEmpty = false := by simpa using h.gap_ne_nil
  have htag : g.tag.isEmpty = false := by simpa using h.tag.1
  rw [render_append]
  simp only [scan?, ht, hd, hgt, hgd, htt, htd, hn, hg, htag, List.length_replicate,
    Bool.or_self, Bool.false_eq_true, if_false]

/-- What is read is a well-formed group at the start of the text. -/
theorem wellFormed_of_scan? {cs rest : List Char} {g : Group} (h : scan? cs = some (g, rest)) :
    g.WellFormed ∧ cs = g.render ++ rest := by
  unfold scan? at h
  simp only at h
  split at h
  · rename_i inside hOpen
    split at h
    · rename_i after hClose
      split at h
      · cases h
      · rename_i hne
        simp only [Bool.or_eq_true, List.isEmpty_iff, not_or] at hne
        obtain ⟨⟨hTildes, hGap⟩, hTag⟩ := hne
        cases h
        refine ⟨⟨List.length_pos_iff.mpr hTildes, hGap, isGapRun_takeWhile _,
          isTag_takeWhile hTag⟩, ?_⟩
        rw [render_append, ← hClose, List.takeWhile_append_dropWhile, ← hOpen,
          List.takeWhile_append_dropWhile, ← takeWhile_tildes, List.takeWhile_append_dropWhile]
    · cases h
  · cases h

/-- **Reading a group inverts its rendering.** -/
theorem scan?_eq_some_iff {cs rest : List Char} {g : Group} :
    scan? cs = some (g, rest) ↔ g.WellFormed ∧ cs = g.render ++ rest :=
  ⟨wellFormed_of_scan?, fun ⟨hg, hcs⟩ => hcs ▸ scan?_render hg rest⟩

end Group

/-! ## Annotation lines -/

namespace GroupLine

/-- Groups, each with the blanks before it, where only the group that opens a line (`first`) may
stand without a blank before it. -/
inductive Chain : (first : Bool) → List (List Char × Group) → Prop
  | nil {first} : Chain first []
  | cons {first blanks group rest} : IsGapRun blanks → (first = true ∨ blanks ≠ []) →
      group.WellFormed → Chain false rest → Chain first ((blanks, group) :: rest)

/-- An annotation line as it has to be written: a group at least, the groups apart, and blanks at
the end. -/
structure WellFormed (a : GroupLine) : Prop where
  groups_ne_nil : a.groups ≠ []
  chain : Chain true a.groups
  trail : IsGapRun a.trail

theorem render_cons (blanks : List Char) (group : Group) (rest : List (List Char × Group))
    (trail : List Char) :
    render ⟨(blanks, group) :: rest, trail⟩ =
      blanks ++ (group.render ++ render ⟨rest, trail⟩) := by
  simp [render]

/-- The blanks before a group end at its first tilde. -/
theorem span_blanks {blanks : List Char} (hb : IsGapRun blanks) {group : Group}
    (hg : group.WellFormed) (rest : List Char) :
    (blanks ++ (group.render ++ rest)).takeWhile isGap = blanks ∧
      (blanks ++ (group.render ++ rest)).dropWhile isGap = group.render ++ rest := by
  refine span_run hb fun c hc => ?_
  rw [Group.head?_render hg] at hc
  obtain rfl : '~' = c := by simpa using hc
  decide

/-- Where a group follows the blanks, it is read and the line goes on behind it. -/
theorem scanFrom_of_group {first : Bool} {cs rest : List Char} {group : Group}
    (h : Group.scan? (cs.dropWhile isGap) = some (group, rest)) :
    scanFrom first cs =
      if !first && (cs.takeWhile isGap).isEmpty then none
      else (scanFrom false rest).map fun a =>
        ⟨(cs.takeWhile isGap, group) :: a.groups, a.trail⟩ := by
  rw [scanFrom]
  split
  · rename_i g after h'
    rw [h] at h'
    cases h'
    rfl
  · rename_i h'
    rw [h] at h'
    cases h'

/-- Where none follows the blanks, the line has to end. -/
theorem scanFrom_of_no_group {first : Bool} {cs : List Char}
    (h : Group.scan? (cs.dropWhile isGap) = none) :
    scanFrom first cs =
      if (cs.dropWhile isGap).isEmpty then some ⟨[], cs.takeWhile isGap⟩ else none := by
  rw [scanFrom]
  split
  · rename_i g after h'
    rw [h] at h'
    cases h'
  · rfl

/-- Rendered groups are read to the end of the line. -/
theorem scanFrom_render {trail : List Char} (ht : IsGapRun trail) :
    ∀ {first : Bool} {groups : List (List Char × Group)}, Chain first groups →
      scanFrom first (render ⟨groups, trail⟩) = some ⟨groups, trail⟩
  | first, [], _ => by
    have hrender : render ⟨[], trail⟩ = trail := rfl
    have hdrop : trail.dropWhile isGap = [] := List.dropWhile_eq_nil_iff.mpr ht
    have htake : trail.takeWhile isGap = trail := List.takeWhile_eq_self_iff.mpr ht
    rw [hrender, scanFrom_of_no_group (by rw [hdrop]; rfl), hdrop, htake]
    rfl
  | first, (blanks, group) :: rest, .cons hb hapart hg hrest => by
    obtain ⟨htake, hdrop⟩ := span_blanks hb hg (render ⟨rest, trail⟩)
    have hscan := Group.scan?_render hg (render ⟨rest, trail⟩)
    have hblank : (!first && blanks.isEmpty) = false := by
      rcases hapart with rfl | hne
      · rfl
      · simp [hne]
    rw [render_cons, scanFrom_of_group (by rw [hdrop]; exact hscan), htake, hblank,
      scanFrom_render ht hrest]
    rfl

/-- What is read are groups apart from each other and blanks, and they are the whole line. -/
theorem chain_of_scanFrom {first : Bool} {cs : List Char} {a : GroupLine}
    (h : scanFrom first cs = some a) :
    Chain first a.groups ∧ IsGapRun a.trail ∧ cs = a.render := by
  have hsplit := List.takeWhile_append_dropWhile (p := isGap) (l := cs)
  cases hscan : Group.scan? (cs.dropWhile isGap) with
  | none =>
    rw [scanFrom_of_no_group hscan] at h
    split at h
    · rename_i hend
      cases h
      have hdrop : cs.dropWhile isGap = [] := by simpa using hend
      refine ⟨.nil, isGapRun_takeWhile cs, ?_⟩
      rw [hdrop, List.append_nil] at hsplit
      exact hsplit.symm
    · cases h
  | some found =>
    obtain ⟨group, rest⟩ := found
    obtain ⟨hg, hcs⟩ := Group.wellFormed_of_scan? hscan
    rw [scanFrom_of_group hscan] at h
    split at h
    · cases h
    · rename_i hclash
      obtain ⟨b, hb, rfl⟩ := Option.map_eq_some_iff.mp h
      obtain ⟨hc, ht, hr⟩ := chain_of_scanFrom hb
      have hapart : first = true ∨ cs.takeWhile isGap ≠ [] := by
        cases first with
        | true => exact Or.inl rfl
        | false => exact Or.inr fun he => hclash (by rw [he]; rfl)
      refine ⟨.cons (isGapRun_takeWhile cs) hapart hg hc, ht, ?_⟩
      rw [render_cons, ← hr, ← hcs, hsplit]
-- The recursion follows the groups, so what shrinks is the text behind the group that was read.
termination_by cs.length
decreasing_by
  have hlt := Group.length_lt_of_scan? hscan
  have hle := (List.dropWhile_sublist isGap (l := cs)).length_le
  omega

/-- **Reading an annotation line inverts its rendering.** -/
theorem scan?_eq_some_iff {cs : List Char} {a : GroupLine} :
    scan? cs = some a ↔ a.WellFormed ∧ cs = a.render := by
  unfold scan?
  rw [Option.filter_eq_some_iff]
  constructor
  · rintro ⟨h, hne⟩
    obtain ⟨hc, ht, hr⟩ := chain_of_scanFrom h
    exact ⟨⟨by simpa using hne, hc, ht⟩, hr⟩
  · rintro ⟨h, rfl⟩
    exact ⟨scanFrom_render h.trail h.chain, by simpa using h.groups_ne_nil⟩

end GroupLine

/-- The annotation lines. -/
def AnnotationLine (cs : List Char) : Prop := ∃ a : GroupLine, a.WellFormed ∧ cs = a.render

theorem annotationLine_iff {cs : List Char} :
    AnnotationLine cs ↔ ∃ a, GroupLine.scan? cs = some a := by
  simp only [AnnotationLine, GroupLine.scan?_eq_some_iff]

/-- An annotation line starts with a blank or a tilde. -/
theorem head?_of_annotationLine {cs : List Char} (h : AnnotationLine cs) :
    ∃ c, cs.head? = some c ∧ (isGap c = true ∨ c = '~') := by
  obtain ⟨⟨groups, trail⟩, hwf, rfl⟩ := h
  obtain ⟨first, rest, rfl⟩ := List.exists_cons_of_ne_nil hwf.groups_ne_nil
  cases hwf.chain with
  | @cons _ blanks group _ hb _ hg _ =>
    rw [GroupLine.render_cons]
    cases blanks with
    | nil => exact ⟨'~', Group.head?_render hg _, Or.inr rfl⟩
    | cons c blanks => exact ⟨c, rfl, Or.inl (hb c List.mem_cons_self)⟩

/-! ## Legend lines -/

/-- The legend lines with their tag and their message. -/
def LegendLine (tag message cs : List Char) : Prop :=
  IsTag tag ∧ cs = '[' :: (tag ++ ']' :: ':' :: ' ' :: message)

/-- The lines that start like a legend line: a tag in brackets and a colon. -/
def LegendLike (cs : List Char) : Prop :=
  ∃ tag rest, IsTag tag ∧ cs = '[' :: (tag ++ ']' :: ':' :: rest)

/-- **Reading the tag of a legend line inverts writing it.** -/
theorem scanLegendTag?_eq_some_iff {cs tag rest : List Char} :
    scanLegendTag? cs = some (tag, rest) ↔
      IsTag tag ∧ cs = '[' :: (tag ++ ']' :: ':' :: rest) := by
  constructor
  · intro h
    unfold scanLegendTag? at h
    split at h
    · rename_i inside
      simp only at h
      split at h
      · rename_i after hClose
        split at h
        · cases h
        · rename_i hne
          cases h
          refine ⟨isTag_takeWhile (by simpa using hne), ?_⟩
          rw [← hClose, List.takeWhile_append_dropWhile]
      · cases h
    · cases h
  · rintro ⟨htag, rfl⟩
    obtain ⟨htake, hdrop⟩ := span_tag htag (':' :: rest)
    have hne : tag.isEmpty = false := by simpa using htag.1
    simp only [scanLegendTag?, htake, hdrop, hne, Bool.false_eq_true, if_false]

theorem legendLike_iff {cs : List Char} : LegendLike cs ↔ (scanLegendTag? cs).isSome = true := by
  rw [Option.isSome_iff_exists]
  constructor
  · rintro ⟨tag, rest, h⟩
    exact ⟨(tag, rest), scanLegendTag?_eq_some_iff.mpr h⟩
  · rintro ⟨⟨tag, rest⟩, h⟩
    exact ⟨tag, rest, scanLegendTag?_eq_some_iff.mp h⟩

/-- **Reading a legend line inverts writing it**, where the message has no line feed. -/
theorem scanLegend?_eq_some_iff {cs tag message : List Char} :
    scanLegend? cs = some (tag, message) ↔ LegendLine tag message cs ∧ '\n' ∉ message := by
  unfold LegendLine
  constructor
  · intro h
    unfold scanLegend? at h
    split at h
    · rename_i tag' message' hscan
      split at h
      · cases h
      · rename_i hfeed
        cases h
        exact ⟨scanLegendTag?_eq_some_iff.mp hscan, by simpa using hfeed⟩
    · cases h
  · rintro ⟨h, hfeed⟩
    rw [← scanLegendTag?_eq_some_iff] at h
    have hfeed' : ¬ message.contains '\n' = true := by simpa using hfeed
    unfold scanLegend?
    rw [h]
    exact if_neg hfeed'

/-- **No line is both an annotation line and a legend line**: the one starts with a blank or a
tilde, the other with a bracket. -/
theorem not_legendLine_of_annotationLine {cs : List Char} (h : AnnotationLine cs)
    (tag message : List Char) : ¬ LegendLine tag message cs := by
  rintro ⟨-, rfl⟩
  obtain ⟨c, hc, hstart⟩ := head?_of_annotationLine h
  obtain rfl : '[' = c := by simpa using hc
  exact absurd hstart (by decide)

/-! ## Lines that start like an annotation -/

/-- The characters of annotation lines. -/
def IsMarkupChar (c : Char) : Prop :=
  isTagChar c = true ∨ isGap c = true ∨ c = '~' ∨ c = '[' ∨ c = ']'

/-- The lines that start like an annotation: blanks, tildes, a blank at least, an opening bracket,
and behind it nothing but tag characters, blanks, tildes and brackets. -/
def AnnotationLike (cs : List Char) : Prop :=
  ∃ lead n gap rest, IsGapRun lead ∧ 0 < n ∧ gap ≠ [] ∧ IsGapRun gap ∧
    (∀ c ∈ rest, IsMarkupChar c) ∧
    cs = lead ++ (List.replicate n '~' ++ (gap ++ '[' :: rest))

theorem all_markup_iff {rest : List Char} :
    (rest.all fun c => isTagChar c || isGap c || c == '~' || c == '[' || c == ']') = true ↔
      ∀ c ∈ rest, IsMarkupChar c := by
  simp only [List.all_eq_true, Bool.or_eq_true, beq_iff_eq, IsMarkupChar, or_assoc]

theorem isAnnotationLike_of_annotationLike {cs : List Char} (h : AnnotationLike cs) :
    isAnnotationLike cs = true := by
  obtain ⟨lead, n, gap, rest, hlead, hn, hne, hgap, hrest, rfl⟩ := h
  obtain ⟨n, rfl⟩ := Nat.exists_eq_succ_of_ne_zero hn.ne'
  obtain ⟨b, bs, rfl⟩ := List.exists_cons_of_ne_nil hne
  have hlead' : (lead ++ (List.replicate (n + 1) '~' ++ (b :: bs ++ '[' :: rest))).dropWhile isGap =
      List.replicate (n + 1) '~' ++ (b :: bs ++ '[' :: rest) := by
    refine (span_run hlead fun c hc => ?_).2
    obtain rfl : '~' = c := by simpa [List.replicate_succ] using hc
    decide
  have htildes := (Group.span_tildes (n + 1) hne hgap ('[' :: rest)).2
  have hgaps := (Group.span_gap hgap rest).2
  unfold isAnnotationLike
  simp only [hlead', htildes, hgaps]
  have hb : isGap b = true := hgap b List.mem_cons_self
  simp only [List.replicate_succ, List.cons_append, List.head?_cons, Option.any_some, hb,
    all_markup_iff.mpr hrest, Bool.and_true, beq_self_eq_true]

theorem annotationLike_of_isAnnotationLike {cs : List Char} (h : isAnnotationLike cs = true) :
    AnnotationLike cs := by
  unfold isAnnotationLike at h
  simp only at h
  split at h
  · rename_i rest hOpen
    simp only [Bool.and_eq_true, beq_iff_eq, Option.any_eq_true] at h
    obtain ⟨⟨hTilde, b, hb, hGap⟩, hRest⟩ := h
    refine ⟨cs.takeWhile isGap, ((cs.dropWhile isGap).takeWhile (· == '~')).length,
      ((cs.dropWhile isGap).dropWhile (· == '~')).takeWhile isGap, rest,
      isGapRun_takeWhile cs, ?_, ?_, isGapRun_takeWhile _, all_markup_iff.mp hRest, ?_⟩
    · obtain ⟨l, hl⟩ := List.head?_eq_some_iff.mp hTilde
      rw [hl]
      simp
    · obtain ⟨l, hl⟩ := List.head?_eq_some_iff.mp hb
      rw [hl, List.takeWhile_cons_of_pos hGap]
      exact List.cons_ne_nil _ _
    · rw [← Group.takeWhile_tildes, ← hOpen, List.takeWhile_append_dropWhile,
        List.takeWhile_append_dropWhile, List.takeWhile_append_dropWhile]
  · cases h

/-- **The test for lines that start like an annotation decides their language.** -/
theorem isAnnotationLike_iff {cs : List Char} : isAnnotationLike cs = true ↔ AnnotationLike cs :=
  ⟨annotationLike_of_isAnnotationLike, isAnnotationLike_of_annotationLike⟩

/-! ## The outcomes of a line -/

/-- A line that is refused: no annotation line and no legend line, but one that starts like it. -/
def MalformedLine (cs : List Char) : Prop :=
  ¬ AnnotationLine cs ∧ (∀ tag message, ¬ LegendLine tag message cs) ∧
    (AnnotationLike cs ∨ LegendLike cs)

/-- A source line: all that no other language holds. -/
def SourceLine (cs : List Char) : Prop :=
  ¬ AnnotationLine cs ∧ (∀ tag message, ¬ LegendLine tag message cs) ∧
    ¬ AnnotationLike cs ∧ ¬ LegendLike cs

namespace Line

/-- What the grammar makes of line `n` with this text. A legend line with a line feed in its
message would be refused. -/
inductive Judged (text : String) (n : Int) : Except FixtureError Line → Prop
  | marked {a : GroupLine} : a.WellFormed → text.toList = a.render →
      Judged text n (.ok (.marked text (a.marks n)))
  | legend {tag message : String} : LegendLine tag.toList message.toList text.toList →
      '\n' ∉ message.toList → Judged text n (.ok (.legend text ⟨tag, message, n⟩))
  | malformed {reason : Malformation} : ¬ AnnotationLine text.toList →
      (∀ tag message, LegendLine tag message text.toList → '\n' ∈ message) →
      (AnnotationLike text.toList ∨ LegendLike text.toList) →
      Judged text n (.error (.malformed n text reason))
  | source : SourceLine text.toList → Judged text n (.ok (.source text))

/-- **A line is judged as the grammar says.** -/
theorem judged_classify (text : String) (n : Int) : Judged text n (classify text n) := by
  unfold classify
  simp only
  split
  · rename_i a hscan
    obtain ⟨hwf, hr⟩ := GroupLine.scan?_eq_some_iff.mp hscan
    exact .marked hwf hr
  rename_i hscan
  have ha : ¬ AnnotationLine text.toList := by
    rw [annotationLine_iff, hscan]
    simp
  split
  · rename_i tag message hlegend
    obtain ⟨hl, hfeed⟩ := scanLegend?_eq_some_iff.mp hlegend
    exact .legend (by simpa using hl) (by simpa using hfeed)
  rename_i hlegend
  have hl : ∀ tag message, LegendLine tag message text.toList → '\n' ∈ message := by
    intro tag message h
    by_contra hfeed
    rw [scanLegend?_eq_some_iff.mpr ⟨h, hfeed⟩] at hlegend
    cases hlegend
  split
  · rename_i hlike
    exact .malformed ha hl (Or.inl (isAnnotationLike_iff.mp hlike))
  rename_i hannotation
  split
  · rename_i hlike
    exact .malformed ha hl (Or.inr (legendLike_iff.mpr hlike))
  rename_i hlike
  rw [← legendLike_iff] at hlike
  rw [isAnnotationLike_iff] at hannotation
  exact .source ⟨ha, fun tag message h => hlike ⟨tag, _, h⟩, hannotation, hlike⟩

variable {text : String} {n : Int}

theorem classify_eq_marked_iff {t : String} {marks : List Mark} :
    classify text n = .ok (.marked t marks) ↔
      t = text ∧ ∃ a : GroupLine, a.WellFormed ∧ text.toList = a.render ∧ marks = a.marks n := by
  constructor
  · intro h
    have hj := judged_classify text n
    rw [h] at hj
    cases hj with
    | marked hwf hr => exact ⟨rfl, _, hwf, hr, rfl⟩
  · rintro ⟨rfl, a, hwf, hr, rfl⟩
    simp only [classify, GroupLine.scan?_eq_some_iff.mpr ⟨hwf, hr⟩]

theorem classify_eq_legend_iff {t : String} {entry : LegendEntry} :
    classify text n = .ok (.legend t entry) ↔
      t = text ∧ LegendLine entry.tag.toList entry.message.toList text.toList ∧
        '\n' ∉ entry.message.toList ∧ entry.lineNumber = n := by
  constructor
  · intro h
    have hj := judged_classify text n
    rw [h] at hj
    cases hj with
    | legend hl hfeed => exact ⟨rfl, hl, hfeed, rfl⟩
  · rintro ⟨rfl, hl, hfeed, rfl⟩
    have hscan : GroupLine.scan? t.toList = none := by
      rw [Option.eq_none_iff_forall_ne_some]
      exact fun a ha => not_legendLine_of_annotationLine (annotationLine_iff.mpr ⟨a, ha⟩) _ _ hl
    simp only [classify, hscan, scanLegend?_eq_some_iff.mpr ⟨hl, hfeed⟩, String.ofList_toList]

theorem classify_eq_source_iff {t : String} :
    classify text n = .ok (.source t) ↔ t = text ∧ SourceLine text.toList := by
  constructor
  · intro h
    have hj := judged_classify text n
    rw [h] at hj
    cases hj with
    | source hs => exact ⟨rfl, hs⟩
  · rintro ⟨rfl, hs⟩
    have hj := judged_classify t n
    revert hj
    cases classify t n with
    | error e =>
      intro hj
      cases hj with
      | malformed _ _ hlike => exact absurd hlike (not_or.mpr ⟨hs.2.2.1, hs.2.2.2⟩)
    | ok line =>
      intro hj
      cases hj with
      | marked hwf hr => exact absurd ⟨_, hwf, hr⟩ hs.1
      | legend hl _ => exact absurd hl (hs.2.1 _ _)
      | source _ => rfl

/-- Only what starts like markup is refused, as the line that it is. -/
theorem classify_eq_error_iff (hfeed : '\n' ∉ text.toList) :
    (∃ e, classify text n = .error e) ↔ MalformedLine text.toList := by
  constructor
  · rintro ⟨e, h⟩
    have hj := judged_classify text n
    rw [h] at hj
    cases hj with
    | malformed ha hl hlike =>
      refine ⟨ha, fun tag message h => hfeed ?_, hlike⟩
      rw [h.2]
      simp [hl tag message h]
  · rintro ⟨ha, hl, hlike⟩
    cases h : classify text n with
    | error e => exact ⟨e, rfl⟩
    | ok line =>
      exfalso
      have hj := judged_classify text n
      rw [h] at hj
      cases hj with
      | marked hwf hr => exact ha ⟨_, hwf, hr⟩
      | legend hlegend _ => exact hl _ _ hlegend
      | source hs => exact hlike.elim hs.2.2.1 hs.2.2.2

/-- A refusal names the line and its text. -/
theorem error_of_classify {e : FixtureError} (h : classify text n = .error e) :
    ∃ reason, e = .malformed n text reason := by
  have hj := judged_classify text n
  rw [h] at hj
  cases hj with
  | malformed => exact ⟨_, rfl⟩

/-- **The grammar decides every line.** A line without line feed is an annotation line, a
legend line with its tag and the rest of its text as message, refused, or source, exactly where
the languages say so; an annotation line is never a legend line. -/
theorem classify_grammar (hfeed : '\n' ∉ text.toList) (n : Int) :
    ((∃ marks, classify text n = .ok (.marked text marks)) ↔ AnnotationLine text.toList) ∧
    (∀ tag message, classify text n = .ok (.legend text ⟨tag, message, n⟩) ↔
      LegendLine tag.toList message.toList text.toList) ∧
    ((∃ reason, classify text n = .error (.malformed n text reason)) ↔
      MalformedLine text.toList) ∧
    (classify text n = .ok (.source text) ↔ SourceLine text.toList) ∧
    ∀ tag message, ¬ (AnnotationLine text.toList ∧ LegendLine tag message text.toList) := by
  refine ⟨⟨?_, ?_⟩, fun tag message => ?_, ⟨?_, ?_⟩, ?_, ?_⟩
  · rintro ⟨marks, h⟩
    obtain ⟨-, a, hwf, hr, -⟩ := classify_eq_marked_iff.mp h
    exact ⟨a, hwf, hr⟩
  · rintro ⟨a, hwf, hr⟩
    exact ⟨_, classify_eq_marked_iff.mpr ⟨rfl, a, hwf, hr, rfl⟩⟩
  · rw [classify_eq_legend_iff]
    refine ⟨fun h => h.2.1, fun h => ⟨rfl, h, fun hm => hfeed ?_, rfl⟩⟩
    rw [h.2]
    simp [hm]
  · rintro ⟨reason, h⟩
    exact (classify_eq_error_iff hfeed).mp ⟨_, h⟩
  · intro hm
    obtain ⟨e, h⟩ := (classify_eq_error_iff (n := n) hfeed).mpr hm
    obtain ⟨reason, rfl⟩ := error_of_classify h
    exact ⟨reason, h⟩
  · rw [classify_eq_source_iff]
    exact ⟨fun h => h.2, fun h => ⟨rfl, h⟩⟩
  · exact fun tag message ⟨ha, hl⟩ => not_legendLine_of_annotationLine ha tag message hl

/-- A line with two groups one blank apart, the second tag all hyphens. -/
theorem classify_grammar_two_groups :
    '\n' ∉ "\t~~ [A_1] ~\t[--] ".toList ∧
      ∃ marks, classify "\t~~ [A_1] ~\t[--] " 7 = .ok (.marked "\t~~ [A_1] ~\t[--] " marks) := by
  have hfeed : '\n' ∉ "\t~~ [A_1] ~\t[--] ".toList := by decide
  refine ⟨hfeed, (classify_grammar hfeed 7).1.mpr ?_⟩
  have hfirst : Group.WellFormed ⟨2, [' '], ['A', '_', '1']⟩ :=
    ⟨by decide, by decide, by decide, by decide⟩
  have hsecond : Group.WellFormed ⟨1, ['\t'], ['-', '-']⟩ :=
    ⟨by decide, by decide, by decide, by decide⟩
  have hchain : GroupLine.Chain true
      [(['\t'], ⟨2, [' '], ['A', '_', '1']⟩), ([' '], ⟨1, ['\t'], ['-', '-']⟩)] :=
    .cons (by decide) (Or.inl rfl) hfirst (.cons (by decide) (Or.inr (by decide)) hsecond .nil)
  exact ⟨⟨_, [' ']⟩, ⟨List.cons_ne_nil _ _, hchain, by decide⟩, by decide⟩

end Line

end LintFixture
