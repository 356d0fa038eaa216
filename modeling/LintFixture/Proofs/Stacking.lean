import LintFixture.Proofs.Faults
import LintFixture.Proofs.Sessions
import LintFixture.Proofs.Verdict

/-!
# Two groups at one position

A position can be expected once. The groups of one line start at different columns, so two groups
can only come to one position when they stand on different lines with no source line between them:
both lines then mark the same source line, and the groups start at the same column. `Stacked` says
so of the raw lines, and `Repeats` which group is the later one.

Annotations come in an order (`annotations_rise`), and the comparison goes through them in it, so
the position that it refuses is that of the first annotation whose position an earlier one has.
That is a fact about ordered lists (`first_repeat_iff`).

Headline: `compare_refuses_stacked`, when the comparison refuses what a text expects, and at which
position.
-/

namespace LintFixture

/-! ## Repetitions in a list that is in order -/

section Repetition

variable {α β : Type} {lt : α → α → Prop} {key : α → β} {l : List α}
  (hasymm : ∀ a b, lt a b → ¬ lt b a) (hl : l.Pairwise lt)

include hasymm hl

/-- A key is repeated where an element has the key of one before it. -/
theorem not_nodup_map_iff :
    ¬ (l.map key).Nodup ↔ ∃ a ∈ l, ∃ b ∈ l, lt a b ∧ key a = key b := by
  rw [← not_iff_not, not_not]
  constructor
  · rintro hnodup ⟨a, ha, b, hb, hlt, heq⟩
    obtain rfl := List.inj_on_of_nodup_map hnodup ha hb heq
    exact hasymm a a hlt hlt
  · intro hnone
    refine List.pairwise_map.mpr (hl.imp_of_mem fun {a b} ha hb hlt heq => ?_)
    exact hnone ⟨a, ha, b, hb, hlt, heq⟩

/-- A part at the start of the list has all that comes before one of its elements. -/
theorem mem_start {start rest : List α} {a b : α} (hcut : l = start ++ rest) (ha : a ∈ start)
    (hb : b ∈ l) (hlt : lt b a) : b ∈ start := by
  subst hcut
  refine (List.mem_append.mp hb).resolve_right fun hrest => ?_
  exact hasymm b a hlt ((List.pairwise_append.mp hl).2.2 a ha b hrest)

theorem mem_before {before after : List α} {a b : α} (hcut : l = before ++ a :: after)
    (hb : b ∈ l) (hlt : lt b a) : b ∈ before := by
  have hcut' : l = (before ++ [a]) ++ after := by rw [hcut, List.append_assoc]; rfl
  have hself := List.mem_append_right before (List.mem_singleton_self a)
  have hstart := mem_start hasymm hl hcut' hself hb hlt
  refine (List.mem_append.mp hstart).resolve_right fun h => ?_
  obtain rfl := List.mem_singleton.mp h
  exact hasymm b b hlt hlt

/-- **The first element whose key an earlier one has** is the one behind the longest part of the
list without repetition. -/
theorem first_repeat_iff {p : β} :
    (∃ before after, l.map key = before ++ p :: after ∧ before.Nodup ∧ p ∈ before) ↔
      ∃ a ∈ l, key a = p ∧ (∃ b ∈ l, lt b a ∧ key b = p) ∧
        ∀ a' ∈ l, ∀ b' ∈ l, lt b' a' → key b' = key a' → ¬ lt a' a := by
  constructor
  · rintro ⟨_, _, hmap, hnodup, hp⟩
    obtain ⟨before, rest, rfl, rfl, hrest⟩ := List.map_eq_append_iff.mp hmap
    obtain ⟨a, after, rfl, rfl, rfl⟩ := List.map_eq_cons_iff.mp hrest
    obtain ⟨hbefore, -, hcross⟩ := List.pairwise_append.mp hl
    obtain ⟨b, hb, hkey⟩ := List.mem_map.mp hp
    refine ⟨a, by simp, rfl, ⟨b, List.mem_append_left _ hb, ?_, hkey⟩, ?_⟩
    · exact hcross b hb a List.mem_cons_self
    · intro a' ha' b' hb' hlt heq hlt'
      have ha'' := mem_before hasymm hl rfl ha' hlt'
      have hb'' := mem_start hasymm hl rfl ha'' hb' hlt
      exact (not_nodup_map_iff hasymm hbefore).mpr ⟨b', hb'', a', ha'', hlt, heq⟩ hnodup
  · rintro ⟨a, ha, rfl, ⟨b, hb, hlt, hkey⟩, hfirst⟩
    obtain ⟨before, after, hcut⟩ := List.append_of_mem ha
    have hbl := mem_before hasymm hl hcut hb hlt
    refine ⟨before.map key, after.map key, by rw [hcut]; simp, ?_, hkey ▸ List.mem_map_of_mem hbl⟩
    subst hcut
    obtain ⟨hbefore, -, hcross⟩ := List.pairwise_append.mp hl
    by_contra hrepeated
    obtain ⟨x, hx, y, hy, hxy, heq⟩ := (not_nodup_map_iff hasymm hbefore).mp hrepeated
    exact hfirst y (List.mem_append_left _ hy) x (List.mem_append_left _ hx) hxy heq
      (hcross y hy a List.mem_cons_self)

end Repetition

/-! ## Groups of raw lines -/

/-- Line `i` is an annotation line whose group `k` starts at a column. -/
def GroupAt (lines : List String) (i k column : Nat) : Prop :=
  ∃ (line : String) (a : GroupLine) (g : List Char × Group), lines[i]? = some line ∧
    a.WellFormed ∧ line.toList = a.render ∧ a.groups[k]? = some g ∧
    (GroupLine.render ⟨a.groups.take k, g.1⟩).length = column

/-- Line `i` is an annotation line with a group that starts at a column. -/
def StartsAt (lines : List String) (i column : Nat) : Prop := ∃ k, GroupAt lines i k column

/-- A group of line `i` marks a position: it starts at the column, and the line is that of the
nearest source line above it. -/
def Marks (lines : List String) (i : Nat) (p : Position) : Prop :=
  (∃ column : Nat, StartsAt lines i column ∧ p.2 = column) ∧
    ((lines.take i).countP Line.isSource : Int) = p.1 + 1

/-- Two annotation lines, with no source line between them, that have a group at one column. -/
structure Stacked (lines : List String) (i j : Nat) : Prop where
  lt : i < j
  column : ∃ column, StartsAt lines i column ∧ StartsAt lines j column
  between : ∀ (r : Nat) (line : String), i < r → r < j → lines[r]? = some line →
    ¬ SourceLine line.toList

/-- A group of line `j` has a position that a group before it has. Groups of one line have different
columns, so that one stands on another line. -/
def Repeats (lines : List String) (j : Nat) (p : Position) : Prop :=
  Marks lines j p ∧ ∃ i < j, Marks lines i p

/-- In the order of reading, the group of line `j` at the column of the position is the first one
that has the position of a group before it. -/
structure FirstRepeats (lines : List String) (j : Nat) (p : Position) : Prop where
  repeats : Repeats lines j p
  first : ∀ (j' : Nat) (p' : Position), Repeats lines j' p' → j < j' ∨ (j = j' ∧ p.2 ≤ p'.2)

section Groups

variable {lines : List String} {i j k l column : Nat}

/-- The groups of a line start at the columns of its marks. -/
theorem groupAt_iff (n : Int) :
    GroupAt lines i k column ↔ ∃ line, lines[i]? = some line ∧
      ∃ m, (Line.marksOf line n)[k]? = some m ∧ m.column = column := by
  simp only [getElem?_marksOf_iff]
  constructor
  · rintro ⟨line, a, g, hline, hwf, hr, hg, hcolumn⟩
    exact ⟨line, hline, _, ⟨a, g, hwf, hr, hg, rfl⟩, by rw [Group.mark, Nat.zero_add, hcolumn]⟩
  · rintro ⟨line, hline, _, ⟨a, g, hwf, hr, hg, rfl⟩, hcolumn⟩
    exact ⟨line, a, g, hline, hwf, hr, hg, by rw [← hcolumn, Group.mark, Nat.zero_add]⟩

/-- **Groups of one line** start at different columns. -/
theorem GroupAt.unique (hk : GroupAt lines i k column) (hl : GroupAt lines i l column) : k = l := by
  obtain ⟨line, hline, m, hm, hcolumn⟩ := (groupAt_iff 0).mp hk
  obtain ⟨line', hline', m', hm', hcolumn'⟩ := (groupAt_iff 0).mp hl
  obtain rfl := Option.some.inj (hline.symm.trans hline')
  have hcolumns : ((Line.marksOf line 0).map (·.column)).Nodup :=
    List.pairwise_map.mpr (Line.marksOf_rises.2.imp fun hlt => hlt.ne)
  have hlt : k < ((Line.marksOf line 0).map (·.column)).length := by
    rw [List.length_map]
    exact (List.getElem?_eq_some_iff.mp hm).1
  refine (List.getElem?_inj hlt hcolumns).mp ?_
  rw [List.getElem?_map, List.getElem?_map, hm, hm', Option.map_some, Option.map_some, hcolumn,
    hcolumn']

theorem startsAt_iff (n : Int) :
    StartsAt lines i column ↔ ∃ line, lines[i]? = some line ∧
      ∃ m ∈ Line.marksOf line n, m.column = column := by
  simp only [StartsAt, groupAt_iff n, List.mem_iff_getElem?]
  constructor
  · rintro ⟨k, line, hline, m, hm, hcolumn⟩
    exact ⟨line, hline, m, ⟨k, hm⟩, hcolumn⟩
  · rintro ⟨line, hline, m, ⟨k, hm⟩, hcolumn⟩
    exact ⟨k, line, hline, m, hm, hcolumn⟩

/-- A line with a group is not source. -/
theorem StartsAt.not_source (h : StartsAt lines i column) {line : String}
    (hline : lines[i]? = some line) : ¬ SourceLine line.toList := by
  obtain ⟨k, line', a, g, hline', hwf, hr, -⟩ := h
  obtain rfl := Option.some.inj (hline.symm.trans hline')
  exact fun hs => hs.1 ⟨a, hwf, hr⟩

/-- As many elements of a kind are among the first `i` as among the first `j` where none comes in
between. -/
theorem countP_take_eq_iff {α : Type} {p : α → Bool} {xs : List α} (hij : i ≤ j) :
    (xs.take i).countP p = (xs.take j).countP p ↔
      ∀ (r : Nat) (x : α), i ≤ r → r < j → xs[r]? = some x → p x = false := by
  have hcut : xs.take j = xs.take i ++ (xs.drop i).take (j - i) := by
    rw [← List.take_add, Nat.add_sub_cancel' hij]
  rw [hcut, List.countP_append, Nat.left_eq_add, List.countP_eq_zero]
  constructor
  · intro h r x hr hlt hx
    have hmem : x ∈ (xs.drop i).take (j - i) := by
      refine List.mem_of_getElem? (i := r - i) ?_
      rw [List.getElem?_take_of_lt (by omega), List.getElem?_drop, Nat.add_sub_cancel' hr, hx]
    simpa using h x hmem
  · intro h x hx
    obtain ⟨r, hr, rfl⟩ := List.mem_take_iff_getElem.mp hx
    rw [List.length_drop] at hr
    rw [List.getElem_drop, h (i + r) _ (by omega) (by omega) (List.getElem?_eq_getElem _)]
    exact Bool.false_ne_true

end Groups

/-! ## Groups as annotations -/

section Annotations

variable {lines : List String}

/-- The groups of raw lines are the annotations of the lines. -/
theorem startsAt_iff_annotated {i column : Nat} :
    StartsAt lines i column ↔ ∃ a ∈ annotationsOf lines,
      a.mark.lineNumber = (i + 1 : Nat) ∧ a.mark.column = column ∧
        a.above.length = (lines.take i).countP Line.isSource := by
  rw [startsAt_iff (i + 1 : Nat)]
  simp only [mem_annotationsOf_iff, List.countP_eq_length_filter]
  constructor
  · rintro ⟨line, hline, m, hm, hcolumn⟩
    exact ⟨⟨_, m⟩, ⟨i, ⟨line, hline, hm⟩, rfl⟩, Line.marksOf_rises.1 m hm, hcolumn, rfl⟩
  · rintro ⟨a, ⟨r, ⟨line, hline, hm⟩, -⟩, hnumber, hcolumn, -⟩
    have hr := Line.marksOf_rises.1 _ hm
    obtain rfl : r = i := by omega
    exact ⟨line, hline, a.mark, hm, hcolumn⟩

theorem Annotation.Before.asymm (a b : Annotation) (h : a.Before b) : ¬ b.Before a := by
  unfold Annotation.Before at *
  omega

theorem numberedFrom_rises : ∀ (texts : List String) (n : Nat),
    (numberedFrom n texts).Pairwise fun a b => a.number < b.number
  | [], _ => .nil
  | text :: rest, n => by
    refine .cons (fun row hrow => ?_) (numberedFrom_rises rest (n + 1))
    obtain ⟨r, hr⟩ := List.mem_iff_getElem?.mp hrow
    rw [getElem?_numberedFrom, Option.map_eq_some_iff] at hr
    obtain ⟨line, -, rfl⟩ := hr
    dsimp only
    omega

theorem annotationsOf_rise (lines : List String) :
    (annotationsOf lines).Pairwise Annotation.Before :=
  (annotations_rise (numberedFrom_rises lines 0)).imp And.right

variable (hanchored : ∀ a ∈ annotationsOf lines, a.above ≠ [])
include hanchored

/-- The positions that raw lines mark are those of their annotations. -/
theorem marks_iff {i : Nat} {p : Position} :
    Marks lines i p ↔ ∃ a ∈ annotationsOf lines, a.mark.lineNumber = (i + 1 : Nat) ∧
      a.position = p := by
  unfold Marks Annotation.position
  simp only [startsAt_iff_annotated]
  constructor
  · rintro ⟨⟨column, ⟨a, ha, hnumber, rfl, habove⟩, hcolumn⟩, hcount⟩
    refine ⟨a, ha, hnumber, Prod.ext ?_ hcolumn.symm⟩
    have hpos := List.length_pos_iff.mpr (hanchored a ha)
    dsimp only
    omega
  · rintro ⟨a, ha, hnumber, rfl⟩
    obtain ⟨r, ⟨line, -, hm⟩, habove⟩ := mem_annotationsOf_iff.mp ha
    have hr := Line.marksOf_rises.1 _ hm
    obtain rfl : r = i := by omega
    have hlength : a.above.length = (lines.take r).countP Line.isSource := by
      rw [habove, List.countP_eq_length_filter]
    have hpos := List.length_pos_iff.mpr (hanchored a ha)
    refine ⟨⟨_, ⟨a, ha, hnumber, rfl, hlength⟩, rfl⟩, ?_⟩
    dsimp only
    omega

theorem exists_marks_of_mem {a : Annotation} (h : a ∈ annotationsOf lines) :
    ∃ i : Nat, a.mark.lineNumber = (i + 1 : Nat) ∧ Marks lines i a.position := by
  obtain ⟨i, ⟨line, -, hm⟩, -⟩ := mem_annotationsOf_iff.mp h
  have hnumber := Line.marksOf_rises.1 _ hm
  exact ⟨i, hnumber, (marks_iff hanchored).mpr ⟨a, h, hnumber, rfl⟩⟩

/-- Two annotations have one position where they stand at one column and no source line comes
between them. -/
theorem exists_stacked_iff :
    (∃ i j, Stacked lines i j) ↔ ∃ a ∈ annotationsOf lines, ∃ b ∈ annotationsOf lines,
      a.Before b ∧ a.position = b.position := by
  constructor
  · rintro ⟨i, j, hlt, ⟨column, hi, hj⟩, hbetween⟩
    obtain ⟨a, ha, hanumber, hacolumn, haabove⟩ := startsAt_iff_annotated.mp hi
    obtain ⟨b, hb, hbnumber, hbcolumn, hbabove⟩ := startsAt_iff_annotated.mp hj
    have hcount : (lines.take i).countP Line.isSource = (lines.take j).countP Line.isSource := by
      refine (countP_take_eq_iff hlt.le).mpr fun r line hr hrlt hline => ?_
      refine Line.isSource_eq_false ?_
      rcases hr.eq_or_lt with rfl | hr
      · exact hi.not_source hline
      · exact hbetween r line hr hrlt hline
    refine ⟨a, ha, b, hb, Or.inl (by omega), ?_⟩
    unfold Annotation.position
    rw [haabove, hbabove, hcount, hacolumn, hbcolumn]
  · rintro ⟨a, ha, b, hb, hbefore, hposition⟩
    obtain ⟨i, hinumber, hi⟩ := exists_marks_of_mem hanchored ha
    obtain ⟨j, hjnumber, hj⟩ := exists_marks_of_mem hanchored hb
    have hcolumn : a.mark.column = b.mark.column :=
      Int.ofNat_inj.mp (congrArg Prod.snd hposition)
    have hlt : i < j := by
      rcases hbefore with h | ⟨-, h⟩ <;> omega
    have hcount : (lines.take i).countP Line.isSource = (lines.take j).countP Line.isSource := by
      have hline := congrArg Prod.fst hposition
      have hicount := hi.2
      have hjcount := hj.2
      omega
    obtain ⟨column, histarts, hicolumn⟩ := hi.1
    obtain ⟨column', hjstarts, hjcolumn⟩ := hj.1
    obtain rfl : column = column' :=
      Int.ofNat_inj.mp (hicolumn.symm.trans (hposition ▸ hjcolumn))
    refine ⟨i, j, hlt, ⟨column, histarts, hjstarts⟩, fun r line hr hrlt hline hsource => ?_⟩
    have hnone := (countP_take_eq_iff hlt.le).mp hcount r line hr.le hrlt hline
    rw [Line.isSource_iff.mpr hsource] at hnone
    cases hnone

/-- The groups that repeat a position are the annotations with the position of one before them. -/
theorem repeats_iff {j : Nat} {p : Position} :
    Repeats lines j p ↔ ∃ a ∈ annotationsOf lines, a.mark.lineNumber = (j + 1 : Nat) ∧
      a.position = p ∧ ∃ b ∈ annotationsOf lines, b.Before a ∧ b.position = a.position := by
  unfold Repeats
  simp only [marks_iff hanchored]
  constructor
  · rintro ⟨⟨a, ha, hanumber, rfl⟩, i, hi, b, hb, hbnumber, hposition⟩
    exact ⟨a, ha, hanumber, rfl, b, hb, Or.inl (by omega), hposition⟩
  · rintro ⟨a, ha, hanumber, rfl, b, hb, hbefore, hposition⟩
    obtain ⟨i, hinumber, -⟩ := exists_marks_of_mem hanchored hb
    have hcolumn : b.mark.column = a.mark.column :=
      Int.ofNat_inj.mp (congrArg Prod.snd hposition)
    have hlt : i < j := by
      rcases hbefore with h | ⟨-, h⟩ <;> omega
    exact ⟨⟨a, ha, hanumber, rfl⟩, i, hlt, b, hb, hinumber, hposition⟩

/-- **The first group that repeats a position** is the first annotation that does. -/
theorem exists_firstRepeats_iff {p : Position} :
    (∃ j, FirstRepeats lines j p) ↔ ∃ a ∈ annotationsOf lines, a.position = p ∧
      (∃ b ∈ annotationsOf lines, b.Before a ∧ b.position = p) ∧
      ∀ a' ∈ annotationsOf lines, ∀ b' ∈ annotationsOf lines, b'.Before a' →
        b'.position = a'.position → ¬ a'.Before a := by
  constructor
  · rintro ⟨j, hrepeats, hfirst⟩
    obtain ⟨a, ha, hnumber, rfl, hearlier⟩ := (repeats_iff hanchored).mp hrepeats
    refine ⟨a, ha, rfl, hearlier, fun a' ha' b' hb' hbefore hposition hlt => ?_⟩
    obtain ⟨j', hnumber', -⟩ := exists_marks_of_mem hanchored ha'
    have hle := hfirst j' a'.position
      ((repeats_iff hanchored).mpr ⟨a', ha', hnumber', rfl, b', hb', hbefore, hposition⟩)
    unfold Annotation.position at hle
    unfold Annotation.Before at hlt
    omega
  · rintro ⟨a, ha, rfl, hearlier, hfirst⟩
    obtain ⟨j, hnumber, -⟩ := exists_marks_of_mem hanchored ha
    refine ⟨j, (repeats_iff hanchored).mpr ⟨a, ha, hnumber, rfl, hearlier⟩, fun j' p' h => ?_⟩
    obtain ⟨a', ha', hnumber', rfl, b', hb', hbefore, hposition⟩ := (repeats_iff hanchored).mp h
    have hnot := hfirst a' ha' b' hb' hbefore hposition
    unfold Annotation.position
    unfold Annotation.Before at hnot
    omega

end Annotations

/-! ## Positions that can be told -/

/-- A mark stands within its line. -/
theorem Line.column_lt_length {line : String} {n : Int} {m : Mark} (h : m ∈ marksOf line n) :
    m.column < line.length := by
  obtain ⟨k, hk⟩ := List.mem_iff_getElem?.mp h
  obtain ⟨a, -, hwf, hrender, -⟩ := getElem?_marksOf_iff.mp hk
  have hclassify := classify_eq_marked_iff (n := n).mpr ⟨rfl, a, hwf, hrender, rfl⟩
  rw [(parts_of_marked hclassify).2.2.1] at h
  have hrun := (marksDecode_marks n hwf).tildes m h
  have hthere := hrun.inside m.column le_rfl (Nat.lt_add_of_pos_right hrun.pos)
  rw [← String.length_toList, hrender]
  exact (List.getElem?_eq_some_iff.mp hthere).1

/-- The numbers of the position of an annotation, from one, are not above the length of the text. -/
theorem position_lt_length {text : String} {a : Annotation}
    (h : a ∈ annotationsOf (Text.splitLines text)) :
    a.above.length - 1 < text.length ∧ a.mark.column < text.length := by
  obtain ⟨r, ⟨line, hline, hm⟩, habove⟩ := mem_annotationsOf_iff.mp h
  obtain ⟨hlines, hcount⟩ := Text.length_joinLines (Text.splitLines_ne_nil text)
  rw [Text.joinLines_splitLines] at hlines hcount
  have hcolumn := Line.column_lt_length hm
  have hlength := hlines line (List.mem_of_getElem? hline)
  have hr := (List.getElem?_eq_some_iff.mp hline).1
  have hbelow : a.above.length ≤ r := by
    rw [habove]
    exact (List.length_filter_le _ _).trans (List.length_take_le _ _)
  omega

/-- What a text expects is refused by its name, unless the text is longer than numerals reach. -/
theorem ofDiagnostics_of_parse {text : String} {f : Fixture} (h : Fixture.parse text = .ok f)
    (hlength : text.length < Nat.pow 10 longestNumeral) (reported : List Diagnostic) :
    Comparison.ofDiagnostics f.expected reported =
      (Comparison.compare f.expected reported).mapError .fixture := by
  cases hcompare : Comparison.compare f.expected reported with
  | ok c => exact Comparison.ofDiagnostics_eq_ok_iff.mpr hcompare
  | error e =>
    obtain ⟨p, ⟨before, after, hcut, -, -⟩, rfl⟩ :=
      Comparison.compare_eq_duplicate_iff.mp hcompare
    obtain ⟨-, -, -, hexpected⟩ := ofLines_eq_ok_iff.mp h
    rw [positions_of_expects hexpected] at hcut
    obtain ⟨a, ha, rfl⟩ := List.mem_map.mp (hcut ▸ List.mem_append_right before List.mem_cons_self)
    obtain ⟨hline, hcolumn⟩ := position_lt_length ha
    have hlineTold : hasNumeral (a.position.1 + 1) = true :=
      hasNumeral_natCast_iff.mpr (Nat.lt_of_le_of_lt hline hlength)
    have hcolumnTold : hasNumeral (a.position.2 + 1) = true :=
      hasNumeral_natCast_iff.mpr (Nat.lt_of_le_of_lt hcolumn hlength)
    rw [Comparison.ofDiagnostics_eq_error hcompare, Comparison.raised_duplicatePosition,
      if_pos ⟨hlineTold, hcolumnTold⟩, Except.mapError]

/-- **Stacked annotations are refused.** What a text expects cannot be compared with anything where
two annotation lines, with no source line between them, have a group at one column, and only there;
the groups of one line are never at one column. The position that is named is that of the first
group, in the order of reading, whose position an earlier one has. It is named as such unless the
text is longer than numerals reach. -/
theorem compare_refuses_stacked {text : String} {f : Fixture} (h : Fixture.parse text = .ok f)
    (reported : List Diagnostic) :
    ((∃ line column,
        Comparison.compare f.expected reported = .error (.duplicatePosition line column)) ↔
      ∃ i j, Stacked (Text.splitLines text) i j) ∧
    (∀ i k l column, GroupAt (Text.splitLines text) i k column →
      GroupAt (Text.splitLines text) i l column → k = l) ∧
    (∀ e, Comparison.compare f.expected reported = .error e ↔
      ∃ j line column, FirstRepeats (Text.splitLines text) j (line, column) ∧
        e = .duplicatePosition line column) ∧
    (text.length < Nat.pow 10 longestNumeral →
      Comparison.ofDiagnostics f.expected reported =
        (Comparison.compare f.expected reported).mapError .fixture) := by
  obtain ⟨hreadable, -, -, hexpected⟩ := ofLines_eq_ok_iff.mp h
  have hanchored := hreadable.anchored
  have hpositions := positions_of_expects hexpected
  have hrise := annotationsOf_rise (Text.splitLines text)
  have hrefused : ∀ e, Comparison.compare f.expected reported = .error e ↔
      ∃ j line column, FirstRepeats (Text.splitLines text) j (line, column) ∧
        e = .duplicatePosition line column := by
    intro e
    rw [Comparison.compare_eq_duplicate_iff, hpositions]
    simp only [first_repeat_iff Annotation.Before.asymm hrise,
      ← exists_firstRepeats_iff hanchored]
    constructor
    · rintro ⟨⟨line, column⟩, ⟨j, hfirst⟩, rfl⟩
      exact ⟨j, line, column, hfirst, rfl⟩
    · rintro ⟨j, line, column, hfirst, rfl⟩
      exact ⟨(line, column), ⟨j, hfirst⟩, rfl⟩
  refine ⟨?_, fun i k l column => GroupAt.unique, hrefused,
    fun hlength => ofDiagnostics_of_parse h hlength reported⟩
  rw [exists_stacked_iff hanchored, ← not_nodup_map_iff Annotation.Before.asymm hrise, ← hpositions,
    ← @Comparison.compare_eq_error_iff f.expected reported]
  constructor
  · rintro ⟨line, column, he⟩
    exact ⟨_, he⟩
  · rintro ⟨e, he⟩
    obtain ⟨-, line, column, -, rfl⟩ := (hrefused e).mp he
    exact ⟨line, column, he⟩

/-- The second group of an annotation line and the only one of another line, with a definition in
between. -/
theorem compare_refuses_stacked_second_group :
    ∃ f, Fixture.parse "x\n ~ [a] ~~ [b]\n[a]: m\n       ~ [a]\n[b]: n" = .ok f ∧
      Comparison.compare f.expected [] = .error (.duplicatePosition 0 7) ∧
      (∃ i j, Stacked (Text.splitLines "x\n ~ [a] ~~ [b]\n[a]: m\n       ~ [a]\n[b]: n") i j) ∧
      ∃ j, FirstRepeats
        (Text.splitLines "x\n ~ [a] ~~ [b]\n[a]: m\n       ~ [a]\n[b]: n") j (0, 7) := by
  have h : Fixture.parse "x\n ~ [a] ~~ [b]\n[a]: m\n       ~ [a]\n[b]: n" =
      .ok ⟨["x"], [⟨0, 1, some 1, "m", none⟩, ⟨0, 7, some 2, "n", none⟩,
        ⟨0, 7, some 1, "m", none⟩], ⟨[⟨"a", "m", 3⟩, ⟨"b", "n", 5⟩]⟩⟩ := by cbv
  obtain ⟨hstacked, -, hrefused, -⟩ := compare_refuses_stacked h []
  have herror : Comparison.compare [⟨0, 1, some 1, "m", none⟩, ⟨0, 7, some 2, "n", none⟩,
      ⟨0, 7, some 1, "m", none⟩] [] = .error (.duplicatePosition 0 7) := by rfl
  obtain ⟨j, line, column, hfirst, heq⟩ := (hrefused _).mp herror
  cases heq
  exact ⟨_, h, herror, hstacked.mp ⟨_, _, herror⟩, j, hfirst⟩

end LintFixture
