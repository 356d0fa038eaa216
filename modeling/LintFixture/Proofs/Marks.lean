import LintFixture.Proofs.Grammar
import Mathlib.Data.List.Basic

/-!
# The marks of an annotation line

A line is recognised as a whole, and its marks say where each of its groups stands. `Laid` is the
agreement of a line with marks from some column on: blanks up to a mark, the group that belongs to
it with no tilde on either side of its run, and so on behind the group to the end of the line.
The marks of a rendered line are laid out like that (`laid_marksFrom`), and what is laid out rises
from left to right, does not overlap and leaves blanks alone between the groups.

A search for groups that may start anywhere, `Group.search`, finds the same groups at the same
columns (`search_render`), though it knows nothing of the line as a whole.

Headline: `marks_decode_line`, the marks of a rendered line are its groups, and the marks of every
annotation line give back the whole of it.
-/

namespace LintFixture

/-- The mark of a group at a column of line `n`. -/
def Group.mark (n : Int) (column : Nat) (g : Group) : Mark :=
  ⟨column, g.tildes, String.ofList g.tag, n⟩

/-- Where the group of a mark ends in its line: behind the first closing bracket from its column
on. -/
def Mark.stop (cs : List Char) (m : Mark) : Nat :=
  m.column + ((cs.drop m.column).takeWhile (· != ']')).length + 1

/-- The characters from `start` on are a run of `c` that goes on to neither side. -/
structure MaximalRun (c : Char) (cs : List Char) (start length : Nat) : Prop where
  pos : 0 < length
  inside : ∀ i, start ≤ i → i < start + length → cs[i]? = some c
  before : ∀ i, i + 1 = start → cs[i]? ≠ some c
  behind : cs[start + length]? ≠ some c

/-- The characters from the column of a mark up to its end are a group with its width and tag. -/
def Mark.Spells (cs : List Char) (m : Mark) : Prop :=
  ∃ g : Group, g.WellFormed ∧ g.tildes = m.width ∧ String.ofList g.tag = m.tag ∧
    (cs.drop m.column).take (m.stop cs - m.column) = g.render

/-! ## Marks laid out along a line -/

/-- From a column on, a line is blanks and the groups of these marks in turn. -/
inductive Laid (cs : List Char) : (start : Nat) → List Mark → Prop
  | nil {start} : (∀ i c, start ≤ i → cs[i]? = some c → isGap c = true) → Laid cs start []
  | cons {start m rest} : start ≤ m.column →
      (∀ i c, start ≤ i → i < m.column → cs[i]? = some c → isGap c = true) →
      MaximalRun '~' cs m.column m.width → m.Spells cs → Laid cs (m.stop cs) rest →
      Laid cs start (m :: rest)

namespace Laid

variable {cs : List Char} {start : Nat} {marks : List Mark}

theorem column_lt_stop (cs : List Char) (m : Mark) : m.column < m.stop cs := by
  unfold Mark.stop
  omega

/-- Nothing is marked before the column from which the marks are laid out. -/
theorem start_le (h : Laid cs start marks) : ∀ m ∈ marks, start ≤ m.column := by
  induction h with
  | nil _ => exact fun _ hm => absurd hm List.not_mem_nil
  | @cons start m rest hle _ _ _ _ ih =>
    intro m' hm'
    rcases List.mem_cons.mp hm' with rfl | hm'
    · exact hle
    · exact hle.trans ((column_lt_stop cs m).le.trans (ih m' hm'))

/-- Every group ends before the next one starts. -/
theorem apart (h : Laid cs start marks) : marks.Pairwise fun a b => a.stop cs ≤ b.column := by
  induction h with
  | nil _ => exact .nil
  | cons _ _ _ _ hrest ih => exact .cons (fun m hm => start_le hrest m hm) ih

theorem maximal (h : Laid cs start marks) :
    ∀ m ∈ marks, MaximalRun '~' cs m.column m.width := by
  induction h with
  | nil _ => exact fun _ hm => absurd hm List.not_mem_nil
  | cons _ _ hrun _ _ ih => exact List.forall_mem_cons.mpr ⟨hrun, ih⟩

theorem spells (h : Laid cs start marks) : ∀ m ∈ marks, m.Spells cs := by
  induction h with
  | nil _ => exact fun _ hm => absurd hm List.not_mem_nil
  | cons _ _ _ hspells _ ih => exact List.forall_mem_cons.mpr ⟨hspells, ih⟩

/-- What no group holds is blank. -/
theorem outside (h : Laid cs start marks) {i : Nat} {c : Char} (hi : start ≤ i)
    (hc : cs[i]? = some c) (hout : ∀ m ∈ marks, ¬ (m.column ≤ i ∧ i < m.stop cs)) :
    isGap c = true := by
  induction h with
  | nil hblank => exact hblank i c hi hc
  | @cons start m rest _ hblank _ _ _ ih =>
    obtain ⟨hm, hrest⟩ := List.forall_mem_cons.mp hout
    rcases Nat.lt_or_ge i m.column with hlt | hge
    · exact hblank i c hi hlt hc
    · exact ih (Nat.le_of_not_lt fun hlt => hm ⟨hge, hlt⟩) hrest

end Laid

/-! ## The layout of a rendered line -/

namespace Group

variable {g : Group}

/-- Up to its end a group has no closing bracket. -/
theorem takeWhile_render (h : g.WellFormed) (rest : List Char) :
    (g.render ++ rest).takeWhile (· != ']') =
      List.replicate g.tildes '~' ++ g.gap ++ '[' :: g.tag := by
  have hopen : g.render ++ rest =
      (List.replicate g.tildes '~' ++ g.gap ++ '[' :: g.tag) ++ ']' :: rest := by
    simp [render]
  have hclass : ∀ {p : Char → Bool} {c : Char}, p ']' = false → p c = true → (c != ']') = true := by
    intro p c hp hc
    rw [bne_iff_ne]
    rintro rfl
    rw [hp] at hc
    cases hc
  rw [hopen]
  refine (span_run (fun c hc => ?_) fun c hc => ?_).1
  · rcases List.mem_append.mp hc with hc | hc
    · rcases List.mem_append.mp hc with hc | hc
      · rw [(List.mem_replicate.mp hc).2]
        rfl
      · exact hclass (by decide) (h.gap c hc)
    · rcases List.mem_cons.mp hc with rfl | hc
      · rfl
      · exact hclass (by decide) (h.tag.2 c hc)
  · obtain rfl : ']' = c := by simpa using hc
    rfl

/-- The end of a mark is the end of its group. -/
theorem stop_mark (h : g.WellFormed) (n : Int) (before rest : List Char) :
    (g.mark n before.length).stop (before ++ (g.render ++ rest)) =
      before.length + g.render.length := by
  have hdrop : (before ++ (g.render ++ rest)).drop before.length = g.render ++ rest :=
    List.drop_left
  unfold Mark.stop
  rw [show (g.mark n before.length).column = before.length from rfl, hdrop, takeWhile_render h,
    render]
  simp only [List.length_append, List.length_cons, List.length_nil]
  omega

theorem spells_mark (h : g.WellFormed) (n : Int) (before rest : List Char) :
    (g.mark n before.length).Spells (before ++ (g.render ++ rest)) := by
  refine ⟨g, h, rfl, rfl, ?_⟩
  rw [stop_mark h]
  simp only [mark, List.drop_left, Nat.add_sub_cancel_left, List.take_left]

/-- The tildes of a group are a maximal run where no tilde stands before them: a blank stands
behind them. -/
theorem maximalRun_tildes (h : g.WellFormed) {before : List Char}
    (hbefore : ∀ c ∈ before.getLast?, c ≠ '~') (rest : List Char) :
    MaximalRun '~' (before ++ (g.render ++ rest)) before.length g.tildes := by
  rw [render_append]
  refine ⟨h.tildes, fun i hle hlt => ?_, fun i hi => ?_, ?_⟩
  · rw [List.getElem?_append_right hle, List.getElem?_append_left (by simp; omega),
      List.getElem?_replicate_of_lt (by omega)]
  · rw [List.getElem?_append_left (by omega), show i = before.length - 1 by omega,
      ← List.getLast?_eq_getElem?]
    exact fun hc => hbefore '~' hc rfl
  · obtain ⟨b, bs, hgap⟩ := List.exists_cons_of_ne_nil h.gap_ne_nil
    have hb : isGap b = true := h.gap b (hgap ▸ List.mem_cons_self)
    rw [List.getElem?_append_right (by omega), List.getElem?_append_right (by simp), hgap]
    simp only [List.length_replicate, Nat.add_sub_cancel_left, Nat.sub_self, List.cons_append,
      List.getElem?_cons_zero, ne_eq, Option.some.injEq]
    rintro rfl
    exact absurd hb (by decide)

end Group

namespace GroupLine

/-- No tilde stands before the tildes of a group: there is a blank, or nothing at all. -/
theorem getLast?_ne_tilde {before blanks : List Char} (hb : IsGapRun blanks)
    (hapart : before = [] ∨ blanks ≠ []) : ∀ c ∈ (before ++ blanks).getLast?, c ≠ '~' := by
  rintro c hc rfl
  have hmem : '~' ∈ blanks := by
    rcases eq_or_ne blanks [] with rfl | hne
    · obtain rfl := hapart.resolve_right fun h => h rfl
      cases hc
    · rw [List.getLast?_append_of_ne_nil _ hne] at hc
      exact List.mem_of_getLast? hc
  exact absurd (hb '~' hmem) (by decide)

/-- **The marks of a rendered line are laid out along it**, whatever was rendered before. -/
theorem laid_marksFrom (n : Int) {trail : List Char} (ht : IsGapRun trail) {first : Bool}
    {groups : List (List Char × Group)} (hchain : Chain first groups) (before : List Char)
    (hfirst : first = true → before = []) :
    Laid (before ++ render ⟨groups, trail⟩) before.length
      (marksFrom n before.length groups) := by
  induction hchain generalizing before with
  | nil =>
    refine .nil fun i c hi hc => ?_
    rw [List.getElem?_append_right hi] at hc
    exact ht c (List.mem_of_getElem? hc)
  | @cons first blanks group rest hb hapart hg hrest ih =>
    -- The line up to the first tilde of the group, and up to the end of the group.
    have hline : before ++ render ⟨(blanks, group) :: rest, trail⟩ =
        (before ++ blanks) ++ (group.render ++ render ⟨rest, trail⟩) := by
      rw [render_cons, List.append_assoc]
    have hbehind : (before ++ blanks) ++ (group.render ++ render ⟨rest, trail⟩) =
        (before ++ blanks ++ group.render) ++ render ⟨rest, trail⟩ :=
      (List.append_assoc _ _ _).symm
    have hlength : before.length + blanks.length = (before ++ blanks).length :=
      List.length_append.symm
    have hmarks : marksFrom n before.length ((blanks, group) :: rest) =
        group.mark n (before ++ blanks).length ::
          marksFrom n (before ++ blanks ++ group.render).length rest := by
      simp only [marksFrom, Group.mark, List.length_append]
    rw [hline, hmarks]
    refine .cons ?_ (fun i c hle hlt hc => ?_) ?_ (Group.spells_mark hg n _ _) ?_
    · exact hlength ▸ Nat.le_add_right _ _
    · rw [List.getElem?_append_left hlt, List.getElem?_append_right hle] at hc
      exact hb c (List.mem_of_getElem? hc)
    · exact Group.maximalRun_tildes hg
        (getLast?_ne_tilde hb (hapart.imp_left hfirst)) _
    · rw [Group.stop_mark hg, ← List.length_append, hbehind]
      exact ih _ fun h => absurd h Bool.false_ne_true

/-- The column of a mark is the length of what is rendered before it. -/
theorem marksFrom_eq (n : Int) : ∀ (groups : List (List Char × Group)) (column : Nat),
    marksFrom n column groups = groups.mapIdx fun i g =>
      g.2.mark n (column + (render ⟨groups.take i, g.1⟩).length)
  | [], _ => rfl
  | (blanks, group) :: rest, column => by
    rw [marksFrom, marksFrom_eq n rest, List.mapIdx_cons]
    refine congrArg₂ List.cons ?_ (congrArg (List.mapIdx · rest) ?_)
    · rfl
    · funext i g
      rw [List.take_succ_cons, render_cons, List.length_append, List.length_append]
      congr 1
      omega

end GroupLine

/-! ## Searching for groups -/

namespace Group

/-- The groups that a search through a text finds, each with its column. The search tries every
place in turn and goes on behind a group that it has found. -/
def search (column : Nat) (cs : List Char) : List (Nat × Group) :=
  match _h : scan? cs with
  | some (group, rest) => (column, group) :: search (column + group.render.length) rest
  | none =>
    match cs with
    | [] => []
    | _ :: rest => search (column + 1) rest
termination_by cs.length
decreasing_by
  · exact length_lt_of_scan? _h
  · exact Nat.lt_succ_self _

theorem search_of_group {cs rest : List Char} {group : Group} (column : Nat)
    (h : scan? cs = some (group, rest)) :
    search column cs = (column, group) :: search (column + group.render.length) rest := by
  rw [search]
  split
  · rename_i g after h'
    rw [h] at h'
    cases h'
    rfl
  · rename_i h'
    rw [h] at h'
    cases h'

/-- No group starts at a blank. -/
theorem search_of_blank {b : Char} (hb : isGap b = true) (column : Nat) (cs : List Char) :
    search column (b :: cs) = search (column + 1) cs := by
  rw [search]
  split
  · rename_i g after h
    obtain ⟨hg, hcs⟩ := wellFormed_of_scan? h
    have hhead := head?_render hg after
    rw [← hcs, List.head?_cons, Option.some.injEq] at hhead
    rw [hhead] at hb
    exact absurd hb (by decide)
  · rfl

theorem search_of_blanks : ∀ {blanks : List Char} (_ : IsGapRun blanks) (column : Nat)
    (cs : List Char), search column (blanks ++ cs) = search (column + blanks.length) cs
  | [], _, _, _ => rfl
  | b :: blanks, h, column, cs => by
    obtain ⟨hb, hblanks⟩ := List.forall_mem_cons.mp h
    rw [List.cons_append, search_of_blank hb, search_of_blanks hblanks, List.length_cons,
      Nat.add_right_comm, Nat.add_assoc]

theorem search_nil (column : Nat) : search column [] = [] := by
  rw [search]
  rfl

end Group

/-- **A search finds the groups of a line** at the columns of its marks. -/
theorem GroupLine.search_render (n : Int) {trail : List Char} (ht : IsGapRun trail) {first : Bool}
    {groups : List (List Char × Group)} (hchain : Chain first groups) (column : Nat) :
    (Group.search column (render ⟨groups, trail⟩)).map (fun found => found.2.mark n found.1) =
      marksFrom n column groups := by
  induction hchain generalizing column with
  | nil =>
    have hrender : render ⟨[], trail⟩ = trail ++ [] := (List.append_nil trail).symm
    rw [hrender, Group.search_of_blanks ht, Group.search_nil]
    rfl
  | @cons first blanks group rest hb _ hg _ ih =>
    rw [render_cons, Group.search_of_blanks hb,
      Group.search_of_group _ (Group.scan?_render hg _), List.map_cons, ih, marksFrom]
    rfl

/-! ## Lines and their marks -/

/-- Marks give back the whole of a line: where its groups are, what they are, and that there is
nothing else but blanks. -/
structure MarksDecode (cs : List Char) (n : Int) (marks : List Mark) : Prop where
  ne_nil : marks ≠ []
  rising : marks.Pairwise fun a b => a.column < b.column
  tildes : ∀ m ∈ marks, MaximalRun '~' cs m.column m.width
  spells : ∀ m ∈ marks, m.Spells cs
  disjoint : marks.Pairwise fun a b => a.stop cs ≤ b.column
  outside : ∀ i c, cs[i]? = some c → (∀ m ∈ marks, ¬ (m.column ≤ i ∧ i < m.stop cs)) →
    isGap c = true
  /-- A search that tries every place of the line finds the same groups. -/
  found : marks = (Group.search 0 cs).map fun found => found.2.mark n found.1

theorem marksDecode_marks (n : Int) {a : GroupLine} (h : a.WellFormed) :
    MarksDecode a.render n (a.marks n) := by
  have hlaid : Laid a.render 0 (a.marks n) :=
    GroupLine.laid_marksFrom n h.trail h.chain [] fun _ => rfl
  refine ⟨?_, ?_, hlaid.maximal, hlaid.spells, hlaid.apart, fun i c => hlaid.outside i.zero_le,
    (GroupLine.search_render n h.trail h.chain 0).symm⟩
  · obtain ⟨first, rest, hgroups⟩ := List.exists_cons_of_ne_nil h.groups_ne_nil
    rw [GroupLine.marks, hgroups]
    exact List.cons_ne_nil _ _
  · exact hlaid.apart.imp fun hle => (Laid.column_lt_stop a.render _).trans_le hle

namespace Line

/-- **Marks are a faithful decoding of an annotation line.** A rendered line is an annotation line
with a mark for each of its groups, in order, at the column that is the length of what is rendered
before it; and the marks of any annotation line give back the whole of it. -/
theorem marks_decode_line (n : Int) :
    (∀ a : GroupLine, a.WellFormed →
      classify (String.ofList a.render) n = .ok (.marked (String.ofList a.render)
        (a.groups.mapIdx fun i g =>
          ⟨(GroupLine.render ⟨a.groups.take i, g.1⟩).length, g.2.tildes, String.ofList g.2.tag,
            n⟩))) ∧
    ∀ text t marks, classify text n = .ok (.marked t marks) →
      t = text ∧ MarksDecode text.toList n marks := by
  constructor
  · intro a h
    refine classify_eq_marked_iff.mpr ⟨rfl, a, h, String.toList_ofList, ?_⟩
    rw [GroupLine.marks, GroupLine.marksFrom_eq]
    simp only [Nat.zero_add, Group.mark]
  · intro text t marks h
    obtain ⟨rfl, a, hwf, hr, rfl⟩ := classify_eq_marked_iff.mp h
    exact ⟨rfl, hr ▸ marksDecode_marks n hwf⟩

/-- Two groups with different blanks before, between and within them. -/
theorem marks_decode_line_two_groups :
    GroupLine.WellFormed
      ⟨[([' '], ⟨2, [' '], ['a']⟩), (['\t'], ⟨1, [' ', '\t'], ['b', '-', 'c']⟩)], [' ']⟩ ∧
    classify " ~~ [a]\t~ \t[b-c] " 3 =
      .ok (.marked " ~~ [a]\t~ \t[b-c] " [⟨1, 2, "a", 3⟩, ⟨8, 1, "b-c", 3⟩]) ∧
    MarksDecode " ~~ [a]\t~ \t[b-c] ".toList 3 [⟨1, 2, "a", 3⟩, ⟨8, 1, "b-c", 3⟩] := by
  have hfirst : Group.WellFormed ⟨2, [' '], ['a']⟩ :=
    ⟨by decide, by decide, by decide, by decide⟩
  have hsecond : Group.WellFormed ⟨1, [' ', '\t'], ['b', '-', 'c']⟩ :=
    ⟨by decide, by decide, by decide, by decide⟩
  have hwf : GroupLine.WellFormed
      ⟨[([' '], ⟨2, [' '], ['a']⟩), (['\t'], ⟨1, [' ', '\t'], ['b', '-', 'c']⟩)], [' ']⟩ :=
    ⟨List.cons_ne_nil _ _,
      .cons (by decide) (Or.inl rfl) hfirst (.cons (by decide) (Or.inr (by decide)) hsecond .nil),
      by decide⟩
  have htext : String.ofList (GroupLine.render
      ⟨[([' '], ⟨2, [' '], ['a']⟩), (['\t'], ⟨1, [' ', '\t'], ['b', '-', 'c']⟩)], [' ']⟩) =
        " ~~ [a]\t~ \t[b-c] " := by decide
  have hmarked := (marks_decode_line 3).1 _ hwf
  rw [htext] at hmarked
  exact ⟨hwf, hmarked, ((marks_decode_line 3).2 _ _ _ hmarked).2⟩

end Line

end LintFixture
