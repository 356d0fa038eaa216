import LintFixture.Proofs.Marks
import LintFixture.Proofs.Reading
import Mathlib.Data.Nat.Find
import Mathlib.Tactic.Push

/-!
# The fault that reading a fixture reports

Lines can be at fault at two times: while they are read, one after the other, and at the end, when
the tags of all annotations are looked up. `LineFault` says of the raw lines what is wrong with one
of them while it is read, and `ReadingFault` which fault is reported: the one of the first line
that has any, and only where no line has one, that of the first group whose tag no line defines.

What a `Parser` finds wrong with a row depends on the rows that it has accepted. Up to the first
fault these are all the rows before (`readable_take_iff`), so there the fault is the one of the raw
lines (`fault?_eq_some_iff`).

Headline: `parse_reports_fault`, a text is refused for its `ReadingFault`, and is read where it has
none.
-/

namespace LintFixture

/-! ## First elements -/

/-- The element that is found is the first one with the property. -/
theorem find?_first {α : Type} {p : α → Bool} {l : List α} {b : α} (h : l.find? p = some b) :
    p b = true ∧ ∃ i : Nat, l[i]? = some b ∧
      ∀ (j : Nat) (a : α), j < i → l[j]? = some a → p a = false := by
  obtain ⟨hp, i, hi, rfl, hfirst⟩ := List.find?_eq_some_iff_getElem.mp h
  refine ⟨hp, i, List.getElem?_eq_getElem hi, fun j a hj ha => ?_⟩
  obtain ⟨hlt, rfl⟩ := List.getElem?_eq_some_iff.mp ha
  simpa using hfirst j hj

/-- The result that is found is that of the first element with one. -/
theorem findSome?_first {α β : Type} {f : α → Option β} {l : List α} {b : β}
    (h : l.findSome? f = some b) :
    ∃ (i : Nat) (a : α), l[i]? = some a ∧ f a = some b ∧
      ∀ (j : Nat) (x : α), j < i → l[j]? = some x → f x = none := by
  obtain ⟨before, a, after, rfl, hf, hnone⟩ := List.findSome?_eq_some_iff.mp h
  refine ⟨before.length, a, by simp, hf, fun j x hj hx => ?_⟩
  rw [List.getElem?_append_left hj] at hx
  exact hnone x (List.mem_of_getElem? hx)

/-! ## What is wrong with a line -/

/-- A legend line defines a tag. -/
def Defines (tag line : String) : Prop := ∃ message, LegendLine tag.toList message line.toList

/-- Line `j` is the first one that defines a tag. -/
structure FirstDefines (lines : List String) (tag : String) (j : Nat) : Prop where
  defines : ∃ line, lines[j]? = some line ∧ Defines tag line
  first : ∀ (i : Nat) (line : String), i < j → lines[i]? = some line → ¬ Defines tag line

theorem FirstDefines.unique {lines : List String} {tag : String} {j k : Nat}
    (hj : FirstDefines lines tag j) (hk : FirstDefines lines tag k) : j = k := by
  obtain ⟨line, hline, hdef⟩ := hj.defines
  obtain ⟨other, hother, hdef'⟩ := hk.defines
  rcases Nat.lt_trichotomy j k with hlt | heq | hlt
  · exact absurd hdef (hk.first j line hlt hline)
  · exact heq
  · exact absurd hdef' (hj.first k other hlt hother)

/-- What is wrong with line `i`, counted from zero, as it is read; faults count from one. -/
inductive LineFault (lines : List String) (i : Nat) : FixtureError → Prop
  /-- It starts like markup and is none. -/
  | malformed {line : String} {reason : Malformation} : lines[i]? = some line →
      MalformedLine line.toList → (reason = .marked ↔ AnnotationLike line.toList) →
      LineFault lines i (.malformed (i + 1 : Nat) line reason)
  /-- It is an annotation line without a source line above it. -/
  | dangling {line : String} : lines[i]? = some line → AnnotationLine line.toList →
      (∀ (j : Nat) (above : String), j < i → lines[j]? = some above → ¬ SourceLine above.toList) →
      LineFault lines i (.dangling (i + 1 : Nat))
  /-- It defines a tag that line `j` has defined. -/
  | duplicateTag {line tag : String} {j : Nat} : lines[i]? = some line → Defines tag line →
      j < i → FirstDefines lines tag j →
      LineFault lines i (.duplicateTag tag (i + 1 : Nat) (j + 1 : Nat))

theorem LineFault.lt_length {lines : List String} {i : Nat} {e : FixtureError}
    (h : LineFault lines i e) : i < lines.length := by
  have hline : ∃ line, lines[i]? = some line := by
    cases h with
    | malformed hline => exact ⟨_, hline⟩
    | dangling hline => exact ⟨_, hline⟩
    | duplicateTag hline => exact ⟨_, hline⟩
  obtain ⟨line, hline⟩ := hline
  exact (List.getElem?_eq_some_iff.mp hline).1

/-- The wording of a refusal goes by the first of the two ways to start like markup. -/
theorem Line.classify_eq_malformed_iff {text : String} {n : Int} (hfeed : '\n' ∉ text.toList)
    {e : FixtureError} :
    classify text n = .error e ↔ ∃ reason, e = .malformed n text reason ∧
      MalformedLine text.toList ∧ (reason = .marked ↔ AnnotationLike text.toList) := by
  have hreason : ∀ {reason : Malformation}, classify text n = .error (.malformed n text reason) →
      (reason = .marked ↔ AnnotationLike text.toList) := by
    intro reason h
    rw [← isAnnotationLike_iff]
    simp only [classify] at h
    split at h
    · cases h
    split at h
    · cases h
    split at h
    · rename_i hlike
      cases h
      simp [hlike]
    · rename_i hlike
      split at h
      · cases h
        simp [hlike]
      · cases h
  constructor
  · intro h
    obtain ⟨reason, rfl⟩ := error_of_classify h
    exact ⟨reason, rfl, (classify_eq_error_iff hfeed).mp ⟨_, h⟩, hreason h⟩
  · rintro ⟨reason, rfl, hm, hlike⟩
    obtain ⟨e, he⟩ := (classify_eq_error_iff (n := n) hfeed).mpr hm
    obtain ⟨other, rfl⟩ := error_of_classify he
    have hother := hreason he
    rw [← hlike] at hother
    cases reason <;> cases other <;> first | exact he | simp at hother

theorem Line.classify_of_defines {text tag : String} (hfeed : '\n' ∉ text.toList)
    (h : Defines tag text) (n : Int) :
    ∃ message, classify text n = .ok (.legend text ⟨tag, message, n⟩) := by
  obtain ⟨message, hl⟩ := h
  have hmessage : '\n' ∉ message := fun hm => hfeed (by rw [hl.2]; simp [hm])
  exact ⟨String.ofList message,
    classify_eq_legend_iff.mpr ⟨rfl, by simpa using hl, by simpa using hmessage, rfl⟩⟩

theorem Line.entryOf?_any_iff {text : String} {n : Int} (hfeed : '\n' ∉ text.toList)
    {tag : String} : (entryOf? text n).any (·.tag == tag) = true ↔ Defines tag text := by
  rw [Option.any_eq_true]
  constructor
  · rintro ⟨entry, he, htag⟩
    unfold entryOf? at he
    split at he
    · rename_i t found hlegend
      cases he
      obtain ⟨-, hl, -⟩ := classify_eq_legend_iff.mp hlegend
      rw [beq_iff_eq] at htag
      exact ⟨_, htag ▸ hl⟩
    · cases he
  · intro h
    obtain ⟨message, hlegend⟩ := classify_of_defines hfeed h n
    exact ⟨_, by rw [entryOf?, hlegend], by simp⟩

theorem Line.lineNumber_of_entryOf? {text : String} {n : Int} {entry : LegendEntry}
    (h : entryOf? text n = some entry) : entry.lineNumber = n := by
  unfold entryOf? at h
  split at h
  · rename_i t found hlegend
    cases h
    exact (classify_eq_legend_iff.mp hlegend).2.2.2
  · cases h

/-- Lines are read one part after the other, up to a fault. -/
theorem Parser.feedAll_append : ∀ (p : Parser) (done rest : List String),
    p.feedAll (done ++ rest) =
      match p.feedAll done with
      | (.ok (), next) => next.feedAll rest
      | (.error e, next) => (.error e, next)
  | _, [], _ => rfl
  | p, text :: done, rest => by
    rw [List.cons_append, feedAll, feedAll]
    cases p.feed text with
    | mk outcome next =>
      cases outcome with
      | error e => rfl
      | ok u => exact feedAll_append next done rest

/-! ## Faults of rows and faults of lines -/

section Lines

variable {lines : List String}

theorem getElem?_numbered (lines : List String) (i : Nat) :
    (numbered lines)[i]? = lines[i]?.map fun text => ⟨i + 1, text⟩ := by
  rw [numbered, getElem?_numberedFrom, Nat.zero_add]

theorem getElem?_take_numbered {i j : Nat} {row : Row} :
    ((numbered lines).take i)[j]? = some row ↔
      j < i ∧ ∃ line, lines[j]? = some line ∧ row = ⟨j + 1, line⟩ := by
  rw [List.getElem?_take]
  split
  · rename_i hlt
    rw [getElem?_numbered, Option.map_eq_some_iff]
    simp only [hlt, true_and, eq_comm]
  · rename_i hge
    simp [hge]

theorem take_succ_numbered {i : Nat} {line : String} (hline : lines[i]? = some line) :
    (numbered lines).take (i + 1) = (numbered lines).take i ++ [⟨i + 1, line⟩] := by
  rw [List.take_add_one, getElem?_numbered, hline]
  rfl

/-- There is no source above a line where no line above it is one. -/
theorem sources_take_numbered_eq_nil_iff {i : Nat} :
    sources ((numbered lines).take i) = [] ↔
      ∀ (j : Nat) (above : String), j < i → lines[j]? = some above →
        ¬ SourceLine above.toList := by
  rw [sources_take_numbered, ← not_iff_not, ← ne_eq, filter_take_ne_nil_iff]
  push Not
  simp only [exists_and_left]

variable (hfeed : ∀ line ∈ lines, '\n' ∉ line.toList)
include hfeed

theorem entryOf?_any_iff {tag line : String} {j : Nat} {n : Int} (hline : lines[j]? = some line) :
    (Line.entryOf? line n).any (·.tag == tag) = true ↔ Defines tag line :=
  Line.entryOf?_any_iff (hfeed line (List.mem_of_getElem? hline))

/-- Rows are searched from the first one on, so the row that is found is the first one to define
the tag. -/
theorem firstDefines_of_find? {i : Nat} {tag : String} {row : Row}
    (h : ((numbered lines).take i).find? (fun row =>
      (Line.entryOf? row.text row.number).any (·.tag == tag)) = some row) :
    ∃ j < i, row.number = j + 1 ∧ FirstDefines lines tag j := by
  obtain ⟨htag, j, hj, hbefore⟩ := find?_first h
  obtain ⟨hlt, line, hline, rfl⟩ := getElem?_take_numbered.mp hj
  refine ⟨j, hlt, rfl, ⟨line, hline, (entryOf?_any_iff hfeed hline).mp htag⟩,
    fun k other hk hother hdefines => ?_⟩
  have hnone := hbefore k ⟨k + 1, other⟩ hk
    (getElem?_take_numbered.mpr ⟨hk.trans hlt, other, hother, rfl⟩)
  rw [(entryOf?_any_iff hfeed hother).mpr hdefines] at hnone
  cases hnone

/-- The legend of the first rows has a tag from the line that is the first to define it. -/
theorem find?_definitions_iff {i : Nat} {tag : String} {m : Int} :
    (∃ entry, (⟨definitions ((numbered lines).take i)⟩ : Legend).find? tag = some entry ∧
        entry.lineNumber = m) ↔
      ∃ j < i, FirstDefines lines tag j ∧ m = (j + 1 : Nat) := by
  have hfind : (⟨definitions ((numbered lines).take i)⟩ : Legend).find? tag =
      (((numbered lines).take i).find? fun row =>
        (Line.entryOf? row.text row.number).any (·.tag == tag)).bind
          fun row => Line.entryOf? row.text row.number := List.find?_filterMap
  rw [hfind]
  constructor
  · rintro ⟨entry, he, hm⟩
    obtain ⟨row, hrow, hentry⟩ := Option.bind_eq_some_iff.mp he
    obtain ⟨j, hj, hnumber, hfirst⟩ := firstDefines_of_find? hfeed hrow
    rw [Line.lineNumber_of_entryOf? hentry, hnumber] at hm
    exact ⟨j, hj, hfirst, hm.symm⟩
  · rintro ⟨j, hj, hfirst, rfl⟩
    obtain ⟨line, hline, hdefines⟩ := hfirst.defines
    have hsome : (((numbered lines).take i).find? fun row =>
        (Line.entryOf? row.text row.number).any (·.tag == tag)).isSome = true := by
      rw [List.find?_isSome]
      exact ⟨⟨j + 1, line⟩, List.mem_of_getElem?
        (getElem?_take_numbered.mpr ⟨hj, line, hline, rfl⟩),
        (entryOf?_any_iff hfeed hline).mpr hdefines⟩
    obtain ⟨row, hrow⟩ := Option.isSome_iff_exists.mp hsome
    obtain ⟨k, -, hnumber, hfirst'⟩ := firstDefines_of_find? hfeed hrow
    obtain rfl := hfirst.unique hfirst'
    obtain ⟨entry, hentry⟩ :=
      Option.isSome_iff_exists.mp (Option.isSome_of_any (find?_first hrow).1)
    exact ⟨entry, by rw [hrow]; exact hentry, by rw [Line.lineNumber_of_entryOf? hentry, hnumber]⟩

/-- **The fault of a row** that comes after the rows of all lines before it is what is wrong with
its line. -/
theorem fault?_eq_some_iff {i : Nat} {line : String} (hline : lines[i]? = some line)
    {e : FixtureError} :
    fault? ((numbered lines).take i) ⟨i + 1, line⟩ = some e ↔ LineFault lines i e := by
  have hlf := hfeed line (List.mem_of_getElem? hline)
  unfold fault?
  dsimp only
  constructor
  · intro h
    cases hc : Line.classify line (i + 1 : Nat) with
    | error e' =>
      rw [hc] at h
      cases h
      obtain ⟨reason, rfl, hm, hreason⟩ := (Line.classify_eq_malformed_iff hlf).mp hc
      exact .malformed hline hm hreason
    | ok l =>
      rw [hc] at h
      cases l with
      | source t => cases h
      | marked t marks =>
        obtain ⟨-, a, hwf, hr, -⟩ := Line.classify_eq_marked_iff.mp hc
        dsimp only at h
        split at h
        · rename_i hnone
          cases h
          exact .dangling hline ⟨a, hwf, hr⟩ (sources_take_numbered_eq_nil_iff.mp hnone)
        · cases h
      | legend t entry =>
        obtain ⟨-, hl, -, hn⟩ := Line.classify_eq_legend_iff.mp hc
        obtain ⟨earlier, hfind, rfl⟩ := Option.map_eq_some_iff.mp h
        obtain ⟨j, hj, hfirst, hm⟩ :=
          (find?_definitions_iff hfeed).mp ⟨earlier, hfind, rfl⟩
        rw [hn, hm]
        exact .duplicateTag hline ⟨_, hl⟩ hj hfirst
  · rintro (⟨hline', hm, hreason⟩ | ⟨hline', ⟨a, hwf, hr⟩, hnone⟩ | ⟨hline', hdefines, hj, hfirst⟩)
    all_goals
      rw [hline] at hline'
      cases hline'
    · rw [(Line.classify_eq_malformed_iff hlf).mpr ⟨_, rfl, hm, hreason⟩]
    · rw [Line.classify_eq_marked_iff.mpr ⟨rfl, a, hwf, hr, rfl⟩]
      exact if_pos (sources_take_numbered_eq_nil_iff.mpr hnone)
    · obtain ⟨message, hlegend⟩ := Line.classify_of_defines hlf hdefines (i + 1 : Nat)
      obtain ⟨earlier, hfind, hm⟩ := (find?_definitions_iff hfeed).mpr ⟨_, hj, hfirst, rfl⟩
      rw [hlegend]
      exact Option.map_eq_some_iff.mpr ⟨earlier, hfind, by rw [hm]⟩

/-- **Rows are readable up to the first line at fault.** -/
theorem readable_take_iff : ∀ {i : Nat}, i ≤ lines.length →
    (Readable ((numbered lines).take i) ↔ ∀ j < i, ∀ e, ¬ LineFault lines j e)
  | 0, _ => iff_of_true readable_nil fun _ hj => absurd hj (Nat.not_lt_zero _)
  | i + 1, hi => by
    have hline : lines[i]? = some lines[i] := List.getElem?_eq_getElem hi
    rw [take_succ_numbered hline, readable_concat, readable_take_iff (Nat.le_of_succ_le hi),
      Nat.forall_lt_succ_right, Option.eq_none_iff_forall_ne_some]
    exact and_congr_right fun _ => forall_congr' fun e => not_congr (fault?_eq_some_iff hfeed hline)

theorem readable_numbered_iff :
    Readable (numbered lines) ↔ ∀ i e, ¬ LineFault lines i e := by
  have hlength : (numbered lines).length = lines.length := by
    rw [← List.length_map (·.text), numbered, map_text_numberedFrom]
  have htake := readable_take_iff hfeed le_rfl
  rw [List.take_of_length_le hlength.le] at htake
  rw [htake]
  exact ⟨fun h i e hfault => h i hfault.lt_length e hfault, fun h i _ => h i⟩

/-- **A run stops at the first line at fault** with what is wrong there. -/
theorem ofLines_of_lineFault {i : Nat} {e : FixtureError} (h : LineFault lines i e)
    (hfirst : ∀ j < i, ∀ e', ¬ LineFault lines j e') : Fixture.ofLines lines = .error e := by
  have hi := h.lt_length
  have hline : lines[i]? = some lines[i] := List.getElem?_eq_getElem hi
  have hrows : numberedFrom 0 (lines.take i) = (numbered lines).take i := by
    refine List.ext_getElem? fun j => ?_
    rw [getElem?_numberedFrom, List.getElem?_take, List.getElem?_take, getElem?_numbered,
      Nat.zero_add]
    split <;> rfl
  have hreadable : Readable ([] ++ numberedFrom 0 (lines.take i)) :=
    hrows ▸ (readable_take_iff hfeed hi.le).mpr hfirst
  have hcount : 0 + (lines.take i).length = i := by
    rw [List.length_take_of_le hi.le, Nat.zero_add]
  have hrun := Parser.feedAll_of_readable (lines.take i) hreadable
  rw [List.nil_append, hrows, hcount] at hrun
  have hcut : lines = lines.take i ++ lines[i] :: lines.drop (i + 1) := by
    rw [List.getElem_cons_drop, List.take_append_drop]
  have hfeedAll : ∃ p, Parser.start.feedAll lines = (.error e, p) := by
    rw [← Parser.after_nil, hcut, Parser.feedAll_append, hrun]
    dsimp only
    rw [Parser.feedAll, Parser.feed_after, (fault?_eq_some_iff hfeed hline).mpr h]
    exact ⟨_, rfl⟩
  obtain ⟨p, hp⟩ := hfeedAll
  rw [Fixture.ofLines, hp]

end Lines

/-! ## The end of a run -/

/-- The steps of a list fail with the error of the first one that does. -/
theorem mapM_eq_error_iff {α β ε : Type} {f : α → Except ε β} {e : ε} : ∀ {l : List α},
    l.mapM f = .error e ↔ ∃ a, l.find? (fun a => !(f a).isOk) = some a ∧ f a = .error e
  | [] => by
    rw [List.mapM_nil]
    constructor
    · intro h
      cases h
    · rintro ⟨a, h, -⟩
      cases h
  | a :: l => by
    rw [List.mapM_cons]
    cases ha : f a with
    | error e' =>
      rw [List.find?_cons_of_pos (by rw [ha]; rfl)]
      constructor
      · intro h
        cases h
        exact ⟨a, rfl, ha⟩
      · rintro ⟨b, hb, he⟩
        cases hb
        rw [ha] at he
        cases he
        rfl
    | ok b =>
      rw [List.find?_cons_of_neg (by rw [ha]; simp [Except.isOk, Except.toBool]),
        ← mapM_eq_error_iff]
      cases l.mapM f with
      | error e' =>
        constructor
        · intro h
          cases h
          rfl
        · intro h
          cases h
          rfl
      | ok bs =>
        constructor
        · intro h
          cases h
        · intro h
          cases h

/-- The steps before the first one that fails succeed. -/
theorem mapM_eq_error_iff_append {α β ε : Type} {f : α → Except ε β} {e : ε} {l : List α} :
    l.mapM f = .error e ↔ ∃ before a after, l = before ++ a :: after ∧
      (∀ b ∈ before, ∃ v, f b = .ok v) ∧ f a = .error e := by
  have hok : ∀ a, (f a).isOk = true ↔ ∃ v, f a = .ok v := fun a => by
    cases f a <;> simp [Except.isOk, Except.toBool]
  rw [mapM_eq_error_iff]
  constructor
  · rintro ⟨a, hfirst, hfault⟩
    obtain ⟨-, before, after, hsplit, hbefore⟩ := List.find?_eq_some_iff_append.mp hfirst
    exact ⟨before, a, after, hsplit, fun b hb => (hok b).mp (by simpa using hbefore b hb), hfault⟩
  · rintro ⟨before, a, after, hsplit, hbefore, hfault⟩
    refine ⟨a, List.find?_eq_some_iff_append.mpr ⟨?_, before, after, hsplit, ?_⟩, hfault⟩
    · rw [hfault]
      rfl
    · intro b hb
      rw [(hok b).mpr (hbefore b hb)]
      rfl

/-- Some step of a list fails exactly where all of them together do. -/
theorem exists_mapM_eq_error_iff {α β ε : Type} {f : α → Except ε β} {l : List α} :
    (∃ e, l.mapM f = .error e) ↔ ∃ a ∈ l, ∃ e, f a = .error e := by
  simp only [mapM_eq_error_iff]
  constructor
  · rintro ⟨e, a, ha, he⟩
    exact ⟨a, List.mem_of_find?_eq_some ha, e, he⟩
  · rintro ⟨a, ha, e, he⟩
    have hsome : (l.find? fun a => !(f a).isOk).isSome = true :=
      List.find?_isSome.mpr ⟨a, ha, by rw [he]; rfl⟩
    obtain ⟨b, hb⟩ := Option.isSome_iff_exists.mp hsome
    have hfails := List.find?_some hb
    cases hfb : f b with
    | error e' => exact ⟨e', b, hb, hfb⟩
    | ok v =>
      rw [hfb] at hfails
      cases hfails

theorem Parser.isOk_expectation (legend : Legend) (m : AnchoredMark) :
    (expectation legend m).isOk = legend.contains m.mark.tag := by
  unfold expectation Legend.resolve Legend.contains
  cases legend.find? m.mark.tag <;> rfl

theorem Parser.expectation_eq_error_iff {legend : Legend} {m : AnchoredMark} {e : FixtureError} :
    expectation legend m = .error e ↔
      legend.contains m.mark.tag = false ∧ e = .unresolvedTag m.mark.tag m.mark.lineNumber := by
  unfold expectation Legend.resolve Legend.contains
  cases legend.find? m.mark.tag with
  | none =>
    refine ⟨fun h => ?_, fun h => congrArg Except.error h.2.symm⟩
    cases h
    exact ⟨rfl, rfl⟩
  | some entry =>
    constructor
    · intro h
      cases h
    · rintro ⟨h, -⟩
      cases h

/-- The end of a run fails where a mark has no expectation. -/
theorem Parser.finish_eq_error_iff {p : Parser} {e : FixtureError} :
    p.finish = .error e ↔ p.marks.toList.mapM (expectation p.legend) = .error e := by
  unfold finish
  cases p.marks.toList.mapM (expectation p.legend) with
  | error e' =>
    constructor
    · intro h
      cases h
      rfl
    · intro h
      cases h
      rfl
  | ok expected =>
    constructor
    · intro h
      cases h
    · intro h
      cases h

/-- **The end of a run** fails at the first annotation whose tag has no definition. -/
theorem finish_after_eq_error_iff {rows : List Row} {n : Nat} {e : FixtureError} :
    (Parser.after rows n).finish = .error e ↔
      ∃ a, (annotations rows).find?
          (fun a => !(⟨definitions rows⟩ : Legend).contains a.mark.tag) = some a ∧
        e = .unresolvedTag a.mark.tag a.mark.lineNumber := by
  have hfinish : (Parser.after rows n).finish = .error e ↔
      ((annotations rows).map Annotation.anchored).mapM
        (Parser.expectation ⟨definitions rows⟩) = .error e := Parser.finish_eq_error_iff
  rw [hfinish, mapM_eq_error_iff, List.find?_map]
  simp only [Parser.isOk_expectation, Parser.expectation_eq_error_iff, Option.map_eq_some_iff,
    Function.comp_def, Annotation.anchored]
  constructor
  · rintro ⟨m, ⟨a, ha, rfl⟩, -, he⟩
    exact ⟨a, ha, he⟩
  · rintro ⟨a, ha, he⟩
    exact ⟨_, ⟨a, ha, rfl⟩, by simpa using List.find?_some ha, he⟩

/-! ## Tags without definition -/

/-- Group `k` of line `i` refers to a tag. -/
def RefersTo (lines : List String) (i k : Nat) (tag : String) : Prop :=
  ∃ (line : String) (a : GroupLine) (g : List Char × Group), lines[i]? = some line ∧
    a.WellFormed ∧ line.toList = a.render ∧ a.groups[k]? = some g ∧ g.2.tag = tag.toList

/-- Group `k` of line `i` refers to a tag that no line defines. -/
structure Unexplained (lines : List String) (i k : Nat) (tag : String) : Prop where
  refers : RefersTo lines i k tag
  undefined : ∀ line ∈ lines, ¬ Defines tag line

/-- Group `k` of line `i` is the first one in the order of reading of which this holds. -/
structure FirstUnexplained (lines : List String) (i k : Nat) (tag : String) : Prop where
  unexplained : Unexplained lines i k tag
  first : ∀ i' k' tag', Unexplained lines i' k' tag' → i < i' ∨ (i = i' ∧ k ≤ k')

/-- The marks of a line are those of its groups. -/
theorem getElem?_marksOf_iff {text : String} {n : Int} {k : Nat} {m : Mark} :
    (Line.marksOf text n)[k]? = some m ↔
      ∃ (a : GroupLine) (g : List Char × Group), a.WellFormed ∧ text.toList = a.render ∧
        a.groups[k]? = some g ∧
        m = g.2.mark n (0 + (GroupLine.render ⟨a.groups.take k, g.1⟩).length) := by
  have hmarks : ∀ {a : GroupLine}, a.WellFormed → text.toList = a.render →
      (Line.marksOf text n)[k]? = a.groups[k]?.map fun g =>
        g.2.mark n (0 + (GroupLine.render ⟨a.groups.take k, g.1⟩).length) := by
    intro a hwf hr
    have hclassify := Line.classify_eq_marked_iff (n := n).mpr ⟨rfl, a, hwf, hr, rfl⟩
    rw [(Line.parts_of_marked hclassify).2.2.1, GroupLine.marks, GroupLine.marksFrom_eq,
      List.getElem?_mapIdx]
  constructor
  · intro hm
    obtain ⟨a, hwf, hr⟩ : AnnotationLine text.toList :=
      marksOf_ne_nil_iff.mp (List.ne_nil_of_mem (List.mem_of_getElem? hm))
    rw [hmarks hwf hr] at hm
    obtain ⟨g, hg, rfl⟩ := Option.map_eq_some_iff.mp hm
    exact ⟨a, g, hwf, hr, hg, rfl⟩
  · rintro ⟨a, g, hwf, hr, hg, rfl⟩
    rw [hmarks hwf hr, hg]
    rfl

theorem refersTo_iff {lines : List String} {i k : Nat} {tag : String} (n : Int) :
    RefersTo lines i k tag ↔ ∃ (line : String) (m : Mark), lines[i]? = some line ∧
      (Line.marksOf line n)[k]? = some m ∧ m.tag = tag := by
  simp only [getElem?_marksOf_iff]
  constructor
  · rintro ⟨line, a, g, hline, hwf, hr, hg, htag⟩
    exact ⟨line, _, hline, ⟨a, g, hwf, hr, hg, rfl⟩, by rw [Group.mark, htag, String.ofList_toList]⟩
  · rintro ⟨line, m, hline, ⟨a, g, hwf, hr, hg, rfl⟩, rfl⟩
    exact ⟨line, a, g, hline, hwf, hr, hg, String.toList_ofList.symm⟩

/-- The annotation that is found is the first one in the order of reading with the property. -/
theorem find?_annotationsOf {lines : List String} {p : Mark → Bool} {a : Annotation}
    (h : (annotationsOf lines).find? (fun a => p a.mark) = some a) :
    p a.mark = true ∧ ∃ (i k : Nat) (line : String), lines[i]? = some line ∧
      (Line.marksOf line (i + 1 : Nat))[k]? = some a.mark ∧
      ∀ (i' k' : Nat) (line' : String) (m : Mark), lines[i']? = some line' →
        (Line.marksOf line' (i' + 1 : Nat))[k']? = some m → p m = true →
          i < i' ∨ (i = i' ∧ k ≤ k') := by
  refine ⟨by simpa using List.find?_some h, ?_⟩
  have hrow : ∀ {r : Nat} {x : Row × Nat}, (numbered lines).zipIdx[r]? = some x ↔
      ∃ line, lines[r]? = some line ∧ x = (⟨r + 1, line⟩, r) := by
    intro r x
    rw [List.getElem?_zipIdx, getElem?_numbered, Option.map_map, Option.map_eq_some_iff]
    simp only [Function.comp_def, Nat.zero_add, eq_comm]
  rw [annotationsOf, annotations, List.find?_flatMap] at h
  obtain ⟨i, x, hx, hfound, hnone⟩ := findSome?_first h
  obtain ⟨line, hline, rfl⟩ := hrow.mp hx
  dsimp only at hfound
  rw [List.find?_map] at hfound
  obtain ⟨m, hm, rfl⟩ := Option.map_eq_some_iff.mp hfound
  obtain ⟨-, k, hk, hbefore⟩ := find?_first hm
  refine ⟨i, k, line, hline, hk, fun i' k' line' m' hline' hk' hp => ?_⟩
  rcases Nat.lt_trichotomy i i' with hlt | rfl | hlt
  · exact Or.inl hlt
  · rw [hline] at hline'
    cases hline'
    refine Or.inr ⟨rfl, Nat.le_of_not_lt fun hlt => ?_⟩
    have hno : p m' = false := hbefore k' m' hlt hk'
    rw [hp] at hno
    cases hno
  · have hno := hnone i' _ hlt (hrow.mpr ⟨line', hline', rfl⟩)
    dsimp only at hno
    rw [List.find?_map, Option.map_eq_none_iff, List.find?_eq_none] at hno
    exact absurd hp (hno m' (List.mem_of_getElem? hk'))

section Tags

variable {lines : List String} (hfeed : ∀ line ∈ lines, '\n' ∉ line.toList)
include hfeed

/-- The legend has the tags that the lines define. -/
theorem contains_legendOf_iff {tag : String} :
    (legendOf lines).contains tag = false ↔ ∀ line ∈ lines, ¬ Defines tag line := by
  have htags : tag ∈ (legendOf lines).tags ↔ ∃ line ∈ lines, Defines tag line := by
    constructor
    · intro h
      obtain ⟨entry, hentry, htag⟩ := List.mem_map.mp h
      obtain ⟨row, hrow, he⟩ := List.mem_filterMap.mp hentry
      have hline : row.text ∈ lines := by
        rw [← map_text_numberedFrom lines 0]
        exact List.mem_map_of_mem hrow
      refine ⟨row.text, hline, (Line.entryOf?_any_iff (n := row.number) (hfeed _ hline)).mp ?_⟩
      rw [he]
      simpa using htag
    · rintro ⟨line, hline, hdef⟩
      obtain ⟨i, hi⟩ := List.mem_iff_getElem?.mp hline
      have hany := (Line.entryOf?_any_iff (n := (i + 1 : Nat)) (hfeed _ hline)).mpr hdef
      rw [Option.any_eq_true] at hany
      obtain ⟨entry, he, htag⟩ := hany
      have hrow : (⟨i + 1, line⟩ : Row) ∈ numbered lines :=
        List.mem_of_getElem? (by rw [getElem?_numbered, hi]; rfl)
      exact List.mem_map.mpr ⟨entry, List.mem_filterMap.mpr ⟨_, hrow, he⟩, by simpa using htag⟩
  rw [Legend.contains, Option.isSome_eq_false_iff, Option.isNone_iff_eq_none,
    Legend.find?_eq_none_iff, htags]
  push Not
  rfl

/-- Where a tag is looked up in vain, its group is the first one without explanation. -/
theorem firstUnexplained_of_find? {a : Annotation}
    (h : (annotationsOf lines).find? (fun a => !(legendOf lines).contains a.mark.tag) = some a) :
    ∃ i k, FirstUnexplained lines i k a.mark.tag ∧ a.mark.lineNumber = (i + 1 : Nat) := by
  obtain ⟨hp, i, k, line, hline, hk, hfirst⟩ :=
    find?_annotationsOf (p := fun m => !(legendOf lines).contains m.tag) h
  have hundefined := (contains_legendOf_iff hfeed).mp (by simpa using hp)
  refine ⟨i, k, ⟨⟨(refersTo_iff _).mpr ⟨line, a.mark, hline, hk, rfl⟩, hundefined⟩, ?_⟩, ?_⟩
  · intro i' k' tag' hother
    obtain ⟨line', m, hline', hm, rfl⟩ := (refersTo_iff (i' + 1 : Nat)).mp hother.refers
    refine hfirst i' k' line' m hline' hm ?_
    simpa using (contains_legendOf_iff hfeed).mpr hother.undefined
  · obtain ⟨b, g, -, -, -, hmark⟩ := getElem?_marksOf_iff.mp hk
    rw [hmark, Group.mark]

theorem find?_unexplained_iff {e : FixtureError} :
    (∃ a, (annotationsOf lines).find? (fun a => !(legendOf lines).contains a.mark.tag) = some a ∧
        e = .unresolvedTag a.mark.tag a.mark.lineNumber) ↔
      ∃ i k tag, FirstUnexplained lines i k tag ∧ e = .unresolvedTag tag (i + 1 : Nat) := by
  constructor
  · rintro ⟨a, ha, rfl⟩
    obtain ⟨i, k, hfirst, hnumber⟩ := firstUnexplained_of_find? hfeed ha
    exact ⟨i, k, _, hfirst, by rw [hnumber]⟩
  · rintro ⟨i, k, tag, hfirst, rfl⟩
    obtain ⟨line, m, hline, hm, rfl⟩ := (refersTo_iff (i + 1 : Nat)).mp hfirst.unexplained.refers
    have hsome : ((annotationsOf lines).find?
        fun a => !(legendOf lines).contains a.mark.tag).isSome = true := by
      rw [List.find?_isSome]
      refine ⟨⟨_, m⟩, mem_annotationsOf_iff.mpr
        ⟨i, ⟨line, hline, List.mem_of_getElem? hm⟩, rfl⟩, ?_⟩
      simpa using (contains_legendOf_iff hfeed).mpr hfirst.unexplained.undefined
    obtain ⟨a, ha⟩ := Option.isSome_iff_exists.mp hsome
    obtain ⟨i', k', hfirst', hnumber⟩ := firstUnexplained_of_find? hfeed ha
    -- Both groups are the first one, so they are the same.
    have hle := hfirst.first i' k' _ hfirst'.unexplained
    have hge := hfirst'.first i k _ hfirst.unexplained
    obtain ⟨rfl, rfl⟩ : i = i' ∧ k = k' := by omega
    obtain ⟨line', m', hline', hm', htag⟩ :=
      (refersTo_iff (i + 1 : Nat)).mp hfirst'.unexplained.refers
    rw [hline] at hline'
    cases hline'
    rw [hm] at hm'
    cases hm'
    exact ⟨a, ha, by rw [htag, hnumber]⟩

end Tags

/-! ## The fault that is reported -/

/-- The fault of lines, if they have one: that of the first line at fault; and only where there is
none, that of the first group whose tag is not defined. -/
inductive ReadingFault (lines : List String) : FixtureError → Prop
  | line {i : Nat} {e : FixtureError} : LineFault lines i e →
      (∀ j < i, ∀ e', ¬ LineFault lines j e') → ReadingFault lines e
  | unresolvedTag {i k : Nat} {tag : String} : (∀ j e, ¬ LineFault lines j e) →
      FirstUnexplained lines i k tag → ReadingFault lines (.unresolvedTag tag (i + 1 : Nat))

theorem ofLines_eq_error_iff {lines : List String} (hfeed : ∀ line ∈ lines, '\n' ∉ line.toList)
    {e : FixtureError} : Fixture.ofLines lines = .error e ↔ ReadingFault lines e := by
  by_cases hread : ∀ i e, ¬ LineFault lines i e
  · -- Every line is read, and the tags decide.
    have hreadable := (readable_numbered_iff hfeed).mpr hread
    have hrun := @Parser.feedAll_of_readable lines [] 0 hreadable
    rw [Parser.after_nil] at hrun
    have hend : Fixture.ofLines lines = .error e ↔
        ∃ i k tag, FirstUnexplained lines i k tag ∧ e = .unresolvedTag tag (i + 1 : Nat) := by
      rw [Fixture.ofLines, hrun, ← find?_unexplained_iff hfeed]
      exact finish_after_eq_error_iff
    rw [hend]
    constructor
    · rintro ⟨i, k, tag, hfirst, rfl⟩
      exact .unresolvedTag hread hfirst
    · rintro (⟨hfault, -⟩ | ⟨-, hfirst⟩)
      · exact absurd hfault (hread _ _)
      · exact ⟨_, _, _, hfirst, rfl⟩
  · -- The run ends at the first line at fault.
    push Not at hread
    constructor
    · intro h
      classical
      obtain ⟨e', hfault⟩ := Nat.find_spec hread
      have hfirst : ∀ j < Nat.find hread, ∀ e', ¬ LineFault lines j e' := fun j hj =>
        not_exists.mp (Nat.find_min hread hj)
      rw [ofLines_of_lineFault hfeed hfault hfirst] at h
      cases h
      exact .line hfault hfirst
    · rintro (⟨hfault, hfirst⟩ | ⟨hnone, -⟩)
      · exact ofLines_of_lineFault hfeed hfault hfirst
      · obtain ⟨i, e', hfault⟩ := hread
        exact absurd hfault (hnone i e')

theorem parse_eq_error_iff {text : String} {e : FixtureError} :
    Fixture.parse text = .error e ↔ ReadingFault (Text.splitLines text) e :=
  ofLines_eq_error_iff fun _ hline => Text.not_mem_of_mem_splitLines hline

/-- **A text is refused for its first fault**, and it is read where it has none. -/
theorem parse_reports_fault (text : String) :
    (∀ e, Fixture.parse text = .error e ↔ ReadingFault (Text.splitLines text) e) ∧
      ((∃ f, Fixture.parse text = .ok f) ↔ ∀ e, ¬ ReadingFault (Text.splitLines text) e) := by
  refine ⟨fun e => parse_eq_error_iff, ?_⟩
  simp only [← parse_eq_error_iff]
  cases Fixture.parse text with
  | error e => simp
  | ok f => simp

end LintFixture
