import LintFixture.Proofs.BannedWords
import Mathlib.Data.List.DropRight

/-!
# Where the built-in rules report

A rule that looks at every line by itself reports on lines that a source has, one line after the
other. So its reports lie in the source, and rise by position, if in every line what it finds lies
in the line and goes from left to right (`placed_diagnosticsOf`). Which lines it reports, and with
which spans, is what it finds in one line too (`marksLines_diagnosticsOf`).

A line is cut in two at the run of spaces and tabs that ends it. The run reaches to the last
character that is neither, however many runs there are before (`EndsInBlanks`), and a line has
one such run at most (`EndsInBlanks.unique`).

The limit for the length of a line is the one that options set (`SetsLimit`). It stands in the
message of every report, so a line that exceeds a limit without a numeral cannot be reported. Only
negative limits are so long that they matter here.

Results:
* `check_builtin_spans`: the reports of every built-in rule lie in the source and rise by position;
  which lines the rules for blanks and for long lines report, and where.
* `not_check_builtin_spans_unwritable`: a limit that cannot be shown keeps a long line from being
  reported.
-/

namespace LintFixture

/-- A diagnostic marks a span of a line that a source has. -/
def Diagnostic.LiesIn (d : Diagnostic) (source : String) : Prop :=
  ∃ (line column width : Nat) (text : String), d.line = line ∧ d.column = column ∧
    d.width = some (width : Int) ∧ (Text.splitLines source)[line]? = some text ∧
    column + width ≤ text.toList.length

namespace Rule

/-! ## Rules that look at every line by itself -/

/-- Diagnostics mark spans of a source, and rise by position. -/
structure Placed (source : String) (ds : List Diagnostic) : Prop where
  inside : ∀ d ∈ ds, d.LiesIn source
  rises : ds.Pairwise fun a b => a.position.Before b.position

/-- Diagnostics mark the lines of a source that have a property, and in them the spans of some
kind. -/
structure MarksLines (marked : List Char → Prop) (span : List Char → (column width : Nat) → Prop)
    (source : String) (ds : List Diagnostic) : Prop where
  marked_iff : ∀ (line : Nat) text, (Text.splitLines source)[line]? = some text →
    ((∃ d ∈ ds, d.line = line) ↔ marked text.toList)
  span_iff : ∀ (line : Nat) text, (Text.splitLines source)[line]? = some text →
    ∀ column width : Nat,
    ((∃ d ∈ ds, d.line = line ∧ d.column = column ∧ d.width = some (width : Int)) ↔
      span text.toList column width)

section Lines

variable {find : List Char → List Finding} {marked : List Char → Prop}
  {span : List Char → (column width : Nat) → Prop}

theorem placed_diagnosticsOf (name source : String)
    (hinside : ∀ cs, ∀ f ∈ find cs, f.column + f.width ≤ cs.length)
    (hrises : ∀ cs, (find cs).Pairwise fun f g => f.column < g.column) :
    Placed source (diagnosticsOf name source find) where
  inside d hd := by
    obtain ⟨text, line, htext, f, hf, rfl⟩ := mem_diagnosticsOf_iff.mp hd
    exact ⟨line, f.column, f.width, text, rfl, rfl, rfl, htext, hinside text.toList f hf⟩
  rises := pairwise_diagnosticsOf fun _ cs =>
    List.pairwise_map.mpr ((hrises cs).imp fun h => Int.ofNat_lt.mpr h)

/-- Nothing is reported where nothing is found in any line. -/
theorem diagnosticsOf_eq_nil_iff (name : String) {source : String} :
    diagnosticsOf name source find = [] ↔
      ∀ text ∈ Text.splitLines source, find text.toList = [] := by
  simp only [List.eq_nil_iff_forall_not_mem]
  constructor
  · intro h text htext f hf
    obtain ⟨line, hline⟩ := List.mem_iff_getElem?.mp htext
    exact h _ (mem_diagnosticsOf_iff.mpr ⟨text, line, hline, f, hf, rfl⟩)
  · intro h d hd
    obtain ⟨text, line, hline, f, hf, -⟩ := mem_diagnosticsOf_iff.mp hd
    exact h text (List.mem_of_getElem? hline) f hf

/-- The spans that are marked in a line are those that are found in it. -/
theorem exists_mem_diagnosticsOf_iff (name : String) {source text : String} {line : Nat}
    (htext : (Text.splitLines source)[line]? = some text) (column width : Nat) :
    (∃ d ∈ diagnosticsOf name source find,
        d.line = line ∧ d.column = column ∧ d.width = some (width : Int)) ↔
      ∃ f ∈ find text.toList, f.column = column ∧ f.width = width := by
  constructor
  · rintro ⟨d, hd, hline, hcolumn, hwidth⟩
    obtain ⟨text', line', htext', f, hf, rfl⟩ := mem_diagnosticsOf_iff.mp hd
    obtain rfl := Int.ofNat.inj hline
    obtain rfl := Option.some.inj (htext.symm.trans htext')
    exact ⟨f, hf, Int.ofNat.inj hcolumn, Int.ofNat.inj (Option.some.inj hwidth)⟩
  · rintro ⟨f, hf, rfl, rfl⟩
    exact ⟨⟨line, f.column, some f.width, f.message, some name⟩,
      mem_diagnosticsOf_iff.mpr ⟨text, line, htext, f, hf, rfl⟩, rfl, rfl, rfl⟩

theorem marksLines_diagnosticsOf (name source : String)
    (hspan : ∀ cs column width,
      (∃ f ∈ find cs, f.column = column ∧ f.width = width) ↔ span cs column width)
    (hmarked : ∀ cs, (∃ column width, span cs column width) ↔ marked cs) :
    MarksLines marked span source (diagnosticsOf name source find) where
  marked_iff line text htext := by
    rw [← hmarked]
    simp only [← hspan, ← exists_mem_diagnosticsOf_iff name htext]
    constructor
    · rintro ⟨d, hd, hline⟩
      obtain ⟨_, _, _, f, _, rfl⟩ := mem_diagnosticsOf_iff.mp hd
      exact ⟨f.column, f.width, _, hd, hline, rfl, rfl⟩
    · rintro ⟨column, width, d, hd, hline, -, -⟩
      exact ⟨d, hd, hline⟩
  span_iff line text htext column width :=
    (exists_mem_diagnosticsOf_iff name htext column width).trans (hspan text.toList column width)

end Lines

/-! ## The blanks that end a line -/

/-- A line ends in spaces and tabs from a column on, and what stands before is neither. -/
structure EndsInBlanks (cs : List Char) (column width : Nat) : Prop where
  reaches : column + width = cs.length
  pos : 0 < width
  blank : ∀ c ∈ cs.drop column, c = ' ' ∨ c = '\t'
  maximal : ∀ c ∈ (cs.take column).getLast?, c ≠ ' ' ∧ c ≠ '\t'

section Blanks

variable {cs : List Char} {column width : Nat}

/-- Of two such runs of one line none begins before the other. -/
theorem EndsInBlanks.le {column' width' : Nat} (h : EndsInBlanks cs column width)
    (h' : EndsInBlanks cs column' width') : column' ≤ column := by
  -- otherwise what stands before the second one is a blank of the first one
  by_contra hlt
  have hlength : column' ≤ cs.length := by have := h'.reaches; omega
  have hpos : column' - 1 < cs.length := by omega
  have hlast : (cs.take column').getLast? = some cs[column' - 1] := by
    rw [List.getLast?_eq_getElem?, List.length_take, Nat.min_eq_left hlength,
      List.getElem?_take_of_lt (by omega), List.getElem?_eq_getElem hpos]
  have hmem : cs[column' - 1] ∈ cs.drop column :=
    List.mem_drop_iff_getElem.mpr ⟨column' - 1 - column, by omega, by congr 1; omega⟩
  have hnot := h'.maximal _ hlast
  exact (h.blank _ hmem).elim hnot.1 hnot.2

theorem EndsInBlanks.unique {column' width' : Nat} (h : EndsInBlanks cs column width)
    (h' : EndsInBlanks cs column' width') : column = column' ∧ width = width' := by
  have := h.le h'
  have := h'.le h
  have := h.reaches
  have := h'.reaches
  omega

theorem isGap_iff {c : Char} : isGap c = true ↔ c = ' ' ∨ c = '\t' := by
  simp [isGap]

theorem kept_append_blanks (cs : List Char) : cs.rdropWhile isGap ++ cs.rtakeWhile isGap = cs :=
  List.rdropWhile_append_rtakeWhile

/-- What is found is the end of the line behind its last character that is no blank. -/
theorem findTrailingBlank_eq (cs : List Char) :
    findTrailingBlank cs = if cs.rtakeWhile isGap = [] then [] else
      [⟨(cs.rdropWhile isGap).length, (cs.rtakeWhile isGap).length, "trailing whitespace"⟩] := by
  have hkept : cs.length - (cs.rtakeWhile isGap).length = (cs.rdropWhile isGap).length := by
    rw [Nat.sub_eq_iff_eq_add (List.rtakeWhile_suffix isGap cs).length_le, ← List.length_append,
      kept_append_blanks]
  have hrun : (cs.rtakeWhile isGap).length = (cs.reverse.takeWhile isGap).length :=
    List.length_reverse
  rw [← hkept, hrun]
  simp only [List.rtakeWhile, List.reverse_eq_nil_iff]
  simp only [← List.isEmpty_iff]
  rfl

theorem endsInBlanks_of_blanks (h : cs.rtakeWhile isGap ≠ []) :
    EndsInBlanks cs (cs.rdropWhile isGap).length (cs.rtakeWhile isGap).length where
  reaches := by rw [← List.length_append, kept_append_blanks]
  pos := List.length_pos_iff.mpr h
  blank c hc := by
    have hdrop : cs.drop (cs.rdropWhile isGap).length = cs.rtakeWhile isGap :=
      (congrArg (List.drop _) (kept_append_blanks cs).symm).trans List.drop_left
    exact isGap_iff.mp (List.mem_rtakeWhile_imp (hdrop ▸ hc))
  maximal c hc := by
    have htake : cs.take (cs.rdropWhile isGap).length = cs.rdropWhile isGap :=
      (congrArg (List.take _) (kept_append_blanks cs).symm).trans List.take_left
    obtain ⟨hne, rfl⟩ := List.mem_getLast?_eq_getLast (htake ▸ hc)
    exact not_or.mp (mt isGap_iff.mpr (List.rdropWhile_last_not isGap cs hne))

/-- A line ends in blanks from some column on where its last character is one. -/
theorem exists_endsInBlanks_iff (cs : List Char) :
    (∃ column width, EndsInBlanks cs column width) ↔ ∃ c ∈ cs.getLast?, c = ' ' ∨ c = '\t' := by
  constructor
  · rintro ⟨column, width, h⟩
    have hne : cs.drop column ≠ [] := fun hnil => by
      have hend := List.drop_eq_nil_iff.mp hnil
      have := h.reaches
      have := h.pos
      omega
    have hlast : (cs.drop column).getLast hne ∈ (cs.drop column).getLast? :=
      List.getLast?_eq_some_getLast hne
    rw [← List.take_append_drop column cs]
    exact ⟨_, List.mem_getLast?_append_of_mem_getLast? hlast, h.blank _ (List.getLast_mem hne)⟩
  · rintro ⟨c, hc, hblank⟩
    obtain ⟨hne, rfl⟩ := List.mem_getLast?_eq_getLast hc
    refine ⟨_, _, endsInBlanks_of_blanks fun hnil => ?_⟩
    exact List.rtakeWhile_eq_nil_iff.mp hnil hne (isGap_iff.mpr hblank)

/-- What is found in a line is the run of blanks that ends it. -/
theorem exists_mem_findTrailingBlank_iff (cs : List Char) (column width : Nat) :
    (∃ f ∈ findTrailingBlank cs, f.column = column ∧ f.width = width) ↔
      EndsInBlanks cs column width := by
  rw [findTrailingBlank_eq]
  split
  · rename_i hnil
    refine iff_of_false (fun ⟨f, hf, _⟩ => List.not_mem_nil hf) fun h => ?_
    obtain ⟨c, hc, hblank⟩ := (exists_endsInBlanks_iff cs).mp ⟨column, width, h⟩
    obtain ⟨hne, rfl⟩ := List.mem_getLast?_eq_getLast hc
    exact List.rtakeWhile_eq_nil_iff.mp hnil hne (isGap_iff.mpr hblank)
  · rename_i hne
    have hrun := endsInBlanks_of_blanks hne
    simp only [List.mem_singleton, exists_eq_left]
    constructor
    · rintro ⟨rfl, rfl⟩
      exact hrun
    · exact hrun.unique

end Blanks

/-! ## Lines that are too long -/

/-- The limit that options set: their first one, if it is a whole number or a truth value, which
counts as zero or one; otherwise one hundred. -/
inductive SetsLimit : (options : List Value) → (limit : Int) → Prop
  | whole (n : Int) (rest : List Value) : SetsLimit (.int n :: rest) n
  | no (rest : List Value) : SetsLimit (.bool false :: rest) 0
  | yes (rest : List Value) : SetsLimit (.bool true :: rest) 1
  | unset : SetsLimit [] 100
  | other {first : Value} (rest : List Value) : (∀ n, first ≠ .int n) → (∀ b, first ≠ .bool b) →
    SetsLimit (first :: rest) 100

theorem setsLimit_iff {options : List Value} {limit : Int} :
    SetsLimit options limit ↔ limit = (lineLimit options).value := by
  constructor
  · rintro (_ | _ | _ | _ | ⟨rest, hint, hbool⟩)
    case other first =>
      cases first with
      | int n => exact absurd rfl (hint n)
      | bool b => exact absurd rfl (hbool b)
      | _ => rfl
    all_goals rfl
  · rintro rfl
    cases options with
    | nil => exact .unset
    | cons first rest =>
      cases first with
      | int n => exact .whole n rest
      | bool b => cases b with
        | false => exact .no rest
        | true => exact .yes rest
      | _ => exact .other rest nofun nofun

/-- What is found in a line that exceeds the limit is the whole line. -/
theorem exists_mem_findLongLine_iff (limit : Limit) (cs : List Char) (column width : Nat) :
    (∃ f ∈ findLongLine limit cs, f.column = column ∧ f.width = width) ↔
      limit.value < cs.length ∧ column = 0 ∧ width = cs.length := by
  unfold findLongLine
  split
  · rename_i hlong
    simp [hlong, eq_comm]
  · rename_i hlong
    simp [hlong]

/-- Nothing is found in a line that keeps the limit. -/
theorem findLongLine_eq_nil_iff {limit : Limit} {cs : List Char} :
    findLongLine limit cs = [] ↔ cs.length ≤ limit.value := by
  rw [findLongLine, ite_eq_right_iff, ← Int.not_lt]
  simp

/-- A line of a source exceeds a limit that has no numeral to report it with. -/
def Unreportable (source : String) (limit : Int) : Prop :=
  hasNumeral limit = false ∧ ∃ text ∈ Text.splitLines source, limit < text.toList.length

/-- The lines that are longer than a limit are marked, each as a whole. -/
def MarksLong (limit : Int) : (source : String) → List Diagnostic → Prop :=
  MarksLines (fun cs => limit < cs.length)
    fun cs column width => limit < cs.length ∧ column = 0 ∧ width = cs.length

theorem marksLong_diagnosticsOf (name source : String) (limit : Limit) :
    MarksLong limit.value source (diagnosticsOf name source (findLongLine limit)) :=
  marksLines_diagnosticsOf name source (exists_mem_findLongLine_iff limit) fun cs =>
    ⟨fun ⟨_, _, hlong, _⟩ => hlong, fun hlong => ⟨0, cs.length, hlong, rfl, rfl⟩⟩

section LongLines

variable {options : List Value} {name source : String}

theorem check_lineLength_eq_ok_iff {ds : List Diagnostic} :
    lineLength.check options name source = .ok ds ↔
      ¬ Unreportable source (lineLimit options).value ∧
        diagnosticsOf name source (findLongLine (lineLimit options)) = ds := by
  have hreportable : ¬ Unreportable source (lineLimit options).value ↔
      ((diagnosticsOf name source (findLongLine (lineLimit options))).isEmpty ||
        hasNumeral (lineLimit options).value) = true := by
    simp only [Bool.or_eq_true, List.isEmpty_iff, diagnosticsOf_eq_nil_iff, findLongLine_eq_nil_iff]
    simp [Unreportable, or_iff_not_imp_right]
  rw [hreportable]
  unfold lineLength
  dsimp only
  split
  · rename_i hshown
    simp [hshown]
  · rename_i hshown
    simp [hshown]

theorem check_lineLength_of_unreportable (h : Unreportable source (lineLimit options).value) :
    lineLength.check options name source = .error .unwritable := by
  cases hcheck : lineLength.check options name source with
  | ok ds => exact absurd h (check_lineLength_eq_ok_iff.mp hcheck).1
  | error fault => rw [lineLength_eq_error hcheck]

end LongLines

/-! ## The built-in rules -/

/-- What a search for banned words finds lies in the line, from left to right. -/
theorem findBanned_inside (options : List Value) (cs : List Char) :
    ∀ f ∈ findBanned (bannedWords options) cs, f.column + f.width ≤ cs.length := by
  intro f hf
  obtain ⟨word, hnoticed, hwidth, -⟩ := occurs_of_mem_findBanned hf
  rw [hwidth]
  exact hnoticed.occurs.add_le (mem_bannedWords_iff.mp hnoticed.mem).ne_nil

theorem findBanned_rises (options : List Value) (cs : List Char) :
    (findBanned (bannedWords options) cs).Pairwise fun f g => f.column < g.column := by
  obtain ⟨found, hscanned, hfound⟩ := scanned_findBanned options cs
  rw [hfound, List.pairwise_map]
  refine hscanned.pairwise.imp_of_mem fun {p q} hp _ hle => ?_
  obtain ⟨-, word, hnoticed, hspan⟩ := hscanned.noticed p hp
  have hpos := List.length_pos_iff.mpr (mem_bannedWords_iff.mp hnoticed.mem).ne_nil
  rw [hspan, hnoticed.occurs.length_eq] at hle
  dsimp only
  omega

/-- A line has one finding at most of the rule for blanks, and one of the rule for long lines. -/
theorem findTrailingBlank_rises (cs : List Char) :
    (findTrailingBlank cs).Pairwise fun f g => f.column < g.column := by
  rw [findTrailingBlank_eq]
  split
  · exact .nil
  · exact List.pairwise_singleton ..

theorem findLongLine_rises (limit : Limit) (cs : List Char) :
    (findLongLine limit cs).Pairwise fun f g => f.column < g.column := by
  unfold findLongLine
  split
  · exact List.pairwise_singleton ..
  · exact .nil

theorem check_bannedWordsRule_eq_ok_iff {options : List Value} {name source : String}
    {ds : List Diagnostic} : bannedWordsRule.check options name source = .ok ds ↔
      Value.areWritable options = true ∧
        diagnosticsOf name source (findBanned (bannedWords options)) = ds := by
  show (if Value.areWritable options = true then
    Except.ok (diagnosticsOf name source (findBanned (bannedWords options)))
      else Except.error Fault.unwritable) = Except.ok ds ↔ _
  split
  · rename_i hwritable
    simp [hwritable]
  · rename_i hwritable
    simp [hwritable]

variable (options : List Value) (name source : String)

/-- What a built-in rule reports lies in the source, and rises by position. -/
theorem placed_of_builtin {rule : Rule} (hrule : rule ∈ builtin) {ds : List Diagnostic}
    (hcheck : rule.check options name source = .ok ds) : Placed source ds := by
  simp only [builtin, List.mem_cons, List.not_mem_nil, or_false] at hrule
  rcases hrule with rfl | rfl | rfl
  · cases hcheck
    refine placed_diagnosticsOf name source (fun cs f hf => ?_) findTrailingBlank_rises
    exact ((exists_mem_findTrailingBlank_iff cs _ _).mp ⟨f, hf, rfl, rfl⟩).reaches.le
  · obtain ⟨-, rfl⟩ := check_lineLength_eq_ok_iff.mp hcheck
    refine placed_diagnosticsOf name source (fun cs f hf => ?_) (findLongLine_rises _)
    obtain ⟨-, hcolumn, hwidth⟩ :=
      (exists_mem_findLongLine_iff _ cs f.column f.width).mp ⟨f, hf, rfl, rfl⟩
    omega
  · obtain ⟨-, rfl⟩ := check_bannedWordsRule_eq_ok_iff.mp hcheck
    exact placed_diagnosticsOf name source (findBanned_inside options) (findBanned_rises options)

/-- **The built-in rules report positions that exist**, in ascending order. The rule for blanks
reports the lines whose last character is a space or a tab, each with the run of these that ends
it; the rule for long lines those that have more characters than the limit that its options set,
each as a whole. The rule for blanks always reports, the rule for long lines does unless a line
exceeds a limit without a numeral, and the rule for banned words unless an option cannot be
written. -/
theorem check_builtin_spans :
    (∀ rule ∈ builtin, ∀ ds, rule.check options name source = .ok ds → Placed source ds) ∧
      (∃ ds, trailingBlank.check options name source = .ok ds ∧
        MarksLines (fun cs => ∃ c ∈ cs.getLast?, c = ' ' ∨ c = '\t') EndsInBlanks source ds) ∧
      (∃ limit, SetsLimit options limit ∧
        (¬ Unreportable source limit →
          ∃ ds, lineLength.check options name source = .ok ds ∧ MarksLong limit source ds) ∧
        (Unreportable source limit →
          lineLength.check options name source = .error .unwritable)) ∧
      ((∃ ds, bannedWordsRule.check options name source = .ok ds) ↔
        Value.areWritable options = true) := by
  refine ⟨fun rule hrule ds => placed_of_builtin options name source hrule, ⟨_, rfl, ?_⟩,
    ⟨_, setsLimit_iff.mpr rfl, fun hshown => ?_, check_lineLength_of_unreportable⟩, ?_⟩
  · exact marksLines_diagnosticsOf name source exists_mem_findTrailingBlank_iff
      exists_endsInBlanks_iff
  · exact ⟨_, check_lineLength_eq_ok_iff.mpr ⟨hshown, rfl⟩,
      marksLong_diagnosticsOf name source (lineLimit options)⟩
  · simp [check_bannedWordsRule_eq_ok_iff]

/-- A truth value as a limit, and an empty line, one of a letter and one of two: the last one is
reported. -/
theorem check_builtin_spans_truth :
    ∃ ds, lineLength.check [.bool true, .int 80] "max-line-length" "\na\nab" = .ok ds ∧
      (∃ d ∈ ds, d.line = 2 ∧ d.column = 0 ∧ d.width = some 2) ∧
      ∀ d ∈ ds, d.line ≠ 0 ∧ d.line ≠ 1 := by
  obtain ⟨-, -, ⟨limit, hset, hreport, -⟩, -⟩ :=
    check_builtin_spans [.bool true, .int 80] "max-line-length" "\na\nab"
  obtain rfl : limit = 1 := setsLimit_iff.mp hset
  obtain ⟨ds, hcheck, hmarks⟩ := hreport fun h => absurd h.1 (by decide +kernel)
  refine ⟨ds, hcheck, (hmarks.span_iff 2 "ab" (by decide +kernel) 0 2).mpr (by decide +kernel),
    fun d hd => ⟨fun hline => ?_, fun hline => ?_⟩⟩
  · have hempty := (hmarks.marked_iff 0 "" (by decide +kernel)).mp ⟨d, hd, hline⟩
    exact absurd hempty (by decide +kernel)
  · have hshort := (hmarks.marked_iff 1 "a" (by decide +kernel)).mp ⟨d, hd, hline⟩
    exact absurd hshort (by decide +kernel)

/-- A limit with a digit too many for a numeral: a line of one letter exceeds it, and the rule fails
instead of reporting it. -/
theorem not_check_builtin_spans_unwritable : ¬ ∀ (options : List Value) (name source : String)
    (limit : Int), SetsLimit options limit →
      ∃ ds, lineLength.check options name source = .ok ds ∧ MarksLong limit source ds := by
  intro h
  obtain ⟨limit, hneg, hlong⟩ : ∃ limit : Int, limit < 0 ∧ hasNumeral limit = false := by
    obtain ⟨n, hlong⟩ := exists_hasNumeral_succ_eq_false
    exact ⟨-(n + 1), by omega, (hasNumeral_neg _).trans hlong⟩
  obtain ⟨ds, hcheck, -⟩ := h [.int limit] "max-line-length" "x" limit (.whole limit [])
  have hunreportable : Unreportable "x" limit :=
    ⟨hlong, "x", by decide +kernel, hneg.trans (by decide +kernel)⟩
  have hfails : lineLength.check [.int limit] "max-line-length" "x" = .error .unwritable :=
    check_lineLength_of_unreportable hunreportable
  rw [hfails] at hcheck
  cases hcheck

end Rule

end LintFixture
