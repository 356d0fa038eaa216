import LintFixture.Fixture.Parser
import LintFixture.Proofs.Grammar
import LintFixture.Proofs.Lines
import Mathlib

/-!
# What reading a fixture makes of its lines

The state of a `Parser` after some lines is not defined by running it: `Parser.after` computes it
from the accepted lines with their numbers, its `rows`. Feeding a line takes the state after some
rows to the state after one more, or leaves the rows as they are and counts the line
(`feed_after`); so a whole run comes to the state after all its rows
(`feedAll_of_readable`) and is broken off exactly where they are not `Readable`
(`feedAll_of_not_readable`).

An `Annotation` is a group of an annotation line together with the source lines above it, so the
line that it marks is the last of them and their number says which line of the source that is.

Results:
* `ofLines_eq_ok_iff`: when lines can be taken apart, and into what.
* `parse_faithful`: the source, the expected diagnostics and the legend of a fixture are those of
  its raw lines, and every expected diagnostic points at the line of the source that stands above
  its annotation.
-/

namespace LintFixture

/-! ## Steps that may fail -/

section Steps

variable {α β ε : Type} {x : Except ε α}

theorem bind_eq_ok_iff {f : α → Except ε β} {b : β} :
    x >>= f = .ok b ↔ ∃ a, x = .ok a ∧ f a = .ok b := by
  cases x <;> simp [bind, Except.bind]

theorem map_eq_ok_iff {f : α → β} {b : β} : x.map f = .ok b ↔ ∃ a, x = .ok a ∧ f a = b := by
  cases x <;> simp [Except.map]

theorem map_eq_error_iff {f : α → β} {e : ε} : x.map f = .error e ↔ x = .error e := by
  cases x <;> simp [Except.map]

end Steps

/-- All steps of a list succeed exactly with their results one by one. -/
theorem mapM_eq_ok_iff {α β ε : Type} {f : α → Except ε β} :
    ∀ {l : List α} {r : List β}, l.mapM f = .ok r ↔ List.Forall₂ (fun a b => f a = .ok b) l r
  | [], r => by
    rw [List.mapM_nil, List.forall₂_nil_left_iff]
    exact ⟨fun h => by cases h; rfl, fun h => by rw [h]; rfl⟩
  | a :: l, r => by
    rw [List.mapM_cons, List.forall₂_cons_left_iff]
    constructor
    · intro h
      cases ha : f a with
      | error e => rw [ha] at h; cases h
      | ok b =>
        cases hl : l.mapM f with
        | error e => rw [ha, hl] at h; cases h
        | ok bs =>
          rw [ha, hl] at h
          cases h
          exact ⟨b, bs, rfl, mapM_eq_ok_iff.mp hl, rfl⟩
    · rintro ⟨b, bs, ha, hl, rfl⟩
      rw [ha, mapM_eq_ok_iff.mpr hl]
      rfl

/-- What comes out of the steps of a list comes out of one of them. -/
theorem exists_of_mem_forall₂ {α β : Type} {R : α → β → Prop} {l : List α} {r : List β}
    (h : List.Forall₂ R l r) {b : β} (hb : b ∈ r) : ∃ a ∈ l, R a b := by
  induction h with
  | nil => cases hb
  | cons hab hrest ih =>
    obtain rfl | hb := List.mem_cons.mp hb
    · exact ⟨_, List.mem_cons_self, hab⟩
    · obtain ⟨a, ha, hR⟩ := ih hb
      exact ⟨a, List.mem_cons_of_mem _ ha, hR⟩

/-! ## Rows -/

/-- A line of a fixture and its number, which starts at one. -/
structure Row where
  number : Nat
  text : String
  deriving DecidableEq, Repr

namespace Line

/-- The text is source. -/
def isSource (text : String) : Bool :=
  match classify text 0 with
  | .ok (.source _) => true
  | _ => false

/-- The marks of a line with a number, none if it is no annotation line. -/
def marksOf (text : String) (n : Int) : List Mark :=
  match classify text n with
  | .ok (.marked _ marks) => marks
  | _ => []

/-- What a line with a number adds to the legend, if it is a legend line. -/
def entryOf? (text : String) (n : Int) : Option LegendEntry :=
  match classify text n with
  | .ok (.legend _ entry) => some entry
  | _ => none

variable {text t : String} {n : Int}

theorem isSource_iff : isSource text = true ↔ SourceLine text.toList := by
  unfold isSource
  constructor
  · intro h
    split at h
    · rename_i t ht
      exact (classify_eq_source_iff.mp ht).2
    · cases h
  · intro h
    rw [classify_eq_source_iff.mpr ⟨rfl, h⟩]

theorem isSource_eq_false (h : ¬ SourceLine text.toList) : isSource text = false := by
  rw [← Bool.not_eq_true, isSource_iff]
  exact h

/-! What a row adds, by the outcome of its line. -/

theorem parts_of_source (h : classify text n = .ok (.source t)) :
    t = text ∧ isSource text = true ∧ marksOf text n = [] ∧ entryOf? text n = none := by
  obtain ⟨rfl, hs⟩ := classify_eq_source_iff.mp h
  refine ⟨rfl, isSource_iff.mpr hs, ?_, ?_⟩
  · rw [marksOf, h]
  · rw [entryOf?, h]

theorem parts_of_marked {marks : List Mark} (h : classify text n = .ok (.marked t marks)) :
    marks ≠ [] ∧ isSource text = false ∧ marksOf text n = marks ∧ entryOf? text n = none := by
  obtain ⟨rfl, a, hwf, hr, rfl⟩ := classify_eq_marked_iff.mp h
  refine ⟨?_, isSource_eq_false fun hs => hs.1 ⟨a, hwf, hr⟩, ?_, ?_⟩
  · obtain ⟨first, rest, hgroups⟩ := List.exists_cons_of_ne_nil hwf.groups_ne_nil
    rw [GroupLine.marks, hgroups]
    exact List.cons_ne_nil _ _
  · rw [marksOf, h]
  · rw [entryOf?, h]

theorem parts_of_legend {entry : LegendEntry} (h : classify text n = .ok (.legend t entry)) :
    isSource text = false ∧ marksOf text n = [] ∧ entryOf? text n = some entry := by
  obtain ⟨rfl, hl, -, -⟩ := classify_eq_legend_iff.mp h
  refine ⟨isSource_eq_false fun hs => hs.2.1 _ _ hl, ?_, ?_⟩
  · rw [marksOf, h]
  · rw [entryOf?, h]

end Line

/-- The lines of a fixture as rows, of which the first one has the number after `n`. -/
def numberedFrom (n : Nat) : List String → List Row
  | [] => []
  | text :: rest => ⟨n + 1, text⟩ :: numberedFrom (n + 1) rest

/-- The lines of a fixture as rows. -/
def numbered (lines : List String) : List Row := numberedFrom 0 lines

theorem map_text_numberedFrom : ∀ (lines : List String) (n : Nat),
    (numberedFrom n lines).map (·.text) = lines
  | [], _ => rfl
  | text :: rest, n => congrArg (text :: ·) (map_text_numberedFrom rest (n + 1))

/-- The next line moves from the lines that are to come to the rows that are read. -/
theorem append_numberedFrom_cons (rows : List Row) (n : Nat) (text : String)
    (rest : List String) :
    rows ++ numberedFrom n (text :: rest) =
      rows ++ [⟨n + 1, text⟩] ++ numberedFrom (n + 1) rest := by
  rw [numberedFrom, List.append_assoc, List.singleton_append]

/-- The source lines among rows. -/
def sources (rows : List Row) : List String :=
  (rows.map (·.text)).filter Line.isSource

/-- What rows add to the legend. -/
def definitions (rows : List Row) : List LegendEntry :=
  rows.filterMap fun row => Line.entryOf? row.text row.number

/-- A group of an annotation line with the source lines above it, the nearest one last. -/
structure Annotation where
  above : List String
  mark : Mark
  deriving DecidableEq, Repr

/-- The groups of the annotation lines among rows, in the order of reading. -/
def annotations (rows : List Row) : List Annotation :=
  rows.zipIdx.flatMap fun (row, i) =>
    (Line.marksOf row.text row.number).map fun m => ⟨sources (rows.take i), m⟩

theorem sources_numbered (lines : List String) :
    sources (numbered lines) = lines.filter Line.isSource := by
  unfold sources numbered
  rw [map_text_numberedFrom]

/-- The annotations of the lines of a fixture. -/
def annotationsOf (lines : List String) : List Annotation := annotations (numbered lines)

/-- The legend of the lines of a fixture: every definition, in their order. -/
def legendOf (lines : List String) : Legend := ⟨definitions (numbered lines)⟩

section Concat

variable (rows : List Row) (row : Row)

theorem sources_concat :
    sources (rows ++ [row]) =
      sources rows ++ if Line.isSource row.text then [row.text] else [] := by
  unfold sources
  rw [List.map_append, List.filter_append, List.map_singleton, List.filter_singleton]
  cases Line.isSource row.text <;> rfl

theorem definitions_concat :
    definitions (rows ++ [row]) =
      definitions rows ++ (Line.entryOf? row.text row.number).toList := by
  unfold definitions
  rw [List.filterMap_append]
  cases h : Line.entryOf? row.text row.number <;> simp [h]

theorem annotations_concat :
    annotations (rows ++ [row]) =
      annotations rows ++
        (Line.marksOf row.text row.number).map fun m => ⟨sources rows, m⟩ := by
  unfold annotations
  rw [List.zipIdx_append, List.flatMap_append]
  congr 1
  · refine List.flatMap_congr fun x hx => ?_
    obtain ⟨r, i⟩ := x
    have hi : i < rows.length := by simpa using (List.mem_zipIdx hx).2.1
    dsimp only
    rw [List.take_append_of_le_length hi.le]
  · simp

end Concat

/-! ## The legend of rows -/

namespace Legend

theorem find?_eq_none_iff {l : Legend} {tag : String} : l.find? tag = none ↔ tag ∉ l.tags := by
  unfold find? tags
  rw [List.find?_eq_none]
  simp only [beq_iff_eq, List.mem_map, not_exists, not_and]

theorem find?_tag {l : Legend} {tag : String} {entry : LegendEntry}
    (h : l.find? tag = some entry) : entry ∈ l.entries ∧ entry.tag = tag :=
  ⟨List.mem_of_find?_eq_some h, by simpa using List.find?_some h⟩

/-- Where tags are defined once, the entry of a tag is the only one with it. -/
theorem find?_eq_some_iff {l : Legend} (h : l.tags.Nodup) {tag : String} {entry : LegendEntry} :
    l.find? tag = some entry ↔ entry ∈ l.entries ∧ entry.tag = tag := by
  refine ⟨find?_tag, ?_⟩
  rintro ⟨hmem, rfl⟩
  cases hfind : l.find? entry.tag with
  | none => exact absurd (List.mem_map_of_mem hmem) (find?_eq_none_iff.mp hfind)
  | some other =>
    obtain ⟨hother, htag⟩ := find?_tag hfind
    rw [List.inj_on_of_nodup_map h hother hmem htag]

/-- Where tags are defined once, a tag is resolved to the message of its only entry. -/
theorem resolve_eq_ok_iff {l : Legend} (h : l.tags.Nodup) {tag message : String} {n : Int} :
    l.resolve tag n = .ok message ↔ (tag, message) ∈ l.messages := by
  unfold resolve messages
  rw [List.mem_map]
  constructor
  · intro hr
    split at hr
    · rename_i entry hfind
      cases hr
      obtain ⟨hmem, rfl⟩ := find?_tag hfind
      exact ⟨entry, hmem, rfl⟩
    · cases hr
  · rintro ⟨entry, hmem, heq⟩
    obtain ⟨rfl, rfl⟩ := Prod.mk.inj heq
    rw [(find?_eq_some_iff h).mpr ⟨hmem, rfl⟩]

end Legend

/-! ## Readable rows -/

/-- The mark of an annotation, on the last of the source lines above it. -/
def Annotation.anchored (a : Annotation) : AnchoredMark := ⟨a.mark, a.above.length - 1⟩

/-- What is wrong with a row that comes after others. -/
def fault? (rows : List Row) (row : Row) : Option FixtureError :=
  match Line.classify row.text row.number with
  | .error e => some e
  | .ok (.source _) => none
  | .ok (.marked ..) => if sources rows = [] then some (.dangling row.number) else none
  | .ok (.legend _ entry) =>
    ((⟨definitions rows⟩ : Legend).find? entry.tag).map fun earlier =>
      .duplicateTag entry.tag entry.lineNumber earlier.lineNumber

/-- Rows that are read without fault: each is judged, no annotation comes before the source, and
each tag is defined once. -/
structure Readable (rows : List Row) : Prop where
  judged : ∀ row ∈ rows, ∃ line, Line.classify row.text row.number = .ok line
  anchored : ∀ a ∈ annotations rows, a.above ≠ []
  once : ((definitions rows).map (·.tag)).Nodup

theorem readable_nil : Readable [] :=
  ⟨fun _ h => absurd h List.not_mem_nil, fun _ h => absurd h List.not_mem_nil, List.nodup_nil⟩

/-- What a row has to be for the rows with it to be readable. -/
theorem readable_concat_iff {rows : List Row} {row : Row} :
    Readable (rows ++ [row]) ↔ Readable rows ∧
      (∃ line, Line.classify row.text row.number = .ok line) ∧
      (Line.marksOf row.text row.number ≠ [] → sources rows ≠ []) ∧
      ∀ entry ∈ Line.entryOf? row.text row.number,
        entry.tag ∉ (definitions rows).map (·.tag) := by
  constructor
  · rintro ⟨hj, ha, ho⟩
    rw [annotations_concat] at ha
    rw [definitions_concat, List.map_append, List.nodup_append] at ho
    refine ⟨⟨fun r hr => hj r (List.mem_append_left _ hr),
      fun a hm => ha a (List.mem_append_left _ hm), ho.1⟩,
      hj row (List.mem_append_right _ (List.mem_singleton_self row)), fun hne => ?_,
      fun entry he hmem => ?_⟩
    · obtain ⟨m, hm⟩ := List.exists_mem_of_ne_nil _ hne
      exact ha ⟨sources rows, m⟩ (List.mem_append_right _ (List.mem_map_of_mem hm))
    · have hadded : entry.tag ∈ (Line.entryOf? row.text row.number).toList.map (·.tag) :=
        List.mem_map_of_mem (Option.mem_toList.mpr he)
      exact ho.2.2 _ hmem _ hadded rfl
  · rintro ⟨⟨hj, ha, ho⟩, hrow, hanchored, hnew⟩
    refine ⟨fun r hr => ?_, fun a hm => ?_, ?_⟩
    · rcases List.mem_append.mp hr with hr | hr
      · exact hj r hr
      · rw [List.mem_singleton.mp hr]
        exact hrow
    · rw [annotations_concat] at hm
      rcases List.mem_append.mp hm with hm | hm
      · exact ha a hm
      · obtain ⟨m, hmark, rfl⟩ := List.mem_map.mp hm
        exact hanchored (List.ne_nil_of_mem hmark)
    · rw [definitions_concat, List.map_append, List.nodup_append]
      refine ⟨ho, ?_, fun tag htag other hother => ?_⟩
      · cases Line.entryOf? row.text row.number <;> simp
      · obtain ⟨entry, he, rfl⟩ := List.mem_map.mp hother
        rintro rfl
        exact hnew entry (Option.mem_toList.mp he) htag

/-- **Rows stay readable as long as no row has a fault.** -/
theorem readable_concat {rows : List Row} {row : Row} :
    Readable (rows ++ [row]) ↔ Readable rows ∧ fault? rows row = none := by
  rw [readable_concat_iff]
  refine and_congr_right fun _ => ?_
  unfold fault?
  cases h : Line.classify row.text row.number with
  | error e => simp
  | ok line =>
    cases line with
    | source t =>
      obtain ⟨-, -, hm, he⟩ := Line.parts_of_source h
      simp [hm, he]
    | marked t marks =>
      obtain ⟨hne, -, hm, he⟩ := Line.parts_of_marked h
      simp [hm, he, hne]
    | legend t entry =>
      obtain ⟨-, hm, he⟩ := Line.parts_of_legend h
      simp [hm, he, Legend.find?_eq_none_iff, Legend.tags]

/-- Rows that come before readable ones are readable. -/
theorem Readable.of_append {rows : List Row} :
    ∀ {more : List Row}, Readable (rows ++ more) → Readable rows := by
  intro more
  induction more using List.reverseRecOn with
  | nil => exact fun h => List.append_nil rows ▸ h
  | append_singleton more row ih =>
    intro h
    rw [← List.append_assoc] at h
    exact ih (readable_concat.mp h).1

/-! ## The state after rows -/

namespace Parser

/-- The state when these rows are accepted and `n` lines are read. -/
def after (rows : List Row) (n : Nat) : Parser :=
  ⟨(sources rows).toArray, ((annotations rows).map Annotation.anchored).toArray,
    ⟨definitions rows⟩, n⟩

theorem after_nil : after [] 0 = start := rfl

/-- **One line.** A line without fault takes the state after some rows to the state after one
more; a line at fault is counted and leaves the rows as they are. -/
theorem feed_after (rows : List Row) (n : Nat) (text : String) :
    (after rows n).feed text =
      match fault? rows ⟨n + 1, text⟩ with
      | none => (.ok (), after (rows ++ [⟨n + 1, text⟩]) (n + 1))
      | some e => (.error e, after rows (n + 1)) := by
  unfold feed advance fault?
  simp only [after]
  generalize n + 1 = k
  cases h : Line.classify text k with
  | error e => rfl
  | ok line =>
    cases line with
    | source t =>
      obtain ⟨rfl, hs, hm, he⟩ := Line.parts_of_source h
      simp [consume, sources_concat, annotations_concat, definitions_concat, hs, hm, he]
    | marked t marks =>
      obtain ⟨hne, hs, hm, he⟩ := Line.parts_of_marked h
      by_cases hempty : sources rows = []
      · simp [consume, hempty]
      · simp [consume, hempty, sources_concat, annotations_concat, definitions_concat, hs, hm, he,
          Annotation.anchored]
    | legend t entry =>
      obtain ⟨hs, hm, he⟩ := Line.parts_of_legend h
      unfold consume Legend.insert
      cases hfind : (⟨definitions rows⟩ : Legend).find? entry.tag with
      | none =>
        simp [sources_concat, annotations_concat, definitions_concat, hs, hm, he, hfind]
      | some earlier => simp [hfind]

/-- **A run of readable rows.** -/
theorem feedAll_of_readable : ∀ (lines : List String) {rows : List Row} {n : Nat},
    Readable (rows ++ numberedFrom n lines) →
      (after rows n).feedAll lines =
        (.ok (), after (rows ++ numberedFrom n lines) (n + lines.length))
  | [], rows, n, _ => by
    rw [feedAll, numberedFrom, List.append_nil]
    rfl
  | text :: rest, rows, n, h => by
    rw [append_numberedFrom_cons] at h ⊢
    have hfault : fault? rows ⟨n + 1, text⟩ = none := (readable_concat.mp h.of_append).2
    rw [feedAll, feed_after, hfault]
    dsimp only
    rw [feedAll_of_readable rest h, List.length_cons, Nat.add_right_comm]
    rfl

/-- **A run that meets a fault** is broken off. -/
theorem feedAll_of_not_readable : ∀ (lines : List String) {rows : List Row} {n : Nat},
    Readable rows → ¬ Readable (rows ++ numberedFrom n lines) →
      ∃ e p, (after rows n).feedAll lines = (.error e, p)
  | [], rows, n, hrows, h => by
    rw [numberedFrom, List.append_nil] at h
    exact absurd hrows h
  | text :: rest, rows, n, hrows, h => by
    rw [feedAll, feed_after]
    cases hfault : fault? rows ⟨n + 1, text⟩ with
    | some e => exact ⟨e, _, rfl⟩
    | none =>
      rw [append_numberedFrom_cons] at h
      exact feedAll_of_not_readable rest (readable_concat.mpr ⟨hrows, hfault⟩) h

/-- The diagnostic that a mark expects once its tag is resolved. -/
theorem expectation_eq_ok_iff {legend : Legend} (h : legend.tags.Nodup) {m : AnchoredMark}
    {d : Diagnostic} :
    expectation legend m = .ok d ↔
      (m.mark.tag, d.message) ∈ legend.messages ∧
        d = ⟨m.line, m.mark.column, some m.mark.width, d.message, none⟩ := by
  unfold expectation
  constructor
  · intro he
    cases hr : legend.resolve m.mark.tag m.mark.lineNumber with
    | error e =>
      rw [hr] at he
      cases he
    | ok message =>
      rw [hr] at he
      cases he
      exact ⟨(Legend.resolve_eq_ok_iff h).mp hr, rfl⟩
  · rintro ⟨hmem, hd⟩
    rw [(Legend.resolve_eq_ok_iff h).mpr hmem]
    exact congrArg Except.ok hd.symm

end Parser

/-! ## A fixture taken apart -/

/-- What an annotation makes a fixture with this legend expect. -/
structure Expects (legend : Legend) (a : Annotation) (d : Diagnostic) : Prop where
  line : d.line = (a.above.length - 1 : Nat)
  column : d.column = a.mark.column
  width : d.width = some (a.mark.width : Int)
  message : (a.mark.tag, d.message) ∈ legend.messages
  rule : d.rule = none

theorem expects_iff {legend : Legend} (h : legend.tags.Nodup) {a : Annotation} {d : Diagnostic} :
    Expects legend a d ↔ Parser.expectation legend a.anchored = .ok d := by
  rw [Parser.expectation_eq_ok_iff h]
  obtain ⟨line, column, width, message, rule⟩ := d
  constructor
  · rintro ⟨rfl, rfl, rfl, hm, rfl⟩
    exact ⟨hm, rfl⟩
  · rintro ⟨hm, hd⟩
    cases hd
    exact ⟨rfl, rfl, rfl, hm, rfl⟩

/-- The end of a run: the tags of all annotations are resolved. -/
theorem finish_after_eq_ok_iff {rows : List Row} {n : Nat}
    (honce : ((definitions rows).map (·.tag)).Nodup) {f : Fixture} :
    (Parser.after rows n).finish = .ok f ↔
      f.sourceLines = sources rows ∧ f.legend = ⟨definitions rows⟩ ∧
        List.Forall₂ (Expects f.legend) (annotations rows) f.expected := by
  have hexpected : ∀ {expected : List Diagnostic},
      ((annotations rows).map Annotation.anchored).mapM (Parser.expectation ⟨definitions rows⟩) =
          .ok expected ↔
        List.Forall₂ (Expects ⟨definitions rows⟩) (annotations rows) expected := by
    intro expected
    rw [mapM_eq_ok_iff, List.forall₂_map_left_iff]
    have hiff : (fun a b => Parser.expectation ⟨definitions rows⟩ a.anchored = .ok b) =
        Expects ⟨definitions rows⟩ :=
      funext fun a => funext fun d => propext (expects_iff honce).symm
    rw [hiff]
  obtain ⟨sourceLines, expected, legend⟩ := f
  unfold Parser.finish Parser.after
  dsimp only
  constructor
  · intro h
    cases hm : ((annotations rows).map Annotation.anchored).mapM
        (Parser.expectation ⟨definitions rows⟩) with
    | error e =>
      rw [hm] at h
      cases h
    | ok found =>
      rw [hm] at h
      cases h
      exact ⟨rfl, rfl, hexpected.mp hm⟩
  · rintro ⟨rfl, rfl, he⟩
    rw [hexpected.mpr he]
    rfl

/-- **When lines can be taken apart, and into what.** -/
theorem ofLines_eq_ok_iff {lines : List String} {f : Fixture} :
    Fixture.ofLines lines = .ok f ↔
      Readable (numbered lines) ∧
      f.sourceLines = lines.filter Line.isSource ∧
      f.legend = legendOf lines ∧
      List.Forall₂ (Expects f.legend) (annotationsOf lines) f.expected := by
  rw [← sources_numbered]
  unfold Fixture.ofLines legendOf annotationsOf numbered
  rw [← Parser.after_nil]
  by_cases h : Readable ([] ++ numberedFrom 0 lines)
  · rw [Parser.feedAll_of_readable lines h]
    exact (finish_after_eq_ok_iff h.once).trans (and_iff_right h).symm
  · obtain ⟨e, p, he⟩ := Parser.feedAll_of_not_readable lines readable_nil h
    rw [he]
    constructor
    · intro hc
      cases hc
    · exact fun hc => absurd hc.1 h

/-! ## Pointing at lines of the source -/

theorem sources_take (rows : List Row) (i : Nat) :
    sources (rows.take i) <+: sources rows := by
  unfold sources
  rw [List.map_take]
  exact (List.take_prefix i _).filter _

/-- The source lines above an annotation are the first ones of the source. -/
theorem above_prefix {rows : List Row} {a : Annotation} (h : a ∈ annotations rows) :
    a.above <+: sources rows := by
  obtain ⟨⟨row, i⟩, -, hm⟩ := List.mem_flatMap.mp h
  obtain ⟨m, -, rfl⟩ := List.mem_map.mp hm
  exact sources_take rows i

/-- The last element of a prefix stands at its length less one. -/
theorem getElem?_of_prefix {α : Type} {l₁ l₂ : List α} (h : l₁ <+: l₂) (hne : l₁ ≠ []) :
    l₂[l₁.length - 1]? = l₁.getLast? := by
  obtain ⟨more, rfl⟩ := h
  have hlt : l₁.length - 1 < l₁.length := by
    have := List.length_pos_iff.mpr hne
    omega
  rw [List.getElem?_append_left hlt, List.getLast?_eq_getElem?]

/-- Row `r` is line `r` of the lines, under the number after it. -/
theorem getElem?_numberedFrom : ∀ (lines : List String) (n r : Nat),
    (numberedFrom n lines)[r]? = lines[r]?.map fun text => ⟨n + r + 1, text⟩
  | [], _, _ => rfl
  | _ :: _, _, 0 => rfl
  | _ :: rest, n, r + 1 => by
    rw [numberedFrom, List.getElem?_cons_succ, List.getElem?_cons_succ,
      getElem?_numberedFrom rest (n + 1) r, Nat.add_right_comm n 1 r]
    rfl

theorem sources_take_numbered (lines : List String) (r : Nat) :
    sources ((numbered lines).take r) = (lines.take r).filter Line.isSource := by
  unfold sources numbered
  rw [List.map_take, map_text_numberedFrom]

/-- There is a source line among the first lines. -/
theorem filter_take_ne_nil_iff {lines : List String} {i : Nat} :
    (lines.take i).filter Line.isSource ≠ [] ↔
      ∃ j < i, ∃ above : String, lines[j]? = some above ∧ SourceLine above.toList := by
  constructor
  · intro h
    obtain ⟨above, hmem⟩ := List.exists_mem_of_ne_nil _ h
    obtain ⟨htake, hsource⟩ := List.mem_filter.mp hmem
    obtain ⟨j, hj, hget⟩ := List.mem_take_iff_getElem.mp htake
    exact ⟨j, by omega, above, hget ▸ List.getElem?_eq_getElem _, Line.isSource_iff.mp hsource⟩
  · rintro ⟨j, hj, above, hget, hsource⟩
    have htake : (lines.take i)[j]? = some above := by
      rw [List.getElem?_take_of_lt hj]
      exact hget
    exact List.ne_nil_of_mem
      (List.mem_filter.mpr ⟨List.mem_of_getElem? htake, Line.isSource_iff.mpr hsource⟩)

/-- An annotation comes from a line `r` of the lines: its mark is one of that line's, and above it
are the source lines that come before. -/
def Annotation.ComesFrom (a : Annotation) (lines : List String) (r : Nat) : Prop :=
  (∃ line, lines[r]? = some line ∧ a.mark ∈ Line.marksOf line (r + 1)) ∧
    a.above = (lines.take r).filter Line.isSource

theorem mem_annotationsOf_iff {lines : List String} {a : Annotation} :
    a ∈ annotationsOf lines ↔ ∃ r, a.ComesFrom lines r := by
  have hrow : ∀ {row : Row} {r : Nat}, (row, r) ∈ (numbered lines).zipIdx ↔
      ∃ line, lines[r]? = some line ∧ row = ⟨r + 1, line⟩ := fun {row r} => by
    rw [List.mk_mem_zipIdx_iff_getElem?, numbered, getElem?_numberedFrom, Option.map_eq_some_iff]
    simp only [Nat.zero_add, eq_comm]
  constructor
  · intro h
    obtain ⟨⟨row, r⟩, hmem, hm⟩ := List.mem_flatMap.mp h
    obtain ⟨m, hmark, rfl⟩ := List.mem_map.mp hm
    obtain ⟨line, hline, rfl⟩ := hrow.mp hmem
    exact ⟨r, ⟨line, hline, hmark⟩, sources_take_numbered lines r⟩
  · rintro ⟨r, ⟨line, hline, hmark⟩, habove⟩
    refine List.mem_flatMap.mpr ⟨(⟨r + 1, line⟩, r), hrow.mpr ⟨line, hline, rfl⟩, ?_⟩
    refine List.mem_map.mpr ⟨a.mark, hmark, ?_⟩
    rw [sources_take_numbered, ← habove]

theorem marksOf_ne_nil_iff {text : String} {n : Int} :
    Line.marksOf text n ≠ [] ↔ AnnotationLine text.toList := by
  constructor
  · unfold Line.marksOf
    split
    · rename_i t marks hmarked
      obtain ⟨-, a, hwf, hr, -⟩ := Line.classify_eq_marked_iff.mp hmarked
      exact fun _ => ⟨a, hwf, hr⟩
    · exact fun h => absurd rfl h
  · rintro ⟨a, hwf, hr⟩
    obtain ⟨hne, -, hmarks, -⟩ :=
      Line.parts_of_marked (Line.classify_eq_marked_iff.mpr ⟨rfl, a, hwf, hr, rfl⟩)
    rw [hmarks]
    exact hne

/-- Where the source of a fixture is cut into lines, its source lines come out again, provided that
there are any. -/
theorem splitLines_source {text : String} {f : Fixture}
    (hsource : f.sourceLines = (Text.splitLines text).filter Line.isSource)
    (hne : f.sourceLines ≠ []) : Text.splitLines f.source = f.sourceLines := by
  refine Text.splitLines_joinLines hne fun line hline => ?_
  rw [hsource] at hline
  exact Text.not_mem_of_mem_splitLines (List.mem_of_mem_filter hline)

/-- A diagnostic points at a line of a source. -/
def Diagnostic.PointsAt (d : Diagnostic) (source line : String) : Prop :=
  ∃ index : Nat, d.line = index ∧ (Text.splitLines source)[index]? = some line

/-- The line that an annotation marks is the nearest source line above it. -/
theorem pointsAt_of_expects {text : String} {f : Fixture} (h : Fixture.parse text = .ok f)
    {a : Annotation} {d : Diagnostic} (ha : a ∈ annotationsOf (Text.splitLines text))
    (hd : Expects f.legend a d) :
    ∃ line, a.above.getLast? = some line ∧ d.PointsAt f.source line := by
  obtain ⟨hreadable, hsource, -, -⟩ := ofLines_eq_ok_iff.mp h
  have hne : a.above ≠ [] := hreadable.anchored a ha
  have hprefix : a.above <+: f.sourceLines := by
    rw [hsource, ← sources_numbered]
    exact above_prefix ha
  have hlines : Text.splitLines f.source = f.sourceLines := by
    refine splitLines_source hsource fun hnil => hne ?_
    rw [hnil] at hprefix
    exact List.prefix_nil.mp hprefix
  refine ⟨a.above.getLast hne, List.getLast?_eq_some_getLast hne, _, hd.line, ?_⟩
  rw [hlines, getElem?_of_prefix hprefix hne, List.getLast?_eq_some_getLast hne]

/-- A fixture holds what stands in the text from which it was read. -/
structure Fixture.Faithful (text : String) (f : Fixture) : Prop where
  /-- The source is the source lines of the text, in their order and joined. -/
  source : f.source = Text.joinLines ((Text.splitLines text).filter Line.isSource)
  /-- The legend has every definition, in the order of definition, -/
  legend : f.legend = legendOf (Text.splitLines text)
  /-- and no tag twice. -/
  once : f.legend.tags.Nodup
  /-- There is one expected diagnostic for each annotation in the order of reading. The line that it
  points at, where the linter cuts the source into lines, is the nearest source line above. -/
  expected : List.Forall₂ (fun a d => Expects f.legend a d ∧
      ∃ r line, a.ComesFrom (Text.splitLines text) r ∧
        (((Text.splitLines text).take r).filter Line.isSource).getLast? = some line ∧
        d.PointsAt f.source line)
    (annotationsOf (Text.splitLines text)) f.expected

/-- **Reading a fixture keeps what stands in it.** -/
theorem parse_faithful {text : String} {f : Fixture} (h : Fixture.parse text = .ok f) :
    f.Faithful text := by
  obtain ⟨hreadable, hsource, hlegend, hexpected⟩ := ofLines_eq_ok_iff.mp h
  refine ⟨?_, hlegend, ?_, ?_⟩
  · rw [Fixture.source, hsource]
  · rw [hlegend]
    exact hreadable.once
  · refine List.Forall₂.imp ?_ ((List.forall₂_and_left _ _).mpr ⟨fun a ha => ha, hexpected⟩)
    rintro a d ⟨ha, hd⟩
    obtain ⟨line, hlast, hline⟩ := pointsAt_of_expects h ha hd
    obtain ⟨r, hr⟩ := mem_annotationsOf_iff.mp ha
    exact ⟨hd, r, line, hr, hr.2 ▸ hlast, hline⟩

/-- Two groups under an empty source line, with a legend line in between. -/
theorem parse_faithful_two_groups :
    ∃ f, Fixture.parse "x\n\n[a-b]: m: n\n ~~\t[a-b] ~ [a-b]\n" = .ok f ∧
      f.Faithful "x\n\n[a-b]: m: n\n ~~\t[a-b] ~ [a-b]\n" ∧
      f.expected.map (·.position) = [(1, 1), (1, 10)] := by
  have h : Fixture.parse "x\n\n[a-b]: m: n\n ~~\t[a-b] ~ [a-b]\n" =
      .ok ⟨["x", "", ""], [⟨1, 1, some 2, "m: n", none⟩, ⟨1, 10, some 1, "m: n", none⟩],
        ⟨[⟨"a-b", "m: n", 3⟩]⟩⟩ := by cbv
  exact ⟨_, h, parse_faithful h, by decide⟩

end LintFixture
