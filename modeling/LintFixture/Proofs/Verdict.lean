import LintFixture.Proofs.Matching
import LintFixture.Proofs.Reading
import LintFixture.Proofs.Utf8
import LintFixture.Result.Verify

/-!
# When a fixture passes

A fixture is decoded, cut into lines, taken apart, linted and compared, and each stage can refuse
it. `Passes` says what has to hold of the raw lines and of what the linter reports on their source,
without a word of the stages: every line is one of the grammar, the annotations are anchored and
explained, and they and the reported diagnostics meet one by one.

Results:
* `verifyText_passes_iff`: a text passes exactly where its lines do.
* `verify_passes_iff`: a file passes exactly where its bytes are UTF-8 and the lines of its text
  pass.
-/

namespace LintFixture

/-! ## Lines -/

/-- The line is one of the grammar. -/
def WellFormedLine (cs : List Char) : Prop :=
  AnnotationLine cs ∨ (∃ tag message, LegendLine tag message cs) ∨ SourceLine cs

theorem wellFormedLine_iff {cs : List Char} : WellFormedLine cs ↔ ¬ MalformedLine cs := by
  unfold WellFormedLine MalformedLine SourceLine
  by_cases ha : AnnotationLine cs
  · simp [ha]
  by_cases hl : ∃ tag message, LegendLine tag message cs
  · obtain ⟨tag, message, hl⟩ := hl
    exact iff_of_true (Or.inr (Or.inl ⟨tag, message, hl⟩)) fun h => h.2.1 tag message hl
  · have hnone : ∀ tag message, ¬ LegendLine tag message cs := fun tag message h =>
      hl ⟨tag, message, h⟩
    simp [ha, hnone]

theorem judged_iff {text : String} (hfeed : '\n' ∉ text.toList) (n : Int) :
    (∃ line, Line.classify text n = .ok line) ↔ WellFormedLine text.toList := by
  rw [wellFormedLine_iff, ← Line.classify_eq_error_iff (n := n) hfeed]
  cases Line.classify text n <;> simp

/-- All rows are judged where the lines are those of the grammar. -/
theorem judged_numbered_iff {lines : List String} (hfeed : ∀ line ∈ lines, '\n' ∉ line.toList) :
    (∀ row ∈ numbered lines, ∃ line, Line.classify row.text row.number = .ok line) ↔
      ∀ line ∈ lines, WellFormedLine line.toList := by
  have htexts : (numbered lines).map (·.text) = lines := map_text_numberedFrom lines 0
  generalize numbered lines = rows at htexts ⊢
  rw [← htexts] at hfeed ⊢
  simp only [List.forall_mem_map] at hfeed ⊢
  exact forall₂_congr fun row hrow => judged_iff (hfeed row hrow) _

/-- No annotation line comes before the source. -/
def Anchored (lines : List String) : Prop :=
  ∀ (i : Nat) (line : String), lines[i]? = some line → AnnotationLine line.toList →
    ∃ j < i, ∃ above : String, lines[j]? = some above ∧ SourceLine above.toList

theorem anchored_iff {lines : List String} :
    (∀ a ∈ annotationsOf lines, a.above ≠ []) ↔ Anchored lines := by
  constructor
  · intro h i line hline ha
    obtain ⟨m, hm⟩ := List.exists_mem_of_ne_nil _ (marksOf_ne_nil_iff (n := i + 1).mpr ha)
    exact filter_take_ne_nil_iff.mp
      (h ⟨_, m⟩ (mem_annotationsOf_iff.mpr ⟨i, ⟨line, hline, hm⟩, rfl⟩))
  · intro h a ha
    obtain ⟨i, ⟨line, hline, hm⟩, habove⟩ := mem_annotationsOf_iff.mp ha
    rw [habove, filter_take_ne_nil_iff]
    exact h i line hline (marksOf_ne_nil_iff.mp (List.ne_nil_of_mem hm))

/-! ## What is marked and what is reported -/

/-- The place that an annotation marks in the source. -/
def Annotation.position (a : Annotation) : Position :=
  ((a.above.length - 1 : Nat), a.mark.column)

/-- A reported diagnostic is what an annotation asks for: it stands at the marked place with the
message that the legend has for the tag, and it is as wide as the mark if it has a width. -/
structure Meets (legend : Legend) (a : Annotation) (d : Diagnostic) : Prop where
  position : d.position = a.position
  message : (a.mark.tag, d.message) ∈ legend.messages
  width : d.width = none ∨ d.width = some (a.mark.width : Int)

theorem Diagnostic.agrees_iff {e d : Diagnostic} {w : Int} (hw : e.width = some w) :
    e.agrees d = true ↔ e.message = d.message ∧ (d.width = none ∨ d.width = some w) := by
  unfold Diagnostic.agrees
  rw [hw, Bool.and_eq_true, beq_iff_eq]
  refine and_congr_right fun _ => ?_
  cases d.width with
  | none => simp
  | some v =>
    simp only [beq_iff_eq, reduceCtorEq, Option.some.injEq, false_or]
    exact eq_comm

theorem position_of_expects {legend : Legend} {a : Annotation} {e : Diagnostic}
    (he : Expects legend a e) : e.position = a.position := by
  rw [Diagnostic.position, he.line, he.column, Annotation.position]

/-- A diagnostic agrees with what an annotation makes a fixture expect exactly when it meets the
annotation. -/
theorem agrees_iff_meets {legend : Legend} (h : legend.tags.Nodup) {a : Annotation}
    {e d : Diagnostic} (he : Expects legend a e) :
    (d.position = e.position ∧ e.agrees d = true) ↔ Meets legend a d := by
  rw [position_of_expects he, Diagnostic.agrees_iff he.width]
  constructor
  · rintro ⟨hposition, hmessage, hwidth⟩
    exact ⟨hposition, hmessage ▸ he.message, hwidth⟩
  · rintro ⟨hposition, hmessage, hwidth⟩
    have hresolved := (Legend.resolve_eq_ok_iff (n := 0) h).mpr hmessage
    rw [(Legend.resolve_eq_ok_iff h).mpr he.message] at hresolved
    exact ⟨hposition, Except.ok.inj hresolved, hwidth⟩

/-- Expected diagnostics stand where the annotations do. -/
theorem positions_of_expects {legend : Legend} : ∀ {as : List Annotation} {es : List Diagnostic},
    List.Forall₂ (Expects legend) as es →
      es.map Diagnostic.position = as.map Annotation.position
  | _, _, .nil => rfl
  | _, _, .cons he hes => by
    rw [List.map_cons, List.map_cons, positions_of_expects hes, position_of_expects he]

theorem agree_iff_meet {legend : Legend} (h : legend.tags.Nodup) {as : List Annotation}
    {es : List Diagnostic} (he : List.Forall₂ (Expects legend) as es) : ∀ {ds : List Diagnostic},
    List.Forall₂ (fun e d => d.position = e.position ∧ e.agrees d = true) es ds ↔
      List.Forall₂ (Meets legend) as ds := by
  induction he with
  | nil => exact fun {ds} => by rw [List.forall₂_nil_left_iff, List.forall₂_nil_left_iff]
  | cons he _ ih =>
    intro ds
    simp only [List.forall₂_cons_left_iff, agrees_iff_meets h he, ih]

theorem exists_expects_iff {legend : Legend} {a : Annotation} :
    (∃ e, Expects legend a e) ↔ a.mark.tag ∈ legend.tags := by
  constructor
  · rintro ⟨e, he⟩
    obtain ⟨entry, hentry, heq⟩ := List.mem_map.mp he.message
    exact List.mem_map.mpr ⟨entry, hentry, congrArg Prod.fst heq⟩
  · intro h
    obtain ⟨entry, hentry, htag⟩ := List.mem_map.mp h
    exact ⟨⟨(a.above.length - 1 : Nat), a.mark.column, some (a.mark.width : Int), entry.message,
      none⟩, rfl, rfl, rfl, List.mem_map.mpr ⟨entry, hentry, by rw [htag]⟩, rfl⟩

/-- A fixture can expect something for every annotation where all their tags are defined. -/
theorem exists_all_expects_iff {legend : Legend} : ∀ {as : List Annotation},
    (∃ es, List.Forall₂ (Expects legend) as es) ↔ ∀ a ∈ as, a.mark.tag ∈ legend.tags
  | [] => ⟨fun _ a ha => absurd ha List.not_mem_nil, fun _ => ⟨[], .nil⟩⟩
  | a :: as => by
    rw [List.forall_mem_cons, ← exists_expects_iff, ← exists_all_expects_iff]
    constructor
    · rintro ⟨_, h⟩
      obtain ⟨e, es, he, hes, rfl⟩ := List.forall₂_cons_left_iff.mp h
      exact ⟨⟨e, he⟩, es, hes⟩
    · rintro ⟨⟨e, he⟩, es, hes⟩
      exact ⟨e :: es, .cons he hes⟩

/-! ## The stages -/

/-- What has to hold of the raw lines of a fixture, and of what a linter reports on their source,
for the fixture to pass. -/
structure Passes (linter : Linter) (config : Config) (lines : List String) : Prop where
  /-- Every line is an annotation line, a legend line or a source line. -/
  wellFormed : ∀ line ∈ lines, WellFormedLine line.toList
  anchored : Anchored lines
  /-- No tag is defined twice, -/
  once : (legendOf lines).tags.Nodup
  /-- and every tag of an annotation is. -/
  defined : ∀ a ∈ annotationsOf lines, a.mark.tag ∈ (legendOf lines).tags
  /-- No two annotations mark the same place. -/
  apart : ((annotationsOf lines).map Annotation.position).Nodup
  /-- The linter reports diagnostics only, and these, in some order, are what the annotations ask
  for one by one. -/
  met : ∃ items reported ds,
    linter (Text.joinLines (lines.filter Line.isSource)) config = .ok items ∧
    List.Forall₂ (fun item d => item.toDiagnostic = .ok d) items reported ∧
    ds.Perm reported ∧ List.Forall₂ (Meets (legendOf lines)) (annotationsOf lines) ds

/-- When a text can be taken apart, and into what. -/
theorem parse_eq_ok_iff {text : String} {f : Fixture} :
    Fixture.parse text = .ok f ↔
      ((∀ line ∈ Text.splitLines text, WellFormedLine line.toList) ∧
        Anchored (Text.splitLines text) ∧ (legendOf (Text.splitLines text)).tags.Nodup) ∧
      f.sourceLines = (Text.splitLines text).filter Line.isSource ∧
      f.legend = legendOf (Text.splitLines text) ∧
      List.Forall₂ (Expects f.legend) (annotationsOf (Text.splitLines text)) f.expected := by
  have hfeed : ∀ line ∈ Text.splitLines text, '\n' ∉ line.toList := fun _ hline =>
    Text.not_mem_of_mem_splitLines hline
  rw [Fixture.parse, ofLines_eq_ok_iff, ← judged_numbered_iff hfeed, ← anchored_iff]
  exact and_congr_left fun _ =>
    ⟨fun h => ⟨h.judged, h.anchored, h.once⟩, fun h => ⟨h.1, h.2.1, h.2.2⟩⟩

theorem diagnostics_eq_ok_iff {linter : Linter} {source : String} {config : Config}
    {reported : List Diagnostic} :
    linter.diagnostics source config = .ok reported ↔
      ∃ items, linter source config = .ok items ∧
        List.Forall₂ (fun item d => item.toDiagnostic = .ok d) items reported := by
  unfold Linter.diagnostics
  cases linter source config with
  | error fault => simp
  | ok items => simp [mapM_eq_ok_iff]

/-- A text is compared when it can be taken apart and its source is linted. -/
theorem verifyText_eq_ok_iff {w : Wording} {linter : Linter} {config : Config} {text : String}
    {c : Comparison} :
    verifyText w linter config text = .ok (.ok c) ↔
      ∃ f reported, Fixture.parse text = .ok f ∧
        linter.diagnostics f.source config = .ok reported ∧
        Comparison.compare f.expected reported = .ok c := by
  unfold verifyText
  cases Fixture.parse text with
  | error e => simp
  | ok f =>
    cases hlint : linter.diagnostics f.source config with
    | error fault => cases hfail : fault.linterFailure w <;> simp [hlint, hfail, Except.map]
    | ok reported =>
      unfold Fixture.compare
      cases hcompare : Comparison.compare f.expected reported <;> simp [hlint, hcompare]

/-- **A text passes** exactly where its lines do. -/
theorem verifyText_passes_iff {w : Wording} {linter : Linter} {config : Config} {text : String} :
    (∃ c, verifyText w linter config text = .ok (.ok c) ∧ c.passed = true) ↔
      Passes linter config (Text.splitLines text) := by
  constructor
  · rintro ⟨c, hc, hpassed⟩
    obtain ⟨f, reported, hparse, hlint, hcompare⟩ := verifyText_eq_ok_iff.mp hc
    obtain ⟨⟨hwf, hanchored, honce⟩, hsource, hlegend, hexpected⟩ := parse_eq_ok_iff.mp hparse
    obtain ⟨items, hitems, hreported⟩ := diagnostics_eq_ok_iff.mp hlint
    obtain ⟨hapart, ds, hperm, hagree⟩ := Comparison.compare_passed_iff.mp ⟨c, hcompare, hpassed⟩
    rw [hlegend] at hexpected
    rw [Fixture.source, hsource] at hitems
    rw [positions_of_expects hexpected] at hapart
    exact ⟨hwf, hanchored, honce, exists_all_expects_iff.mp ⟨_, hexpected⟩, hapart,
      items, reported, ds, hitems, hreported, hperm, (agree_iff_meet honce hexpected).mp hagree⟩
  · rintro ⟨hwf, hanchored, honce, hdefined, hapart, items, reported, ds, hitems, hreported,
      hperm, hmeet⟩
    obtain ⟨expected, hexpected⟩ := exists_all_expects_iff.mpr hdefined
    rw [← positions_of_expects hexpected] at hapart
    obtain ⟨c, hcompare, hpassed⟩ := Comparison.compare_passed_iff.mpr
      ⟨hapart, ds, hperm, (agree_iff_meet honce hexpected).mpr hmeet⟩
    exact ⟨c, verifyText_eq_ok_iff.mpr ⟨⟨_, expected, legendOf _⟩, reported,
      parse_eq_ok_iff.mpr ⟨⟨hwf, hanchored, honce⟩, rfl, rfl, hexpected⟩,
      diagnostics_eq_ok_iff.mpr ⟨items, hitems, hreported⟩, hcompare⟩, hpassed⟩

/-- A diagnostic without width meets its annotation, whatever rule found it. -/
example (config : Config) :
    Passes (fun _ _ => .ok [.diagnostic ⟨0, 0, none, "m", some "r"⟩]) config
      (Text.splitLines "x\n~ [a]\n[a]: m") :=
  (verifyText_passes_iff (w := .plain)).mp ⟨⟨[], [], []⟩, by cbv, rfl⟩

theorem readFixture_eq_ok_iff {fs : FileSystem} {path : Path} {text : String} :
    fs.readFixture path = .ok (.ok text) ↔
      ∃ cs, fs.read path = .ok (Text.encodeUtf8 cs) ∧
        text = String.ofList (Text.unixLines cs) := by
  unfold FileSystem.readFixture
  cases fs.read path with
  | error fault => cases fault <;> simp
  | ok bytes =>
    simp only [Except.ok.injEq, ← Text.decodeUtf8_eq_ok_iff]
    cases Text.decodeUtf8 bytes <;> simp [eq_comm]

/-- A result passes as the outcome of a text that was read. -/
theorem exists_verify_passed_iff {fs : FileSystem} {linter : Linter} {config : Config}
    {path : Path} :
    (∃ r, verify fs linter config path = .ok r ∧ r.passed = true) ↔
      ∃ text, fs.readFixture path = .ok (.ok text) ∧
        ∃ c, verifyText fs.wording linter config text = .ok (.ok c) ∧ c.passed = true := by
  unfold verify
  cases fs.readFixture path with
  | error fault => simp
  | ok outcome =>
    cases outcome with
    | error e => simp [FixtureResult.failed, FixtureResult.passed]
    | ok text =>
      cases hverify : verifyText fs.wording linter config text with
      | error fault => simp [hverify, Except.map]
      | ok outcome =>
        cases outcome with
        | error e =>
          simp [hverify, Except.map, FixtureResult.ofOutcome, FixtureResult.failed,
            FixtureResult.passed]
        | ok c =>
          simp [hverify, Except.map, FixtureResult.ofOutcome, FixtureResult.compared,
            FixtureResult.passed]

/-- **A file passes** exactly where its bytes are UTF-8 and the lines of its text, whichever way
they end, pass. -/
theorem verify_passes_iff (fs : FileSystem) (linter : Linter) (config : Config) (path : Path) :
    (∃ r, verify fs linter config path = .ok r ∧ r.passed = true) ↔
      ∃ cs, fs.read path = .ok (Text.encodeUtf8 cs) ∧
        Passes linter config (Text.splitLines (String.ofList (Text.unixLines cs))) := by
  rw [exists_verify_passed_iff]
  constructor
  · rintro ⟨text, hread, hpassed⟩
    obtain ⟨cs, hbytes, rfl⟩ := readFixture_eq_ok_iff.mp hread
    exact ⟨cs, hbytes, verifyText_passes_iff.mp hpassed⟩
  · rintro ⟨cs, hbytes, hpasses⟩
    exact ⟨_, readFixture_eq_ok_iff.mpr ⟨cs, hbytes, rfl⟩, verifyText_passes_iff.mpr hpasses⟩

end LintFixture
