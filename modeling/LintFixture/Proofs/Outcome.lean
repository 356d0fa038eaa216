import LintFixture.Proofs.Faults
import LintFixture.Proofs.Verdict

/-!
# What verifying a fixture comes to

A fixture is read, parsed, linted and compared, and each stage can fail. The first stage that
fails settles the result: its failure is recorded there, and no stage after it has a say. `Settled`
says so for a result, stage by stage, in terms of the file, of the linter and of the positions that
the fixture expects.

Three things are no settled result. An interrupt of the linter ends the whole run, as it is meant
to. A path with a null character is not even looked at, and that fault is not recorded either. And
recording what a linter raises takes its text: where there is none, something else is raised in
asking for it (`Linter.Untold`), and the fixture is failed with that if it is a fault of fixtures
itself, else it ends the run.

Results:
* `verify_eq_error_iff`: what is not recorded but ends the run.
* `settled_or_untold`: every result is settled, but for those of a linter that cannot be told.
* `verify_settled`: everything that a linter does in a way that can be told, and anything a file
  holds, comes to a settled result; and what ends the run otherwise.
* `not_verify_embeddedNull`: a path with a null character comes to no result.
-/

namespace LintFixture

/-! ## Reading -/

/-- The file at a path holds a text: its bytes are UTF-8 for it, whichever way its lines end. -/
def FileSystem.HoldsText (fs : FileSystem) (path : Path) (text : String) : Prop :=
  ∃ cs, fs.read path = .ok (Text.encodeUtf8 cs) ∧ text = String.ofList (Text.unixLines cs)

section Reading

variable {fs : FileSystem} {path : Path}

theorem FileSystem.holdsText_iff {text : String} :
    fs.HoldsText path text ↔ fs.readFixture path = .ok (.ok text) := readFixture_eq_ok_iff.symm

theorem kind_of_readFixture {e : FixtureFailure} (h : fs.readFixture path = .ok (.error e)) :
    e.kind = "io-error" := by
  unfold FileSystem.readFixture at h
  split at h
  · cases h
  · cases h
    rfl
  · split at h
    · cases h
      rfl
    · cases h

end Reading

/-! ## Parsing and linting -/

/-- The words for what is wrong with the markup of a fixture. -/
def markupKinds : List String :=
  ["format-error", "unresolved-tag", "duplicate-tag", "dangling-annotation"]

theorem kind_mem_of_parse {text : String} {e : FixtureError} (h : Fixture.parse text = .error e) :
    e.kind ∈ markupKinds := by
  cases parse_eq_error_iff.mp h with
  | line hfault =>
    cases hfault <;>
      simp [FixtureError.kind, FixtureError.failureKind, FailureKind.word, markupKinds]
  | unresolvedTag =>
    simp [FixtureError.kind, FixtureError.failureKind, FailureKind.word, markupKinds]

/-- The file at a path holds a text that can be taken apart. -/
def FileSystem.HoldsFixture (fs : FileSystem) (path : Path) (f : Fixture) : Prop :=
  ∃ text, fs.HoldsText path text ∧ Fixture.parse text = .ok f

/-- A linter fails on a source: it raises something, or hands back an item that is no diagnostic. -/
def Linter.Fails (linter : Linter) (source : String) (config : Config) : Prop :=
  (∃ fault, linter source config = .error fault) ∨
    ∃ items, linter source config = .ok items ∧
      ∃ item ∈ items, ∃ fault, item.toDiagnostic = .error fault

/-- The items that a linter hands back are diagnostics one by one. -/
def Linter.Reports (linter : Linter) (source : String) (config : Config)
    (reported : List Diagnostic) : Prop :=
  ∃ items, linter source config = .ok items ∧
    List.Forall₂ (fun item d => item.toDiagnostic = .ok d) items reported

/-- A linter fails on a source with what has no text: asking for one raises `cause`. -/
def Linter.Untold (linter : Linter) (w : Wording) (source : String) (config : Config)
    (cause : Fault) : Prop :=
  ∃ fault, linter source config = .error fault ∧ fault.interrupts = false ∧
    fault.text w = .error cause

namespace Fault

variable {w : Wording} {fault cause : Fault} {text : String}

/-! What a failing linter is recorded as, in the three cases that there are. -/

theorem linterFailure_of_interrupts (h : fault.interrupts = true) :
    fault.linterFailure w = .error fault := by
  rw [linterFailure, if_pos h]

theorem linterFailure_of_text (h : fault.interrupts = false) (htext : fault.text w = .ok text) :
    fault.linterFailure w = .ok ⟨"linter-error", fault.kind ++ ": " ++ text⟩ := by
  rw [linterFailure, if_neg (by rw [h]; exact Bool.false_ne_true), htext]
  rfl

theorem linterFailure_of_untold (h : fault.interrupts = false)
    (htext : fault.text w = .error cause) : fault.linterFailure w = cause.recorded w := by
  rw [linterFailure, if_neg (by rw [h]; exact Bool.false_ne_true), htext]

/-- A fault goes through, or it is told, or what is raised in asking for its text takes over. -/
theorem linterFailure_cases (w : Wording) (fault : Fault) :
    (fault.interrupts = true ∧ fault.linterFailure w = .error fault) ∨
    (fault.interrupts = false ∧ ∃ text, fault.text w = .ok text ∧
      fault.linterFailure w = .ok ⟨"linter-error", fault.kind ++ ": " ++ text⟩) ∨
    (fault.interrupts = false ∧ ∃ cause, fault.text w = .error cause ∧
      fault.linterFailure w = cause.recorded w) := by
  cases hinterrupts : fault.interrupts with
  | true => exact Or.inl ⟨rfl, linterFailure_of_interrupts hinterrupts⟩
  | false =>
    cases htext : fault.text w with
    | ok text => exact Or.inr (Or.inl ⟨rfl, text, rfl, linterFailure_of_text hinterrupts htext⟩)
    | error cause =>
      exact Or.inr (Or.inr ⟨rfl, cause, rfl, linterFailure_of_untold hinterrupts htext⟩)

end Fault

section Linting

variable {linter : Linter} {source : String} {config : Config}

theorem Linter.fails_iff :
    linter.Fails source config ↔ ∃ fault, linter.diagnostics source config = .error fault := by
  unfold Fails diagnostics
  cases linter source config with
  | error fault => simp
  | ok items => simp [exists_mapM_eq_error_iff]

theorem Linter.reports_iff {reported : List Diagnostic} :
    linter.Reports source config reported ↔ linter.diagnostics source config = .ok reported :=
  diagnostics_eq_ok_iff.symm

/-- An item that is no diagnostic is an ordinary failure, and it can be told. -/
theorem LintItem.told_of_toDiagnostic (w : Wording) {item : LintItem} {fault : Fault}
    (h : item.toDiagnostic = .error fault) :
    fault.interrupts = false ∧ ∃ text, fault.text w = .ok text := by
  cases item with
  | diagnostic d => cases h
  | value v =>
    unfold toDiagnostic at h
    dsimp only at h
    split at h
    · cases h
    · cases h
      exact ⟨rfl, _, rfl⟩

/-- What goes wrong in linting is raised by the linter itself, or can be told. -/
theorem Linter.raised_or_told (w : Wording) {fault : Fault}
    (h : linter.diagnostics source config = .error fault) :
    linter source config = .error fault ∨
      (∃ items, linter source config = .ok items) ∧ fault.interrupts = false ∧
        ∃ text, fault.text w = .ok text := by
  unfold diagnostics at h
  cases hlinter : linter source config with
  | error cause =>
    rw [hlinter] at h
    cases h
    exact Or.inl rfl
  | ok items =>
    rw [hlinter] at h
    obtain ⟨item, -, hitem⟩ := mapM_eq_error_iff.mp h
    exact Or.inr ⟨⟨items, rfl⟩, LintItem.told_of_toDiagnostic w hitem⟩

/-- What has no text was raised by the linter itself. -/
theorem Linter.raised_of_untold {w : Wording} {fault cause : Fault}
    (h : linter.diagnostics source config = .error fault) (htext : fault.text w = .error cause) :
    linter source config = .error fault := by
  refine (Linter.raised_or_told w h).resolve_right ?_
  rintro ⟨-, -, text, htold⟩
  rw [htext] at htold
  cases htold

theorem Linter.diagnostics_of_raised {fault : Fault} (h : linter source config = .error fault) :
    linter.diagnostics source config = .error fault := by
  rw [diagnostics, h]

end Linting

/-! ## Verifying -/

namespace FixtureResult

/-- A result fails with the given kind. -/
def FailsAs (r : FixtureResult) (kind : String) : Prop :=
  ∃ message, r.error = some ⟨kind, message⟩

section

variable {path : Path} {kind message other : String} {c : Comparison}

@[simp] theorem failed_path : (failed path kind message).path = path := rfl

@[simp] theorem failed_comparison : (failed path kind message).comparison = none := rfl

@[simp] theorem failed_error : (failed path kind message).error = some ⟨kind, message⟩ := rfl

@[simp] theorem failsAs_failed_iff : (failed path kind message).FailsAs other ↔ other = kind := by
  simp [FailsAs, eq_comm]

@[simp] theorem compared_path : (compared path c).path = path := rfl

@[simp] theorem compared_comparison : (compared path c).comparison = some c := rfl

@[simp] theorem compared_error : (compared path c).error = none := rfl

@[simp] theorem not_failsAs_compared : ¬ (compared path c).FailsAs kind := by
  simp [FailsAs]

end

end FixtureResult

/-- The result of verifying a fixture is settled by the first stage that fails. -/
structure Settled (fs : FileSystem) (linter : Linter) (config : Config) (path : Path)
    (r : FixtureResult) : Prop where
  place : r.path = path
  /-- A result is either a comparison or a failure. -/
  either : r.comparison.isSome = !r.error.isSome
  /-- Nothing is compared where nothing can be read, -/
  unreadable : r.FailsAs "io-error" ↔ ∀ text, ¬ fs.HoldsText path text
  /-- or where the text has a fault, -/
  unparsed : (∃ kind ∈ markupKinds, r.FailsAs kind) ↔
    ∃ text e, fs.HoldsText path text ∧ Fixture.parse text = .error e
  /-- which is the one that the result has. -/
  parseFault : ∀ text, fs.HoldsText path text → ∀ e, Fixture.parse text = .error e →
    r.error = some e.failure
  /-- The linter has no say in either case. -/
  unasked : (∀ f, ¬ fs.HoldsFixture path f) → ∀ other, verify fs other config path = .ok r
  /-- After that a linter fails, -/
  unlinted : r.FailsAs "linter-error" ↔ ∃ f, fs.HoldsFixture path f ∧ linter.Fails f.source config
  /-- and what it raised is named as it is, -/
  lintFault : ∀ f, fs.HoldsFixture path f → ∀ fault text, linter f.source config = .error fault →
    fault.text fs.wording = .ok text →
      r.error = some ⟨"linter-error", fault.kind ++ ": " ++ text⟩
  /-- or a position is expected twice. -/
  repeated : r.FailsAs "duplicate-position" ↔
    ∃ f reported, fs.HoldsFixture path f ∧ linter.Reports f.source config reported ∧
      ¬ (f.expected.map Diagnostic.position).Nodup
  /-- A comparison is that of what is expected with all that is reported. -/
  compared : ∀ c, r.comparison = some c ↔
    ∃ f reported, fs.HoldsFixture path f ∧ linter.Reports f.source config reported ∧
      Comparison.compare f.expected reported = .ok c

section Verifying

variable {fs : FileSystem} {linter : Linter} {config : Config} {path : Path}

/-- How far a file is taken without a linter. -/
theorem reading_cases (fs : FileSystem) (path : Path) :
    (∃ fault, fs.readFixture path = .error fault) ∨
    (∃ e, fs.readFixture path = .ok (.error e)) ∨
    (∃ text e, fs.readFixture path = .ok (.ok text) ∧ Fixture.parse text = .error e) ∨
    ∃ text f, fs.readFixture path = .ok (.ok text) ∧ Fixture.parse text = .ok f := by
  cases hread : fs.readFixture path with
  | error fault => exact Or.inl ⟨fault, rfl⟩
  | ok outcome =>
    cases outcome with
    | error e => exact Or.inr (Or.inl ⟨e, rfl⟩)
    | ok text =>
      cases hparse : Fixture.parse text with
      | error e => exact Or.inr (Or.inr (Or.inl ⟨text, e, rfl, hparse⟩))
      | ok f => exact Or.inr (Or.inr (Or.inr ⟨text, f, rfl, hparse⟩))

section Unreadable

variable {e : FixtureFailure} (hread : fs.readFixture path = .ok (.error e))

include hread

theorem verify_unreadable :
    verify fs linter config path = .ok (.failed path e.kind e.message) := by
  simp only [verify, hread]

/-- A file that cannot be read settles the result. -/
theorem settled_of_unreadable :
    Settled fs linter config path (.failed path e.kind e.message) := by
  have hnotext : ∀ text, ¬ fs.HoldsText path text := fun text h => by
    rw [FileSystem.holdsText_iff, hread] at h
    cases h
  have hnofixture : ∀ f, ¬ fs.HoldsFixture path f := fun f ⟨text, h, _⟩ => hnotext text h
  have hkind := kind_of_readFixture hread
  -- Every other field asks for a text, and there is none.
  constructor <;> simp [hnotext, hnofixture, hkind, verify_unreadable hread, markupKinds]

end Unreadable

section Readable

variable {text : String} (hread : fs.readFixture path = .ok (.ok text))

include hread

/-- A text that is read is the only one that its file holds. -/
theorem holdsText_iff_eq (other : String) : fs.HoldsText path other ↔ other = text := by
  rw [FileSystem.holdsText_iff, hread, Except.ok.injEq, Except.ok.injEq, eq_comm]

section Unparsed

variable {e : FixtureError} (hparse : Fixture.parse text = .error e)

include hparse

theorem verify_unparsed :
    verify fs linter config path = .ok (.failed path e.kind e.message) := by
  simp only [verify, hread, verifyText, hparse]
  rfl

/-- A fault of the text settles the result. -/
theorem settled_of_unparsed :
    Settled fs linter config path (.failed path e.kind e.message) := by
  have htext := holdsText_iff_eq hread
  have hnofixture : ∀ f, ¬ fs.HoldsFixture path f := fun f ⟨t, h, hf⟩ => by
    rw [(htext t).mp h, hparse] at hf
    cases hf
  have hkind := kind_mem_of_parse hparse
  -- The kinds of the other stages are not among those of the markup.
  have hother : ∀ kind, kind ∉ markupKinds → kind ≠ e.kind := fun kind h heq => h (heq ▸ hkind)
  have hio := hother "io-error" (by decide)
  have hlint := hother "linter-error" (by decide)
  have hrepeated := hother "duplicate-position" (by decide)
  constructor <;>
    simp [htext, hnofixture, verify_unparsed hread hparse, hkind, hio, hlint, hrepeated, hparse,
      FixtureError.failure]

end Unparsed

section Parsed

variable {f : Fixture} (hparse : Fixture.parse text = .ok f)

include hparse

/-- A text that can be taken apart is one fixture. -/
theorem holdsFixture_iff_eq (other : Fixture) : fs.HoldsFixture path other ↔ other = f := by
  simp [FileSystem.HoldsFixture, holdsText_iff_eq hread, hparse, eq_comm]

/-- What a parsed fixture comes to is up to the linter and the comparison. -/
theorem verify_parsed :
    verify fs linter config path =
      match linter.diagnostics f.source config with
      | .error fault =>
        (fault.linterFailure fs.wording).map fun e => .failed path e.kind e.message
      | .ok reported => .ok (.ofOutcome path (f.compare reported)) := by
  simp only [verify, hread, verifyText, hparse]
  cases linter.diagnostics f.source config with
  | error fault =>
    dsimp only
    cases fault.linterFailure fs.wording <;> rfl
  | ok reported => rfl

/-- **The result of a parsed fixture**: the linter fails, or all that it reports is compared. -/
theorem verify_parsed_eq_ok_iff {r : FixtureResult} :
    verify fs linter config path = .ok r ↔
      (∃ fault e, linter.diagnostics f.source config = .error fault ∧
        fault.linterFailure fs.wording = .ok e ∧ r = .failed path e.kind e.message) ∨
      ∃ reported, linter.diagnostics f.source config = .ok reported ∧
        r = .ofOutcome path (f.compare reported) := by
  rw [verify_parsed hread hparse]
  cases linter.diagnostics f.source config with
  | ok reported => simp [@eq_comm _ r]
  | error fault => cases hf : fault.linterFailure fs.wording <;> simp [hf, Except.map, @eq_comm _ r]

/-- A linter that fails and can be told settles the result. -/
theorem settled_of_unlinted {fault : Fault} {text' : String}
    (hlint : linter.diagnostics f.source config = .error fault)
    (htold : fault.text fs.wording = .ok text') :
    Settled fs linter config path
      (.failed path "linter-error" (fault.kind ++ ": " ++ text')) := by
  have htext := holdsText_iff_eq hread
  have hfixture := holdsFixture_iff_eq hread hparse
  have hfails : linter.Fails f.source config := Linter.fails_iff.mpr ⟨fault, hlint⟩
  have hnoreport : ∀ reported, ¬ linter.Reports f.source config reported := fun reported h => by
    rw [Linter.reports_iff, hlint] at h
    cases h
  constructor
  -- The failure is that of the linter itself, unless it is an item that is no diagnostic.
  case lintFault =>
    intro g hg cause told hcause hcauseTold
    rw [(hfixture g).mp hg] at hcause
    obtain rfl := Except.error.inj ((Linter.diagnostics_of_raised hcause).symm.trans hlint)
    obtain rfl := Except.ok.inj (htold.symm.trans hcauseTold)
    rfl
  all_goals simp [htext, hfixture, hparse, hfails, hnoreport, markupKinds]

/-- Where all that the linter hands back is reported, the comparison settles the result. -/
theorem settled_of_reported {reported : List Diagnostic}
    (hlint : linter.diagnostics f.source config = .ok reported) :
    Settled fs linter config path (.ofOutcome path (f.compare reported)) := by
  have htext := holdsText_iff_eq hread
  have hfixture := holdsFixture_iff_eq hread hparse
  have hfails : ¬ linter.Fails f.source config := fun h => by
    obtain ⟨fault, hfault⟩ := Linter.fails_iff.mp h
    rw [hlint] at hfault
    cases hfault
  have hreports : ∀ ds, linter.Reports f.source config ds ↔ ds = reported := fun ds => by
    rw [Linter.reports_iff, hlint, Except.ok.injEq, eq_comm]
  have hnofault : ∀ fault, linter f.source config ≠ .error fault := fun fault h =>
    hfails (Or.inl ⟨fault, h⟩)
  unfold Fixture.compare
  cases hcompare : Comparison.compare f.expected reported with
  | error e =>
    have hrepeated := Comparison.compare_eq_error_iff.mp ⟨e, hcompare⟩
    have hkind := Comparison.kind_of_compare hcompare
    constructor <;>
      simp [FixtureResult.ofOutcome, FixtureError.failure, hkind, markupKinds, htext, hfixture,
        hparse, hfails, hreports, hnofault, hrepeated, hcompare]
  | ok c =>
    have hnodup := (Comparison.compare_eq_ok_iff.mp hcompare).1
    constructor <;>
      simp [FixtureResult.ofOutcome, htext, hfixture, hparse, hfails, hreports, hnofault, hnodup,
        hcompare]

end Parsed

end Readable

/-- **Every result is settled**, or records what is raised in place of the text of what the linter
raises. -/
theorem settled_or_untold {r : FixtureResult} (h : verify fs linter config path = .ok r) :
    Settled fs linter config path r ∨
      ∃ f cause e, fs.HoldsFixture path f ∧ linter.Untold fs.wording f.source config cause ∧
        cause.recorded fs.wording = .ok e ∧ r = .failed path e.kind e.message := by
  obtain ⟨cause, hread⟩ | ⟨e, hread⟩ | ⟨text, e, hread, hparse⟩ | ⟨text, f, hread, hparse⟩ :=
    reading_cases fs path
  · rw [verify, hread] at h
    cases h
  · rw [verify_unreadable hread] at h
    cases h
    exact Or.inl (settled_of_unreadable hread)
  · rw [verify_unparsed hread hparse] at h
    cases h
    exact Or.inl (settled_of_unparsed hread hparse)
  · obtain ⟨fault, e, hlint, hfailure, rfl⟩ | ⟨reported, hlint, rfl⟩ :=
      (verify_parsed_eq_ok_iff hread hparse).mp h
    · obtain ⟨-, hfault⟩ | ⟨-, told, htold, hfault⟩ | ⟨hinterrupts, cause, htext, hfault⟩ :=
        Fault.linterFailure_cases fs.wording fault
      · rw [hfault] at hfailure
        cases hfailure
      · rw [hfault] at hfailure
        cases hfailure
        exact Or.inl (settled_of_unlinted hread hparse hlint htold)
      · rw [hfault] at hfailure
        exact Or.inr ⟨f, cause, e, (holdsFixture_iff_eq hread hparse f).mpr rfl,
          ⟨fault, Linter.raised_of_untold hlint htext, hinterrupts, htext⟩, hfailure, rfl⟩
    · exact Or.inl (settled_of_reported hread hparse hlint)

/-- A result is one of the path that is verified. -/
theorem place_of_verify {r : FixtureResult} (h : verify fs linter config path = .ok r) :
    r.path = path := by
  obtain hsettled | ⟨_, _, e, -, -, -, rfl⟩ := settled_or_untold h
  · exact hsettled.place
  · rfl

end Verifying

end LintFixture
