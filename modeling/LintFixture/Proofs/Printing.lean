import LintFixture.Console.Output
import LintFixture.Proofs.Reports

/-!
# What is printed about results

The verdict on a result is found in many places: in its status, in the lines after that, in the
counts of the summary, in the status of the summary, and in the answer. `Agrees` says what has to
be printed for all of these to say the same, in terms of the pieces that are printed and the report
of each fixture. The numbers of the summary are compared with the statuses that are counted among
the pieces before it.

A result is a step of the printing (`Shows`), and the steps add up (`statusCount_flatMap`).
What verifying comes to gives reasons for each result that does not pass (`shows_fixturePieces`);
of a result that was made up, with neither a comparison nor an error, there would be none.

A place beyond what numerals are written for, which a linter is free to report, stops the printing
at the report that it is in (`StopsAtReport`).

* `print_agrees`: what is printed about results of verifying agrees with them, unless there is a
  report that cannot be written; that one stops it.
* `not_print_agrees_far`: a single result of verifying for which nothing but the heading is printed.
-/

namespace LintFixture

/-- A result that verifying a fixture comes to. -/
def FixtureResult.Verified (r : FixtureResult) : Prop :=
  ∃ fs linter config path, verify fs linter config path = .ok r

namespace Report

/-! ## Reports that can be written -/

/-- The numbers that the report of a fixture shows have numerals. -/
def Writable (r : FixtureResult) : Prop := ∀ n ∈ numbers r, hasNumeral n = true

instance (r : FixtureResult) : Decidable (Writable r) :=
  inferInstanceAs (Decidable (∀ n ∈ numbers r, hasNumeral n = true))

section Writing

variable {root : Option Path} {r : FixtureResult}

theorem write_of_writable (h : Writable r) : write root r = .ok (lines root r) :=
  if_pos (List.all_eq_true.mpr h)

theorem write_of_not_writable (h : ¬ Writable r) : write root r = .error .unwritable :=
  if_neg fun hall => h (List.all_eq_true.mp hall)

end Writing

/-! ## Pieces for one result -/

/-- The lines that say why a result does not pass: one about its error, or one about each
discrepancy. -/
inductive Reasons (r : FixtureResult) : List String → Prop
  | error {e : FixtureFailure} : r.error = some e → Reasons r [failureLine e]
  | discrepancies {c : Comparison} : r.error = none → r.comparison = some c →
    Reasons r (c.discrepancies.map Discrepancy.line)

/-- The pieces that are printed for a result: a status that says whether it passes, and the lines
of its report after the first one, which there are if it does not pass. -/
inductive Shows (root : Option Path) (r : FixtureResult) : List Printed → Prop
  | passes {name : String} : r.passed = true → write root r = .ok [name] →
    Shows root r [.status .ok (name ++ ": passed")]
  | fails {name : String} {reasons : List String} : r.passed = false →
    write root r = .ok (name :: reasons) → reasons ≠ [] → Reasons r reasons →
    Shows root r (.status .fail (name ++ ": failed") :: reasons.map .detail)

end Report

theorem Comparison.passed_iff_discrepancies {c : Comparison} :
    c.passed = true ↔ c.discrepancies = [] := by
  simp [passed, discrepancies, and_assoc]

namespace Report

variable {root : Option Path} {r : FixtureResult}

/-- **Every result of verifying is shown with its reasons.** -/
theorem shows_fixturePieces (hverified : r.Verified) (hwritable : Writable r) :
    Shows root r (fixturePieces root r) := by
  obtain ⟨fs, linter, config, path, hverify⟩ := hverified
  have hwrite : write root r = .ok (lines root r) := write_of_writable hwritable
  cases regular_of_verify hverify with
  | failed path hkind message =>
    exact .fails rfl hwrite (List.cons_ne_nil _ _) (.error rfl)
  | @compared path c hshaped =>
    have hreasons : details (.compared path c) = c.discrepancies.map Discrepancy.line :=
      c.discrepancyLines_eq
    have hpassed : (FixtureResult.compared path c).passed = c.passed := rfl
    rw [lines, hreasons] at hwrite
    unfold fixturePieces
    rw [hpassed, hreasons]
    split
    · rename_i hc
      rw [Comparison.passed_iff_discrepancies.mp hc] at hwrite
      exact .passes hc hwrite
    · rename_i hc
      have hsome := mt Comparison.passed_iff_discrepancies.mpr hc
      exact .fails (Bool.eq_false_iff.mpr hc) hwrite (by simpa using hsome)
        (.discrepancies rfl rfl)

/-! ## Counting statuses -/

/-- How many statuses of a kind there are among pieces. -/
def statusCount (kind : Status) (ps : List Printed) : Nat :=
  ps.countP fun
    | .status k _ => k == kind
    | _ => false

section Counting

variable (kind : Status)

@[simp] theorem statusCount_nil : statusCount kind [] = 0 := rfl

@[simp] theorem statusCount_status (k : Status) (message : String) (ps : List Printed) :
    statusCount kind (.status k message :: ps) =
      statusCount kind ps + if k = kind then 1 else 0 := by
  simp [statusCount, List.countP_cons]

@[simp] theorem statusCount_heading (title : String) (ps : List Printed) :
    statusCount kind (.heading title :: ps) = statusCount kind ps := by
  simp [statusCount]

@[simp] theorem statusCount_append (ps qs : List Printed) :
    statusCount kind (ps ++ qs) = statusCount kind ps + statusCount kind qs :=
  List.countP_append

@[simp] theorem statusCount_details (messages : List String) :
    statusCount kind (messages.map .detail) = 0 := by
  simp [statusCount, List.countP_map, Function.comp_def]

/-- The status of a result counts once, as what it says. -/
theorem statusCount_fixturePieces (root : Option Path) (r : FixtureResult) :
    statusCount .ok (fixturePieces root r) = (if r.passed then 1 else 0) ∧
      statusCount .fail (fixturePieces root r) = if r.passed then 0 else 1 := by
  unfold fixturePieces
  cases r.passed <;> simp

/-- The statuses of results are as many as the results that pass and that do not. -/
theorem statusCount_flatMap (root : Option Path) (rs : List FixtureResult) :
    statusCount .ok (rs.flatMap (fixturePieces root)) = rs.countP (·.passed) ∧
      statusCount .fail (rs.flatMap (fixturePieces root)) =
        (rs.filter fun r => !r.passed).length := by
  induction rs with
  | nil => exact ⟨rfl, rfl⟩
  | cons r rest ih =>
    obtain ⟨hok, hfail⟩ := statusCount_fixturePieces root r
    simp only [List.flatMap_cons, statusCount_append, hok, hfail, ih, List.countP_cons,
      List.filter_cons]
    cases r.passed <;> simp [Nat.add_comm]

end Counting

end Report

/-! ## Fixtures of one line -/

/-- The linter that reports the same for every source. -/
def Linter.reporting (ds : List Diagnostic) : Linter := fun _ _ => .ok (ds.map .diagnostic)

theorem Linter.diagnostics_reporting (ds : List Diagnostic) (source : String) (config : Config) :
    (reporting ds).diagnostics source config = .ok ds := by
  show (ds.map LintItem.diagnostic).mapM LintItem.toDiagnostic = .ok ds
  rw [mapM_eq_ok_iff, List.forall₂_map_left_iff]
  exact List.forall₂_same.mpr fun d _ => rfl

/-- The result of a fixture without markup: all that is reported is unexpected. -/
def FixtureResult.unmarked (ds : List Diagnostic) : FixtureResult :=
  .compared ⟨.root, [.of "a.lint"]⟩ ⟨[], Diagnostic.sorted ds, []⟩

theorem verify_reporting (ds : List Diagnostic) :
    verify (.single (.of "a.lint") ['x']) (.reporting ds) .default ⟨.root, [.of "a.lint"]⟩ =
      .ok (.unmarked ds) := by
  have hread : (FileSystem.single (.of "a.lint") ['x']).readFixture ⟨.root, [.of "a.lint"]⟩ =
      .ok (.ok "x") := FileSystem.holdsText_iff.mp ⟨_, rfl, by decide⟩
  have hparse : Fixture.parse "x" = .ok ⟨["x"], [], .empty⟩ := by cbv
  simp only [verify, hread, verifyText, hparse, Linter.diagnostics_reporting]
  simp [Fixture.compare, Comparison.compare, Comparison.repeated?, Comparison.pair,
    Comparison.ofMatching, Diagnostic.sorted, Except.map, FixtureResult.ofOutcome,
    FixtureResult.unmarked]

theorem FixtureResult.verified_unmarked (ds : List Diagnostic) : (unmarked ds).Verified :=
  ⟨_, _, _, _, verify_reporting ds⟩

theorem Report.numbers_unmarked (ds : List Diagnostic) :
    numbers (.unmarked ds) = (Diagnostic.sorted ds).flatMap diagnosticNumbers := by
  simp [numbers, FixtureResult.unmarked, FixtureResult.compared]

namespace Report

/-! ## Whole batches -/

/-- The summary of a number of results that pass and a number of results that do not. -/
def summaryText (passed failed : Nat) : String :=
  toString (passed + failed) ++ " fixture" ++ (if passed + failed = 1 then "" else "s") ++ ": "
    ++ toString passed ++ " passed, " ++ toString failed ++ " failed"

/-- What is printed about a batch agrees with its results, and so does the answer. -/
inductive Agrees (root : Option Path) (b : Batch) : Printout Bool → Prop
  /-- Where there are no results, that is a warning. -/
  | empty : b.results = [] →
    Agrees root b ⟨[.heading "Rule tests", .status .warn "No fixtures found"], .ok true⟩
  /-- Otherwise each result is shown after the heading, and the summary counts what was shown. -/
  | results {blocks : List (List Printed)} {shown : List Printed} {kind : Status}
    {summary : Printed} {passed : Bool} :
    b.results ≠ [] → List.Forall₂ (Shows root) b.results blocks →
    shown = .heading "Rule tests" :: blocks.flatten →
    summary = .status kind (summaryText (statusCount .ok shown) (statusCount .fail shown)) →
    (kind = .ok ∨ kind = .fail) → (kind = .ok ↔ statusCount .fail shown = 0) →
    (passed = true ↔ ∀ message, .status .fail message ∉ shown ++ [summary]) →
    Agrees root b ⟨shown ++ [summary], .ok passed⟩

/-- There is an answer in the end. -/
theorem Agrees.exists_answer {root : Option Path} {b : Batch} {p : Printout Bool}
    (h : Agrees root b p) : ∃ passed, p.outcome = .ok passed := by
  cases h with
  | empty => exact ⟨_, rfl⟩
  | results => exact ⟨_, rfl⟩

/-- Printing stops at the first report that cannot be written; the results before are shown. -/
inductive StopsAtReport (root : Option Path) (b : Batch) : Printout Bool → Prop
  | stop {before after : List FixtureResult} {r : FixtureResult} {blocks : List (List Printed)} :
    b.results = before ++ r :: after → List.Forall₂ (Shows root) before blocks →
    write root r = .error .unwritable →
    StopsAtReport root b ⟨.heading "Rule tests" :: blocks.flatten, .error .unwritable⟩

end Report

theorem Batch.summary_eq (root : Option Path) (b : Batch) :
    b.summary = Report.summaryText
      (Report.statusCount .ok (b.results.flatMap (Report.fixturePieces root)))
      (Report.statusCount .fail (b.results.flatMap (Report.fixturePieces root))) := by
  obtain ⟨hok, hfail⟩ := Report.statusCount_flatMap root b.results
  have htotal : b.results.countP (·.passed) + b.failures.length = b.results.length := by
    rw [failures, ← List.countP_eq_length_filter, eq_comm]
    simpa using List.length_eq_countP_add_countP (l := b.results) (·.passed)
  have hpassed : b.results.length - b.failures.length = b.results.countP (·.passed) := by omega
  rw [hok, hfail, ← failures, Report.summaryText, summary, htotal, hpassed]

namespace Report

section Batches

variable {root : Option Path} {b : Batch} {rs : List FixtureResult}

/-- Results with reports that can be written are printed one after the other. -/
theorem printResults_of_writable (h : ∀ r ∈ rs, Writable r) :
    printResults root b rs =
      ⟨rs.flatMap (fixturePieces root) ++ [.status (if b.passed then .ok else .fail) b.summary],
        .ok b.passed⟩ := by
  induction rs with
  | nil => rfl
  | cons r rest ih =>
    obtain ⟨hr, hrest⟩ := List.forall_mem_cons.mp h
    rw [printResults, write_of_writable hr, ih hrest]
    simp [Printout.after]

theorem printResults_stops {before after : List FixtureResult} {r : FixtureResult}
    (hbefore : ∀ r ∈ before, Writable r) (hr : ¬ Writable r) :
    printResults root b (before ++ r :: after) =
      ⟨before.flatMap (fixturePieces root), .error .unwritable⟩ := by
  induction before with
  | nil => simp [printResults, write_of_not_writable hr]
  | cons s rest ih =>
    obtain ⟨hs, hrest⟩ := List.forall_mem_cons.mp hbefore
    rw [List.cons_append, printResults, write_of_writable hs, ih hrest]
    simp [Printout.after]

/-- The results of verifying are shown in their order. -/
theorem forall₂_shows (hverified : ∀ r ∈ rs, r.Verified) (hwritable : ∀ r ∈ rs, Writable r) :
    List.Forall₂ (Shows root) rs (rs.map (fixturePieces root)) :=
  List.forall₂_map_right_iff.mpr <| List.forall₂_same.mpr fun r hr =>
    shows_fixturePieces (hverified r hr) (hwritable r hr)

theorem print_eq (hne : b.results ≠ []) :
    print root b = (printResults root b b.results).after [.heading "Rule tests"] := by
  rw [print, if_neg (by simpa using hne)]

/-- What can be printed to its end answers whether the batch passes. -/
theorem outcome_print (h : ∀ r ∈ b.results, Writable r) :
    (print root b).outcome = .ok b.passed := by
  unfold print
  split
  · rfl
  · rw [printResults_of_writable h]
    rfl

/-- No status says that a result does not pass where none is counted. -/
theorem statusCount_eq_zero_iff {kind : Status} {ps : List Printed} :
    statusCount kind ps = 0 ↔ ∀ message, .status kind message ∉ ps := by
  rw [statusCount, List.countP_eq_zero]
  constructor
  · exact fun h message hmem => h _ hmem (beq_self_eq_true kind)
  · intro h p hp hkind
    cases p with
    | status k message =>
      obtain rfl := eq_of_beq hkind
      exact h message hp
    | heading title => cases hkind
    | detail message => cases hkind

/-- The results of a batch are followed by the summary that counts them. -/
theorem agrees_of_writable (hverified : ∀ r ∈ b.results, r.Verified)
    (hwritable : ∀ r ∈ b.results, Writable r) : Agrees root b (print root b) := by
  by_cases hne : b.results = []
  · have hpassed : b.passed = true := by simp [Batch.passed, hne]
    have hprint : print root b =
        ⟨[.heading "Rule tests", .status .warn "No fixtures found"], .ok b.passed⟩ := by
      simp [print, hne, Printout.after]
    rw [hprint, hpassed]
    exact .empty hne
  obtain ⟨shown, hshown⟩ : ∃ shown, shown = .heading "Rule tests" ::
    (b.results.map (fixturePieces root)).flatten := ⟨_, rfl⟩
  -- the heading counts for no status, so what is shown has the statuses of the results
  have hcount : ∀ kind, statusCount kind shown =
      statusCount kind (b.results.flatMap (fixturePieces root)) := fun kind =>
    hshown ▸ statusCount_heading kind _ _
  have hfailed : statusCount .fail shown = 0 ↔ b.passed = true := by
    rw [hcount, (statusCount_flatMap root b.results).2, List.length_eq_zero_iff,
      List.filter_eq_nil_iff]
    simp [Batch.passed]
  have hsummary : b.summary = summaryText (statusCount .ok shown) (statusCount .fail shown) := by
    rw [b.summary_eq root, hcount, hcount]
  have hprint : print root b =
      ⟨shown ++ [.status (if b.passed then .ok else .fail) b.summary], .ok b.passed⟩ := by
    rw [print_eq hne, printResults_of_writable hwritable, hshown]
    rfl
  rw [hprint]
  refine .results hne (forall₂_shows hverified hwritable) hshown
    (congrArg (Printed.status _) hsummary) ?_ ?_ ?_
  · cases b.passed <;> simp
  · rw [hfailed]
    cases b.passed <;> simp
  · rw [← statusCount_eq_zero_iff, statusCount_append, statusCount_status, Nat.add_eq_zero_iff,
      hfailed]
    cases b.passed <;> simp

theorem exists_first_not_writable (h : ¬ ∀ r ∈ rs, Writable r) :
    ∃ before r after, rs = before ++ r :: after ∧ (∀ s ∈ before, Writable s) ∧ ¬ Writable r := by
  obtain ⟨r, hr⟩ : ∃ r, rs.find? (fun r => !decide (Writable r)) = some r := by
    rw [← Option.isSome_iff_exists, List.find?_isSome]
    simpa using h
  obtain ⟨hnot, before, after, hsplit, hbefore⟩ := List.find?_eq_some_iff_append.mp hr
  exact ⟨before, r, after, hsplit, by simpa using hbefore, by simpa using hnot⟩

/-- The first report that cannot be written stops the printing. -/
theorem stopsAtReport_of_not_writable (hverified : ∀ r ∈ b.results, r.Verified)
    (h : ¬ ∀ r ∈ b.results, Writable r) : StopsAtReport root b (print root b) := by
  obtain ⟨before, r, after, hsplit, hbefore, hr⟩ := exists_first_not_writable h
  rw [print_eq (by simp [hsplit]), hsplit, printResults_stops hbefore hr]
  refine .stop hsplit (forall₂_shows (fun s hs => hverified s ?_) hbefore)
    (write_of_not_writable hr)
  exact hsplit ▸ List.mem_append_left _ hs

/-- **What is printed about a batch agrees with its results**, all of which verifying comes to: the
status of each, the reasons after the statuses of those that do not pass, the counts and the status
of the summary, and the answer. If the report of a result shows a number that is too long to be
written, printing stops there. -/
theorem print_agrees (root : Option Path) (hverified : ∀ r ∈ b.results, r.Verified) :
    if ∀ r ∈ b.results, Writable r then Agrees root b (print root b)
    else StopsAtReport root b (print root b) := by
  split
  · rename_i hwritable
    exact agrees_of_writable hverified hwritable
  · rename_i hnot
    exact stopsAtReport_of_not_writable hverified hnot

end Batches

/-- A batch of a result that passes and one that does not. -/
theorem print_agrees_two :
    (∀ r ∈ [FixtureResult.unmarked [], .unmarked [⟨0, 4, some 2, "m", none⟩]], r.Verified) ∧
      Agrees none ⟨[.unmarked [], .unmarked [⟨0, 4, some 2, "m", none⟩]]⟩
        (print none ⟨[.unmarked [], .unmarked [⟨0, 4, some 2, "m", none⟩]]⟩) := by
  have hverified :
      ∀ r ∈ [FixtureResult.unmarked [], .unmarked [⟨0, 4, some 2, "m", none⟩]], r.Verified :=
    List.forall_mem_cons.mpr ⟨FixtureResult.verified_unmarked _,
      List.forall_mem_singleton.mpr (FixtureResult.verified_unmarked _)⟩
  have hpasses : Writable (.unmarked []) := by
    simp [Writable, numbers_unmarked, Diagnostic.sorted]
  have hfails : Writable (.unmarked [⟨0, 4, some 2, "m", none⟩]) := by
    have hnumbers : numbers (.unmarked [⟨0, 4, some 2, "m", none⟩]) = [1, 5, 2] := by
      simp [numbers_unmarked, Diagnostic.sorted, diagnosticNumbers, placeNumbers]
    rw [Writable, hnumbers]
    decide +kernel
  have hprint := print_agrees none (b := ⟨_⟩) hverified
  rw [if_pos (List.forall_mem_cons.mpr ⟨hpasses, List.forall_mem_singleton.mpr hfails⟩)] at hprint
  exact ⟨hverified, hprint⟩

/-- The number of a line from one has a digit too many for a numeral. -/
def farDiagnostic : Diagnostic := ⟨Nat.pow 10 longestNumeral - 1, 0, none, "m", none⟩

theorem not_writable_far : ¬ Writable (.unmarked [farDiagnostic]) := by
  intro h
  have hshown : farDiagnostic.line + 1 ∈ numbers (.unmarked [farDiagnostic]) := by
    simp [numbers_unmarked, Diagnostic.sorted, diagnosticNumbers, placeNumbers]
  have hline : farDiagnostic.line + 1 = Nat.pow 10 longestNumeral := Int.sub_add_cancel _ _
  rw [hline] at hshown
  exact Nat.lt_irrefl _ (hasNumeral_natCast_iff.mp (h _ hshown))

/-- The first line without a numeral is reported: nothing but the heading is printed. -/
theorem not_print_agrees_far : ¬ ∀ (root : Option Path) (b : Batch),
    (∀ r ∈ b.results, r.Verified) → Agrees root b (print root b) := by
  intro h
  have hverified : ∀ r ∈ [FixtureResult.unmarked [farDiagnostic]], r.Verified :=
    List.forall_mem_singleton.mpr (FixtureResult.verified_unmarked _)
  have hprint : print none ⟨[.unmarked [farDiagnostic]]⟩ =
      ⟨[.heading "Rule tests"], .error .unwritable⟩ := by
    rw [print_eq (List.cons_ne_nil _ _)]
    exact congrArg (Printout.after _) (@printResults_stops none _ [] [] _ nofun not_writable_far)
  obtain ⟨passed, hanswer⟩ := (h none ⟨[.unmarked [farDiagnostic]]⟩ hverified).exists_answer
  rw [hprint] at hanswer
  cases hanswer

end Report

end LintFixture
