import LintFixture.Proofs.Outcome
import LintFixture.Proofs.PathText
import LintFixture.Proofs.Quoting
import LintFixture.Result.Report

/-!
# What a report tells

A report is read back piece by piece from the left. The first line is the path. Every other line
is about a failure or about a `Discrepancy`, and its third character says which: a place begins
with a number. Behind a place stands the word for what is wrong there, behind the word one
diagnostic or two. Each piece ends where it says itself: a number at the first character that is
no digit, a word at its colon, a message at its closing quote. The numbers may be negative, since a
linter can hand back diagnostics that nobody has checked.

A mismatch is shown at the place of its expected half, and that half without a rule, so that its
end can be told from what follows. Both are as they are in every comparison that `verify` makes
(`regular_of_verify`). A rule without a name is not shown at all.

Headline: `lines_eq_iff`, results of verifying that have one report are the same result, as far as
a report shows it.
-/

namespace LintFixture

/-! ## Pieces of a line -/

/-- A whole number is written as its digits behind a sign. -/
theorem toList_toString (n : Int) : (toString n).toList =
    (if n < 0 then ['-'] else []) ++ Nat.toDigits 10 n.natAbs := by
  cases n with
  | ofNat k => exact Nat.toList_repr
  | negSucc k =>
    rw [if_pos (Int.negSucc_lt_zero k)]
    exact String.toList_append.trans (congrArg ('-' :: ·) Nat.toList_repr)

/-- What a number is written with. -/
def isNumeric (c : Char) : Bool := c.isDigit || c == '-'

theorem isNumeric_of_mem_toDigits {c : Char} {n : Nat} (h : c ∈ Nat.toDigits 10 n) :
    isNumeric c = true := by
  rw [isNumeric, Nat.isDigit_of_mem_toDigits (by decide) (by decide) h, Bool.true_or]

theorem isNumeric_of_mem {n : Int} {c : Char} (h : c ∈ (toString n).toList) :
    isNumeric c = true := by
  rw [toList_toString, List.mem_append] at h
  obtain h | h := h
  · split at h
    · rw [List.mem_singleton.mp h]
      decide
    · cases h
  · exact isNumeric_of_mem_toDigits h

/-- A number is read back from what it is written as: the sign is no digit. -/
theorem toString_inj {m n : Int} (h : (toString m).toList = (toString n).toList) : m = n := by
  have hdigit : ∀ k l : Nat, '-' :: Nat.toDigits 10 k ≠ Nat.toDigits 10 l := fun k l heq =>
    absurd (@Nat.isDigit_of_mem_toDigits 10 l _ (by decide) (by decide)
      (heq ▸ List.mem_cons_self)) (by decide)
  have hdigits : ∀ {k l : Nat}, Nat.toDigits 10 k = Nat.toDigits 10 l → k = l := fun {k l} heq => by
    rw [← @Nat.ofDigitChars_ten_toDigits k, heq, Nat.ofDigitChars_ten_toDigits]
  rw [toList_toString, toList_toString] at h
  split at h <;> split at h
  · have habs := hdigits (List.cons.inj h).2
    omega
  · exact absurd h (hdigit _ _)
  · exact absurd h.symm (hdigit _ _)
  · have habs := hdigits h
    omega

/-- A number ends before what is not written in numbers. -/
theorem toString_append_inj {m n : Int} {c d : Char} {r s : List Char}
    (hc : isNumeric c = false) (hd : isNumeric d = false)
    (h : (toString m).toList ++ c :: r = (toString n).toList ++ d :: s) :
    m = n ∧ c :: r = d :: s := by
  have hcut : ∀ (k : Int) {e : Char} (t : List Char), isNumeric e = false →
      ((toString k).toList ++ e :: t).takeWhile isNumeric = (toString k).toList ∧
        ((toString k).toList ++ e :: t).dropWhile isNumeric = e :: t := fun k e t he =>
    span_run (fun _ hx => isNumeric_of_mem hx) (by simpa using he)
  have hnumber := congrArg (List.takeWhile isNumeric) h
  have hrest := congrArg (List.dropWhile isNumeric) h
  rw [(hcut m r hc).1, (hcut n s hd).1] at hnumber
  rw [(hcut m r hc).2, (hcut n s hd).2] at hrest
  exact ⟨toString_inj hnumber, hrest⟩

/-- A word ends at the first `c`. -/
theorem word_append_inj {c : Char} {v w r s : List Char} (hv : c ∉ v) (hw : c ∉ w)
    (h : v ++ c :: r = w ++ c :: s) : v = w ∧ r = s := by
  have hcut : ∀ {u : List Char} (t : List Char), c ∉ u →
      (u ++ c :: t).takeWhile (· != c) = u ∧ (u ++ c :: t).dropWhile (· != c) = c :: t :=
    fun {u} t hu => span_run (fun x hx => bne_iff_ne.mpr fun e => hu (e ▸ hx)) (by simp)
  have hword := congrArg (List.takeWhile (· != c)) h
  have hrest := congrArg (List.dropWhile (· != c)) h
  rw [(hcut r hv).1, (hcut s hw).1] at hword
  rw [(hcut r hv).2, (hcut s hw).2] at hrest
  exact ⟨hword, (List.cons.inj hrest).2⟩

namespace Report

theorem pointer_append_inj {d e : Diagnostic} {r s : List Char}
    (h : d.pointer.toList ++ ' ' :: r = e.pointer.toList ++ ' ' :: s) :
    d.position = e.position ∧ r = s := by
  simp only [Diagnostic.pointer, String.toList_append, List.append_assoc] at h
  obtain ⟨hline, hcolumn⟩ := toString_append_inj (c := ':') (d := ':') rfl rfl h
  obtain ⟨hcolumn, hrest⟩ :=
    toString_append_inj (c := ' ') (d := ' ') rfl rfl (List.cons.inj hcolumn).2
  exact ⟨Prod.ext (add_right_cancel hline) (add_right_cancel hcolumn),
    (List.cons.inj hrest).2⟩

/-! ## Diagnostics in a line -/

/-- The width of a diagnostic as it is shown. -/
def widthText : Option Int → String
  | none => ""
  | some w => " (width " ++ toString w ++ ")"

/-- The rule of a diagnostic as it is shown. -/
def ruleText : Option String → String
  | none => ""
  | some rule => " [" ++ rule ++ "]"

end Report

namespace Diagnostic

/-- What is shown of a diagnostic: a rule without a name is none. -/
def shown (d : Diagnostic) : Diagnostic :=
  { d with rule := d.rule.filter (· ≠ "") }

section

variable (d : Diagnostic)

@[simp] theorem shown_pointer : d.shown.pointer = d.pointer := rfl

@[simp] theorem shown_width : d.shown.width = d.width := rfl

@[simp] theorem shown_message : d.shown.message = d.message := rfl

@[simp] theorem shown_shown : d.shown.shown = d.shown := by
  simp only [shown, Option.filter_filter, Bool.and_self]

end

/-- A diagnostic as a fixture expects it: with a width and of no rule. -/
def IsExpectation (d : Diagnostic) : Prop := (∃ w, d.width = some w) ∧ d.rule = none

end Diagnostic

/-- What is shown of a mismatch. -/
def Mismatch.shown (m : Mismatch) : Mismatch := ⟨m.expected.shown, m.actual.shown⟩

namespace Report

theorem describe_eq (d : Diagnostic) :
    describe d = Text.quoted d.message ++ widthText d.width ++ ruleText d.shown.rule := by
  obtain ⟨line, column, width, message, rule⟩ := d
  unfold describe Diagnostic.shown
  dsimp only
  refine congrArg₂ (· ++ ·) (congrArg (Text.quoted message ++ ·) ?_) ?_
  · cases width <;> rfl
  · cases rule with
    | none => rfl
    | some rule => by_cases h : rule = "" <;> simp [h, ruleText, Option.filter]

theorem ruleText_inj {r s : Option String} (h : ruleText r = ruleText s) : r = s := by
  cases r <;> cases s <;> simp_all [ruleText]

/-- A width ends at its bracket. -/
theorem widthText_append_inj {v w : Int} {r s : List Char}
    (h : (widthText (some v)).toList ++ r = (widthText (some w)).toList ++ s) : v = w ∧ r = s := by
  simp only [widthText, String.toList_append, List.append_assoc] at h
  obtain ⟨rfl, hrest⟩ := toString_append_inj (c := ')') (d := ')') rfl rfl
    (List.append_cancel_left h)
  exact ⟨rfl, (List.cons.inj hrest).2⟩

/-- Behind a message the width and the rule are told apart by their brackets. -/
theorem suffix_inj {v w : Option Int} {r s : Option String}
    (h : (widthText v).toList ++ (ruleText r).toList =
      (widthText w).toList ++ (ruleText s).toList) : v = w ∧ r = s := by
  have hround : ∀ w t, ((widthText (some w)).toList ++ t)[1]? = some '(' := fun _ _ => by
    simp [widthText]
  have hsquare : ∀ r, ((widthText none).toList ++ (ruleText r).toList)[1]? ≠ some '(' := by
    rintro (_ | r) <;> simp [widthText, ruleText]
  rcases v with _ | v <;> rcases w with _ | w
  · exact ⟨rfl, ruleText_inj (String.toList_injective h)⟩
  · exact absurd (h ▸ hround w _) (hsquare r)
  · exact absurd (h ▸ hround v _) (hsquare s)
  · obtain ⟨rfl, hrest⟩ := widthText_append_inj h
    exact ⟨rfl, ruleText_inj (String.toList_injective hrest)⟩

theorem describe_toList (d : Diagnostic) :
    (describe d).toList = (Text.quoted d.message).toList ++
      ((widthText d.width).toList ++ (ruleText d.shown.rule).toList) := by
  rw [describe_eq, String.toList_append, String.toList_append, List.append_assoc]

theorem describe_inj {d e : Diagnostic} (h : describe d = describe e)
    (hposition : d.position = e.position) : d.shown = e.shown := by
  have hchars := congrArg String.toList h
  rw [describe_toList, describe_toList] at hchars
  obtain ⟨hmessage, hrest⟩ := Text.quoted_append_inj hchars
  obtain ⟨hwidth, hrule⟩ := suffix_inj hrest
  obtain ⟨hline, hcolumn⟩ := Prod.mk.inj hposition
  obtain ⟨line, column, width, message, rule⟩ := d
  obtain ⟨line', column', width', message', rule'⟩ := e
  simp only [Diagnostic.shown, Diagnostic.mk.injEq] at *
  exact ⟨hline, hcolumn, hwidth, hmessage, hrule⟩

/-- Where a diagnostic has a width and no rule, it ends with its width, whatever follows. -/
theorem describe_append_inj {d e : Diagnostic} (hd : d.IsExpectation) (he : e.IsExpectation)
    {r s : List Char} (h : (describe d).toList ++ r = (describe e).toList ++ s) :
    describe d = describe e ∧ r = s := by
  obtain ⟨⟨v, hv⟩, hdrule⟩ := hd
  obtain ⟨⟨w, hw⟩, herule⟩ := he
  have hnorule : ∀ {d : Diagnostic}, d.rule = none → (ruleText d.shown.rule).toList = [] :=
    fun h => by simp [Diagnostic.shown, h, ruleText]
  have hchars := h
  rw [describe_toList, describe_toList, hnorule hdrule, hnorule herule, List.append_nil,
    List.append_nil, List.append_assoc, List.append_assoc, hv, hw] at hchars
  obtain ⟨hmessage, hwidth⟩ := Text.quoted_append_inj hchars
  obtain ⟨-, rfl⟩ := widthText_append_inj hwidth
  exact ⟨String.toList_injective (List.append_cancel_right h), rfl⟩

end Report

/-! ## Lines about discrepancies -/

/-- What is wrong at a position: the three ways in which the two sides of a comparison differ. -/
inductive Discrepancy
  | missing (d : Diagnostic)
  | unexpected (d : Diagnostic)
  | mismatched (m : Mismatch)

namespace Discrepancy

/-- The line of a report about a discrepancy. -/
def line : Discrepancy → String
  | missing d => Report.missingLine d
  | unexpected d => Report.unexpectedLine d
  | mismatched m => Report.mismatchedLine m

/-- What is shown of a discrepancy. -/
def shown : Discrepancy → Discrepancy
  | missing d => missing d.shown
  | unexpected d => unexpected d.shown
  | mismatched m => mismatched m.shown

/-- The expected half of a mismatch is one of a fixture, and the other half stands where it
stands. -/
def Shaped : Discrepancy → Prop
  | mismatched m => m.expected.IsExpectation ∧ m.actual.position = m.expected.position
  | _ => True

/-- The diagnostic at whose place a discrepancy is shown. -/
def place : Discrepancy → Diagnostic
  | missing d => d
  | unexpected d => d
  | mismatched m => m.expected

/-- The word for a discrepancy. -/
def word : Discrepancy → String
  | missing _ => "missing"
  | unexpected _ => "unexpected"
  | mismatched _ => "mismatched"

/-- What is said of a discrepancy behind its word. -/
def text : Discrepancy → String
  | missing d => " expected " ++ Report.describe d
  | unexpected d => " got " ++ Report.describe d
  | mismatched m => " expected " ++ Report.describe m.expected ++ ", got "
      ++ Report.describe m.actual

/-- A line is its place, its word and its text. -/
theorem line_eq (x : Discrepancy) :
    x.line = "  " ++ (x.place.pointer ++ (" " ++ (x.word ++ (":" ++ x.text)))) := by
  have hmissing : " missing: expected " = " " ++ ("missing" ++ (":" ++ " expected ")) := by decide
  have hunexpected : " unexpected: got " = " " ++ ("unexpected" ++ (":" ++ " got ")) := by decide
  have hmismatched : " mismatched: expected " =
    " " ++ ("mismatched" ++ (":" ++ " expected ")) := by decide
  cases x <;>
    simp only [line, place, word, text, Report.missingLine, Report.unexpectedLine,
      Report.mismatchedLine, hmissing, hunexpected, hmismatched, String.append_assoc]

theorem colon_not_mem_word (x : Discrepancy) : ':' ∉ x.word.toList := by
  cases x <;> simp [word]

/-- **A line tells its discrepancy.** -/
theorem line_inj {x y : Discrepancy} (hx : x.Shaped) (hy : y.Shaped) (h : x.line = y.line) :
    x.shown = y.shown := by
  have hspace : " ".toList = [' '] := by decide
  have hcolon : ":".toList = [':'] := by decide
  rw [line_eq, line_eq] at h
  have hchars := congrArg String.toList ((String.append_right_inj _).mp h)
  simp only [String.toList_append, hspace, hcolon, List.singleton_append] at hchars
  obtain ⟨hposition, hrest⟩ := Report.pointer_append_inj hchars
  obtain ⟨hword, htext⟩ :=
    word_append_inj (colon_not_mem_word x) (colon_not_mem_word y) hrest
  -- The words of two kinds differ, so only lines of one kind are left.
  cases x <;> cases y <;> first | (simp [word] at hword; done) | skip
  all_goals simp only [text, String.toList_append, List.append_assoc] at htext
  all_goals replace htext := List.append_cancel_left htext
  case missing.missing d e =>
    rw [shown, shown, Report.describe_inj (String.toList_injective htext) hposition]
  case unexpected.unexpected d e =>
    rw [shown, shown, Report.describe_inj (String.toList_injective htext) hposition]
  case mismatched.mismatched m n =>
    obtain ⟨hm, hmplace⟩ := hx
    obtain ⟨hn, hnplace⟩ := hy
    obtain ⟨hexpected, hrest⟩ := Report.describe_append_inj hm hn htext
    have hactual := String.toList_injective (List.append_cancel_left hrest)
    have hplaces : m.actual.position = n.actual.position :=
      hmplace.trans (Eq.trans hposition hnplace.symm)
    rw [shown, shown, Mismatch.shown, Mismatch.shown, Report.describe_inj hexpected hposition,
      Report.describe_inj hactual hplaces]

/-- What is not shown makes no difference to a line. -/
theorem line_shown (x : Discrepancy) : x.shown.line = x.line := by
  have hdescribe : ∀ d : Diagnostic, Report.describe d.shown = Report.describe d := fun d => by
    simp only [Report.describe_eq, Diagnostic.shown_message, Diagnostic.shown_width,
      Diagnostic.shown_shown]
  cases x <;>
    simp only [shown, Mismatch.shown, line, Report.missingLine, Report.unexpectedLine,
      Report.mismatchedLine, Diagnostic.shown_pointer, hdescribe]

theorem map_line_inj : ∀ {xs ys : List Discrepancy}, (∀ x ∈ xs, x.Shaped) → (∀ y ∈ ys, y.Shaped) →
    xs.map line = ys.map line → xs.map shown = ys.map shown
  | [], [], _, _, _ => rfl
  | [], _ :: _, _, _, h => nomatch h
  | _ :: _, [], _, _, h => nomatch h
  | x :: xs, y :: ys, hx, hy, h => by
    rw [List.forall_mem_cons] at hx hy
    obtain ⟨hline, hlines⟩ := List.cons.inj h
    rw [List.map_cons, List.map_cons, line_inj hx.1 hy.1 hline, map_line_inj hx.2 hy.2 hlines]

/-- The diagnostic that is missing. -/
def missing? : Discrepancy → Option Diagnostic
  | missing d => some d
  | _ => none

/-- The diagnostic that is not expected. -/
def unexpected? : Discrepancy → Option Diagnostic
  | unexpected d => some d
  | _ => none

/-- The two diagnostics that differ. -/
def mismatched? : Discrepancy → Option Mismatch
  | mismatched m => some m
  | _ => none

end Discrepancy

/-! ## Comparisons in a report -/

namespace Comparison

/-- The discrepancies in the order of a report. -/
def discrepancies (c : Comparison) : List Discrepancy :=
  c.missing.map .missing ++ c.unexpected.map .unexpected ++ c.mismatched.map .mismatched

/-- What is shown of a comparison. -/
def shown (c : Comparison) : Comparison where
  missing := c.missing.map .shown
  unexpected := c.unexpected.map .shown
  mismatched := c.mismatched.map .shown

/-- The discrepancies of a comparison are shaped as lines need them. -/
def Shaped (c : Comparison) : Prop := ∀ x ∈ c.discrepancies, x.Shaped

theorem discrepancyLines_eq (c : Comparison) :
    Report.discrepancyLines c = c.discrepancies.map Discrepancy.line := by
  simp only [Report.discrepancyLines, discrepancies, List.map_append, List.map_map]
  rfl

theorem discrepancies_shown (c : Comparison) :
    c.shown.discrepancies = c.discrepancies.map Discrepancy.shown := by
  simp only [discrepancies, shown, List.map_append, List.map_map]
  rfl

/-- The order of a report keeps the three kinds of discrepancies apart. -/
theorem discrepancies_inj {c d : Comparison} (h : c.discrepancies = d.discrepancies) : c = d := by
  have hparts : ∀ c : Comparison, c = ⟨c.discrepancies.filterMap Discrepancy.missing?,
      c.discrepancies.filterMap Discrepancy.unexpected?,
      c.discrepancies.filterMap Discrepancy.mismatched?⟩ := fun c => by
    simp [discrepancies, List.filterMap_append, List.filterMap_map, Function.comp_def,
      Discrepancy.missing?, Discrepancy.unexpected?, Discrepancy.mismatched?]
  rw [hparts c, hparts d, h]

theorem discrepancyLines_inj {c d : Comparison} (hc : c.Shaped) (hd : d.Shaped)
    (h : Report.discrepancyLines c = Report.discrepancyLines d) : c.shown = d.shown := by
  rw [discrepancyLines_eq, discrepancyLines_eq] at h
  apply discrepancies_inj
  rw [discrepancies_shown, discrepancies_shown, Discrepancy.map_line_inj hc hd h]

theorem discrepancyLines_shown (c : Comparison) :
    Report.discrepancyLines c.shown = Report.discrepancyLines c := by
  rw [discrepancyLines_eq, discrepancyLines_eq, discrepancies_shown, List.map_map]
  exact List.map_congr_left fun x _ => x.line_shown

end Comparison

/-! ## Results in a report -/

/-- A result as `verify` makes it: a comparison whose discrepancies are shaped as lines need them,
or a failure under one of the known words. -/
inductive FixtureResult.Regular : FixtureResult → Prop
  | compared (path : Path) {c : Comparison} (h : c.Shaped) : (compared path c).Regular
  | failed (path : Path) (kind : FailureKind) (message : String) :
    (failed path kind.word message).Regular

/-- What a fixture expects has a width and no rule. -/
theorem isExpectation_of_mem_expected {text : String} {f : Fixture}
    (hparse : Fixture.parse text = .ok f) {e : Diagnostic} (he : e ∈ f.expected) :
    e.IsExpectation := by
  obtain ⟨-, -, -, hexpected⟩ := parse_eq_ok_iff.mp hparse
  obtain ⟨i, hi, rfl⟩ := List.mem_iff_getElem.mp he
  have hexpects := hexpected.get (hexpected.length_eq ▸ hi) hi
  exact ⟨⟨_, hexpects.width⟩, hexpects.rule⟩

theorem Comparison.shaped_of_compare {expected reported : List Diagnostic} {c : Comparison}
    (hexpected : ∀ e ∈ expected, e.IsExpectation) (h : compare expected reported = .ok c) :
    c.Shaped := by
  obtain ⟨hnodup, rfl⟩ := compare_eq_ok_iff.mp h
  have haccounts := accounts_ofMatching hnodup reported
  generalize ofMatching (pair expected reported) = c at haccounts
  intro x hx
  cases x with
  | missing d => trivial
  | unexpected d => trivial
  | mismatched m =>
    have hm : m ∈ c.mismatched := by simpa [discrepancies] using hx
    refine ⟨hexpected _ ?_, (haccounts.mismatched_differ m hm).1⟩
    refine haccounts.expected_perm.mem_iff.mpr (List.mem_append_right _ ?_)
    exact List.mem_append_right _ (List.mem_map_of_mem hm)

/-- A failure of a linter is recorded under one of the known words. -/
theorem exists_word_of_linterFailure {w : Wording} {fault : Fault} {e : FixtureFailure}
    (h : fault.linterFailure w = .ok e) : ∃ kind : FailureKind, e.kind = kind.word := by
  obtain ⟨-, hcase⟩ | ⟨-, text, -, hcase⟩ | ⟨-, cause, -, hcase⟩ :=
    Fault.linterFailure_cases w fault
  · rw [hcase] at h
    cases h
  · rw [hcase] at h
    cases h
    exact ⟨.linter, rfl⟩
  · rw [hcase, Fault.recorded] at h
    split at h
    · next kind _ =>
      obtain ⟨text, -, rfl⟩ := map_eq_ok_iff.mp h
      exact ⟨kind, rfl⟩
    · cases h

/-- Every result of verifying is regular. -/
theorem regular_of_verify {fs : FileSystem} {linter : Linter} {config : Config} {path : Path}
    {r : FixtureResult} (h : verify fs linter config path = .ok r) : r.Regular := by
  obtain ⟨cause, hread⟩ | ⟨e, hread⟩ | ⟨text, e, hread, hparse⟩ | ⟨text, f, hread, hparse⟩ :=
    reading_cases fs path
  · rw [verify, hread] at h
    cases h
  · rw [verify_unreadable hread] at h
    cases h
    rw [kind_of_readFixture hread]
    exact .failed path .io _
  · rw [verify_unparsed hread hparse] at h
    cases h
    exact .failed path e.failureKind _
  · obtain ⟨fault, e, -, hfailure, rfl⟩ | ⟨reported, -, rfl⟩ :=
      (verify_parsed_eq_ok_iff hread hparse).mp h
    · obtain ⟨kind, hkind⟩ := exists_word_of_linterFailure hfailure
      rw [hkind]
      exact .failed path kind _
    unfold Fixture.compare
    cases hcompare : Comparison.compare f.expected reported with
    | error e => exact .failed path e.failureKind _
    | ok c =>
      exact .compared path (Comparison.shaped_of_compare
        (fun _ he => isExpectation_of_mem_expected hparse he) hcompare)

namespace Report

/-! ## Lines about failures -/

/-- A place begins with a number. -/
theorem exists_numeric_of_pointer (d : Diagnostic) :
    ∃ c rest, d.pointer.toList = c :: rest ∧ isNumeric c = true := by
  have hne : (toString (d.line + 1)).toList ≠ [] := by
    rw [toList_toString]
    exact List.append_ne_nil_of_right_ne_nil _ Nat.toDigits_ne_nil
  obtain ⟨c, cs, hnumber⟩ := List.exists_cons_of_ne_nil hne
  have hpointer : d.pointer.toList = c :: (cs ++ (":" ++ toString (d.column + 1)).toList) := by
    simp only [Diagnostic.pointer, String.toList_append, hnumber, List.cons_append,
      List.append_assoc]
  exact ⟨c, _, hpointer, isNumeric_of_mem (hnumber ▸ List.mem_cons_self)⟩

/-- The third character of a line says whether it is about a failure. -/
theorem failureLine_ne_line (e : FixtureFailure) (x : Discrepancy) : failureLine e ≠ x.line := by
  intro h
  obtain ⟨c, rest, hpointer, hnumeric⟩ := exists_numeric_of_pointer x.place
  have hindent : "  ".toList = [' ', ' '] := by decide
  have herror : "  error [".toList = ' ' :: ' ' :: 'e' :: "rror [".toList := by decide
  have hchars := congrArg String.toList h
  simp only [Discrepancy.line_eq, failureLine, String.toList_append, hindent, herror, hpointer,
    List.append_assoc, List.cons_append, List.nil_append, List.cons.injEq, true_and] at hchars
  rw [← hchars.1] at hnumeric
  exact absurd hnumeric (by decide)

/-- The kind of a failure ends at its bracket. -/
theorem failureLine_inj {kind kind' : FailureKind} {message message' : String}
    (h : failureLine ⟨kind.word, message⟩ = failureLine ⟨kind'.word, message'⟩) :
    (⟨kind.word, message⟩ : FixtureFailure) = ⟨kind'.word, message'⟩ := by
  have hbracket : ∀ kind : FailureKind, ']' ∉ kind.word.toList := fun kind => by
    cases kind <;> decide
  have hend : "]: ".toList = ']' :: ": ".toList := by decide
  have hchars := congrArg String.toList h
  simp only [failureLine, String.toList_append, hend, List.append_assoc, List.cons_append] at hchars
  obtain ⟨hkind, hmessage⟩ :=
    word_append_inj (hbracket kind) (hbracket kind') (List.append_cancel_left hchars)
  rw [FixtureFailure.mk.injEq]
  exact ⟨String.toList_injective hkind,
    String.toList_injective (List.append_cancel_left hmessage)⟩

/-! ## Paths and details -/

/-- Paths below one root are told apart by what is left of them. -/
theorem displayPath_inj {root : Option Path} {p q : Path}
    (hroot : ∀ top ∈ root, (top.relativeTo? p).isSome ∧ (top.relativeTo? q).isSome)
    (h : displayPath root p = displayPath root q) : p = q := by
  cases root with
  | none => exact Path.text_inj h
  | some top =>
    obtain ⟨hbelow, hbelow'⟩ := hroot top rfl
    obtain ⟨short, hshort⟩ := Option.isSome_iff_exists.mp hbelow
    obtain ⟨short', hshort'⟩ := Option.isSome_iff_exists.mp hbelow'
    simp only [displayPath, hshort, hshort'] at h
    obtain rfl := Path.text_inj h
    obtain ⟨-, rfl⟩ := Path.relativeTo?_eq_some_iff.mp hshort
    exact (Path.relativeTo?_eq_some_iff.mp hshort').2

theorem failureLine_ne_discrepancyLines (e : FixtureFailure) (c : Comparison) :
    [failureLine e] ≠ discrepancyLines c := by
  intro h
  have hmem : failureLine e ∈ discrepancyLines c := h ▸ List.mem_singleton_self _
  rw [Comparison.discrepancyLines_eq] at hmem
  obtain ⟨x, -, hx⟩ := List.mem_map.mp hmem
  exact failureLine_ne_line e x hx.symm

theorem details_inj {r s : FixtureResult} (hr : r.Regular) (hs : s.Regular)
    (h : details r = details s) :
    r.error = s.error ∧ r.comparison.map Comparison.shown = s.comparison.map Comparison.shown := by
  cases hr with
  | compared path hc =>
    cases hs with
    | compared path' hd => exact ⟨rfl, congrArg some (Comparison.discrepancyLines_inj hc hd h)⟩
    | failed path' kind message =>
      exact absurd h.symm (failureLine_ne_discrepancyLines ⟨_, message⟩ _)
  | failed path kind message =>
    cases hs with
    | compared path' hd =>
      exact absurd h (failureLine_ne_discrepancyLines ⟨_, message⟩ _)
    | failed path' kind' message' =>
      obtain ⟨hline, -⟩ := List.cons.inj h
      exact ⟨congrArg some (failureLine_inj hline), rfl⟩

/-- What is not shown of a result makes no difference to its details. -/
theorem details_eq {r s : FixtureResult} (herror : r.error = s.error)
    (hcomparison : r.comparison.map Comparison.shown = s.comparison.map Comparison.shown) :
    details r = details s := by
  unfold details
  rw [← herror]
  cases r.error with
  | some e => rfl
  | none =>
    cases hr : r.comparison <;> cases hs : s.comparison <;> simp only [hr, hs] at hcomparison
    case none.none => rfl
    case none.some => exact nomatch hcomparison
    case some.none => exact nomatch hcomparison
    case some.some c d =>
      exact (Comparison.discrepancyLines_shown c).symm.trans
        (Option.some.inj hcomparison ▸ Comparison.discrepancyLines_shown d)

end Report

section Verifying

variable {fs fs' : FileSystem} {linter linter' : Linter} {config config' : Config}
  {path path' : Path} {r s : FixtureResult}

/-- **A report tells its result.** Results of verifying that have one report have one path, one
failure and one list of discrepancies of each kind, up to rules without a name. -/
theorem lines_eq_iff (hr : verify fs linter config path = .ok r)
    (hs : verify fs' linter' config' path' = .ok s) {root : Option Path}
    (hroot : ∀ top ∈ root, (top.relativeTo? path).isSome ∧ (top.relativeTo? path').isSome) :
    Report.lines root r = Report.lines root s ↔
      r.path = s.path ∧ r.error = s.error ∧
        r.comparison.map Comparison.shown = s.comparison.map Comparison.shown := by
  rw [Report.lines, Report.lines, List.cons.injEq, place_of_verify hr, place_of_verify hs]
  constructor
  · rintro ⟨hdisplay, hdetails⟩
    exact ⟨Report.displayPath_inj hroot hdisplay,
      Report.details_inj (regular_of_verify hr) (regular_of_verify hs) hdetails⟩
  · rintro ⟨rfl, herror, hcomparison⟩
    exact ⟨rfl, Report.details_eq herror hcomparison⟩

end Verifying

/-- A tree with one file. -/
def FileSystem.single (name : Name) (cs : List Char) : FileSystem :=
  .ofTree (.directory [(name, .file (Text.encodeUtf8 cs))]) rfl

/-- A message that reads like the rest of a line. -/
def Linter.misleading (rule : Option String) : Linter := fun _ _ =>
  .ok [.diagnostic ⟨0, 0, none, "m', got 'm", rule⟩]

theorem verify_misleading (rule : Option String) :
    verify (.single (.of "a.lint") "x\n~ [a]\n[a]: m".toList) (.misleading rule) .default
        ⟨.root, [.of "a.lint"]⟩ =
      .ok (.compared ⟨.root, [.of "a.lint"]⟩ ⟨[], [],
        [⟨⟨0, 0, some 1, "m", none⟩, ⟨0, 0, none, "m', got 'm", rule⟩⟩]⟩) := by
  have hread : (FileSystem.single (.of "a.lint") "x\n~ [a]\n[a]: m".toList).readFixture
      ⟨.root, [.of "a.lint"]⟩ = .ok (.ok "x\n~ [a]\n[a]: m") :=
    FileSystem.holdsText_iff.mp ⟨_, rfl, by decide⟩
  have htext : verifyText .plain (.misleading rule) .default "x\n~ [a]\n[a]: m" =
      .ok (.ok ⟨[], [],
        [⟨⟨0, 0, some 1, "m", none⟩, ⟨0, 0, none, "m', got 'm", rule⟩⟩]⟩) := by
    cbv
  have hwording :
      (FileSystem.single (.of "a.lint") "x\n~ [a]\n[a]: m".toList).wording = .plain := rfl
  simp only [verify, hread, hwording, htext]
  rfl

/-- A rule without a name is not told from no rule, below a root. -/
theorem lines_eq_iff_unnamed :
    (∀ top ∈ some (Path.mk .root []), (top.relativeTo? ⟨.root, [.of "a.lint"]⟩).isSome) ∧
    ∃ r s,
      verify (.single (.of "a.lint") "x\n~ [a]\n[a]: m".toList) (.misleading none) .default
        ⟨.root, [.of "a.lint"]⟩ = .ok r ∧
      verify (.single (.of "a.lint") "x\n~ [a]\n[a]: m".toList) (.misleading (some "")) .default
        ⟨.root, [.of "a.lint"]⟩ = .ok s ∧
      (Report.lines (some (Path.mk .root [])) r = Report.lines (some (Path.mk .root [])) s ↔
        r.path = s.path ∧ r.error = s.error ∧
          r.comparison.map Comparison.shown = s.comparison.map Comparison.shown) := by
  have hroot : ∀ top ∈ some (Path.mk .root []),
      (top.relativeTo? ⟨.root, [.of "a.lint"]⟩).isSome := by
    rintro top ⟨⟩
    decide
  have hr := verify_misleading none
  have hs := verify_misleading (some "")
  exact ⟨hroot, _, _, hr, hs, lines_eq_iff hr hs fun top htop =>
    ⟨hroot top htop, hroot top htop⟩⟩

end LintFixture
