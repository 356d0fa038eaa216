import LintFixture.Proofs.Renumbering
import LintFixture.Proofs.Sessions

/-!
# Lines that are refused

A parser that refuses a line counts it and is otherwise as before, so a line that is refused takes
part in nothing but the numbers of the lines behind it. A run in which lines were refused and a
shorter run of the accepted lines alone know the same texts under different numbers, and end alike
(`run_accepted`).

Lines that are given together are read up to the first one that is refused (`feedAll_fails_iff`).

Headline: `refusal_leaves_no_trace`.
-/

namespace LintFixture

/-! ## One line -/

namespace Parser

variable {p : Parser} {text : String} {e : FixtureError}

theorem consume_refused {line : Line} (h : (p.consume line).1 = .error e) :
    (p.consume line).2 = p := by
  cases line with
  | source t => cases h
  | legend t entry =>
    unfold consume at h ⊢
    cases hinsert : p.legend.insert entry with
    | ok legend => simp [hinsert] at h
    | error e' => simp [hinsert]
  | marked t marks =>
    unfold consume at h ⊢
    by_cases hempty : p.sourceLines.isEmpty = true
    · simp [hempty]
    · simp [hempty] at h

/-- **A line that is refused** is counted, and nothing else changes. -/
theorem feed_refused (h : (p.feed text).1 = .error e) : (p.feed text).2 = p.advance := by
  unfold feed at h ⊢
  cases hclassify : Line.classify text p.advance.lineNumber with
  | error e' => simp [hclassify]
  | ok line =>
    simp only [hclassify] at h ⊢
    exact consume_refused h

/-! ## Accepted lines alone -/

/-- The lines that are accepted in calls. -/
def acceptedIn (p : Parser) (calls : List ParserCall) : List String :=
  ((p.history calls).filter (·.error.isNone)).map (·.text)

end Parser

theorem map_text_accepted : ∀ (n : Nat) (as : List Attempt),
    (accepted n as).map (·.text) = (as.filter (·.error.isNone)).map (·.text)
  | _, [] => rfl
  | n, ⟨text, none⟩ :: rest => by simp [accepted, map_text_accepted (n + 1) rest]
  | n, ⟨text, some e⟩ :: rest => by simp [accepted, map_text_accepted (n + 1) rest]

/-- **A run ends like one of its accepted lines alone**, and that one refuses none of them. -/
theorem run_accepted (calls : List ParserCall) :
    ∃ q, Parser.start.feedAll (Parser.start.acceptedIn calls) = (.ok (), q) ∧
      SameEnd (Parser.start.run calls).finish q.finish := by
  obtain ⟨hstate, hreadable⟩ := Parser.run_after calls (n := 0) readable_nil
  have htexts := map_text_accepted 0 (Parser.start.history calls)
  rw [Parser.after_nil, List.nil_append] at hstate hreadable
  -- Under numbers of their own the accepted lines are readable just as well.
  have hnumbered : (numbered (Parser.start.acceptedIn calls)).map (·.text) =
      (accepted 0 (Parser.start.history calls)).map (·.text) := by
    rw [htexts, numbered, map_text_numberedFrom, Parser.acceptedIn]
  have halone : Readable ([] ++ numbered (Parser.start.acceptedIn calls)) := by
    rw [List.nil_append, ← readable_unnumbered_iff, hnumbered, readable_unnumbered_iff]
    exact hreadable
  refine ⟨_, Parser.feedAll_of_readable _ halone, ?_⟩
  rw [hstate]
  exact sameEnd_finish hreadable hnumbered.symm _ _

/-! ## Lines that are given together -/

namespace Parser

/-- The state after lines that are fed one by one, whatever becomes of each. -/
def feedEach (p : Parser) (lines : List String) : Parser :=
  p.run (lines.map .feed)

theorem feedEach_take_succ (p : Parser) (text : String) (rest : List String) (k : Nat) :
    p.feedEach ((text :: rest).take (k + 1)) = (p.feed text).2.feedEach (rest.take k) := rfl

/-- Of lines that are fed one by one, line `k`, counted from zero, is the first that is refused. -/
structure FailsAt (p : Parser) (lines : List String) (k : Nat) (e : FixtureError) : Prop where
  accepted : ∀ (j : Nat) (text : String), j < k → lines[j]? = some text →
    ((p.feedEach (lines.take j)).feed text).1 = .ok ()
  refused : ∃ text, lines[k]? = some text ∧
    ((p.feedEach (lines.take k)).feed text).1 = .error e

section FailsAt

variable {p : Parser} {text : String} {rest : List String} {k : Nat} {e : FixtureError}

theorem failsAt_zero_iff : p.FailsAt (text :: rest) 0 e ↔ (p.feed text).1 = .error e := by
  constructor
  · rintro ⟨-, t, ht, hrefused⟩
    cases ht
    exact hrefused
  · intro h
    exact ⟨fun j _ hj => absurd hj (Nat.not_lt_zero j), text, rfl, h⟩

theorem failsAt_succ_iff : p.FailsAt (text :: rest) (k + 1) e ↔
    (p.feed text).1 = .ok () ∧ (p.feed text).2.FailsAt rest k e := by
  constructor
  · rintro ⟨haccepted, hrefused⟩
    refine ⟨haccepted 0 text (Nat.succ_pos k) rfl, fun j t hj ht => ?_, hrefused⟩
    exact haccepted (j + 1) t (Nat.succ_lt_succ hj) ht
  · rintro ⟨hfirst, haccepted, hrefused⟩
    refine ⟨fun j t hj ht => ?_, hrefused⟩
    cases j with
    | zero =>
      cases ht
      exact hfirst
    | succ j => exact haccepted j t (Nat.lt_of_succ_lt_succ hj) ht

end FailsAt

/-- **Lines that are given together** fail at the first one that is refused, in the state that the
lines up to this one leave if they are fed one by one. -/
theorem feedAll_fails_iff : ∀ {lines : List String} {p q : Parser} {e : FixtureError},
    p.feedAll lines = (.error e, q) ↔
      ∃ k, p.FailsAt lines k e ∧ q = p.feedEach (lines.take (k + 1))
  | [], p, q, e => by
    constructor
    · intro h
      cases h
    · rintro ⟨k, ⟨-, text, htext, -⟩, -⟩
      cases htext
  | text :: rest, p, q, e => by
    rw [feedAll]
    rcases hfeed : p.feed text with ⟨_ | _, next⟩
    · constructor
      · intro h
        cases h
        refine ⟨0, failsAt_zero_iff.mpr (by rw [hfeed]), ?_⟩
        rw [feedEach_take_succ, hfeed]
        rfl
      · rintro ⟨_ | k, hfails, rfl⟩
        · rw [failsAt_zero_iff, hfeed] at hfails
          rw [feedEach_take_succ, hfeed, ← hfails]
          rfl
        · rw [failsAt_succ_iff, hfeed] at hfails
          cases hfails.1
    · dsimp only
      rw [feedAll_fails_iff]
      constructor
      · rintro ⟨k, hfails, rfl⟩
        refine ⟨k + 1, failsAt_succ_iff.mpr (by rw [hfeed]; exact ⟨rfl, hfails⟩), ?_⟩
        rw [feedEach_take_succ, hfeed]
      · rintro ⟨_ | k, hfails, rfl⟩
        · rw [failsAt_zero_iff, hfeed] at hfails
          cases hfails
        · rw [failsAt_succ_iff, hfeed] at hfails
          refine ⟨k, hfails.2, ?_⟩
          rw [feedEach_take_succ, hfeed]

end Parser

/-- **A line that is refused leaves no trace but its number.** It changes the count of lines only;
after any calls, such as a `feed` for each of some lines, a parser ends like one that was given the
accepted lines alone; and lines that are given together are read as if they were fed one by one, up
to the first that is refused. -/
theorem refusal_leaves_no_trace :
    (∀ (p : Parser) (text : String) (e : FixtureError), (p.feed text).1 = .error e →
      (p.feed text).2 = { p with lineNumber := p.lineNumber + 1 }) ∧
    (∀ calls : List ParserCall, ∃ q,
      Parser.start.feedAll (Parser.start.acceptedIn calls) = (.ok (), q) ∧
        SameEnd (Parser.start.run calls).finish q.finish) ∧
    ∀ (p q : Parser) (lines : List String) (e : FixtureError),
      p.feedAll lines = (.error e, q) ↔
        ∃ k, p.FailsAt lines k e ∧ q = p.feedEach (lines.take (k + 1)) :=
  ⟨fun _ _ _ h => Parser.feed_refused h, run_accepted, fun _ _ _ _ => Parser.feedAll_fails_iff⟩

/-- A second definition of a tag is refused, and the annotation behind it means the first one. -/
theorem refusal_leaves_no_trace_redefined :
    ((Parser.start.feedEach ["x", "[a]: m"]).feed "[a]: n").1 = .error (.duplicateTag "a" 3 2) ∧
    ((Parser.start.feedEach ["x", "[a]: m"]).feed "[a]: n").2 =
      { Parser.start.feedEach ["x", "[a]: m"] with lineNumber := 3 } ∧
    ∃ q, Parser.start.feedAll ["x", "[a]: m", "~ [a]"] = (.ok (), q) ∧
      SameEnd (Parser.start.feedEach ["x", "[a]: m", "[a]: n", "~ [a]"]).finish q.finish := by
  have hrefused : ((Parser.start.feedEach ["x", "[a]: m"]).feed "[a]: n").1 =
      .error (.duplicateTag "a" 3 2) := by cbv
  have hcount : (Parser.start.feedEach ["x", "[a]: m"]).lineNumber = 2 := by cbv
  have haccepted : Parser.start.acceptedIn
      (["x", "[a]: m", "[a]: n", "~ [a]"].map .feed) = ["x", "[a]: m", "~ [a]"] := by cbv
  obtain ⟨hone, hrun, -⟩ := refusal_leaves_no_trace
  refine ⟨hrefused, ?_, ?_⟩
  · rw [hone _ _ _ hrefused, hcount]
  · rw [← haccepted]
    exact hrun _

end LintFixture
