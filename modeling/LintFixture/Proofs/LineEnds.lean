import LintFixture.Proofs.Reports

/-!
# Lines that end in other ways

A line ends with a line feed, with a carriage return, or with both, and the lines of one file may
end in different ways. Reading turns every line end into a line feed, before a text is cut into
lines and before any of them is judged, so the rest of verifying does not see which ones a file
has. One pair has to be kept apart: a carriage return that ends a line and a line feed that ends
the empty line after it would together be one line end.

Headline: `verify_lineEnds`, a file comes to the same result whichever way its lines end.
-/

namespace LintFixture

/-! ## Line ends -/

/-- What may end a line. -/
inductive LineEnd
  | lineFeed
  | both
  | carriageReturn
  deriving DecidableEq, Repr

/-- The characters of a line end. -/
def LineEnd.chars : LineEnd → List Char
  | lineFeed => ['\n']
  | both => ['\r', '\n']
  | carriageReturn => ['\r']

namespace Text

/-- A text with other line ends in place of its line feeds: `ends i` in place of one that is
character `i`. -/
def withLineEnds (ends : Nat → LineEnd) : List Char → List Char
  | [] => []
  | c :: cs =>
    (if c = '\n' then (ends 0).chars else [c]) ++ withLineEnds (fun i => ends (i + 1)) cs

/-- No carriage return that ends a line comes directly before a line feed that ends one. -/
def EndsApart (ends : Nat → LineEnd) (cs : List Char) : Prop :=
  ∀ i, cs[i]? = some '\n' → cs[i + 1]? = some '\n' → ends i = .carriageReturn →
    ends (i + 1) ≠ .lineFeed

section Ends

variable {ends : Nat → LineEnd} {c : Char} {cs : List Char}

theorem EndsApart.tail (h : EndsApart ends (c :: cs)) : EndsApart (fun i => ends (i + 1)) cs :=
  fun i => h (i + 1)

theorem withLineEnds_feed :
    withLineEnds ends ('\n' :: cs) =
      (ends 0).chars ++ withLineEnds (fun i => ends (i + 1)) cs := rfl

theorem withLineEnds_of_ne (hc : c ≠ '\n') :
    withLineEnds ends (c :: cs) = c :: withLineEnds (fun i => ends (i + 1)) cs := by
  rw [withLineEnds, if_neg hc, List.singleton_append]

theorem withLineEnds_lineFeed : ∀ cs, withLineEnds (fun _ => .lineFeed) cs = cs
  | [] => rfl
  | c :: cs => by
    by_cases hc : c = '\n'
    · rw [hc, withLineEnds_feed, withLineEnds_lineFeed cs]
      rfl
    · rw [withLineEnds_of_ne hc, withLineEnds_lineFeed cs]

/-- A text begins with a line feed only where it is written for one. -/
theorem head?_withLineEnds (h : (withLineEnds ends cs).head? = some '\n') :
    cs[0]? = some '\n' ∧ ends 0 = .lineFeed := by
  cases cs with
  | nil => cases h
  | cons c cs =>
    by_cases hc : c = '\n'
    · rw [hc, withLineEnds_feed] at h
      refine ⟨congrArg some hc, ?_⟩
      cases hend : ends 0 with
      | lineFeed => rfl
      | both => simp [hend, LineEnd.chars] at h
      | carriageReturn => simp [hend, LineEnd.chars] at h
    · rw [withLineEnds_of_ne hc] at h
      exact absurd (Option.some.inj h) hc

theorem unixLines_of_ne (hc : c ≠ '\r') : unixLines (c :: cs) = c :: unixLines cs := by
  rw [unixLines]
  · exact fun rest h _ => hc h
  · exact hc

theorem unixLines_carriageReturn (h : cs.head? ≠ some '\n') :
    unixLines ('\r' :: cs) = '\n' :: unixLines cs := by
  rw [unixLines]
  rintro rest rfl
  exact h rfl

/-- **Every line end is read as a line feed.** -/
theorem unixLines_withLineEnds : ∀ {cs : List Char} {ends : Nat → LineEnd}, '\r' ∉ cs →
    EndsApart ends cs → unixLines (withLineEnds ends cs) = cs
  | [], _, _, _ => rfl
  | c :: cs, ends, hreturn, hapart => by
    obtain ⟨hc, hcs⟩ := not_or.mp (mt List.mem_cons.mpr hreturn)
    have ih := unixLines_withLineEnds hcs hapart.tail
    by_cases hfeed : c = '\n'
    · rw [hfeed, withLineEnds_feed]
      cases hend : ends 0 with
      | lineFeed => exact congrArg ('\n' :: ·) ih
      | both => exact congrArg ('\n' :: ·) ih
      | carriageReturn =>
        have hnext : (withLineEnds (fun i => ends (i + 1)) cs).head? ≠ some '\n' := fun h => by
          obtain ⟨hcs, hlf⟩ := head?_withLineEnds h
          exact hapart 0 (congrArg some hfeed) hcs hend hlf
        exact (unixLines_carriageReturn hnext).trans (congrArg ('\n' :: ·) ih)
    · rw [withLineEnds_of_ne hfeed, unixLines_of_ne (Ne.symm hc), ih]

/-- A carriage return and a line feed after it are one line end, so a line is lost. -/
example : unixLines (withLineEnds (fun i => if i = 0 then .carriageReturn else .lineFeed)
    ['\n', '\n']) = ['\n'] := by
  decide

end Ends

end Text

/-! ## Files -/

section Files

variable {fs fs' : FileSystem} {path : Path} {text : String}

/-- Verifying a file depends on its text only, and on how failures are worded. -/
theorem verify_of_holdsText (h : fs.HoldsText path text) (h' : fs'.HoldsText path text)
    (hwording : fs'.wording = fs.wording) (linter : Linter) (config : Config) :
    verify fs' linter config path = verify fs linter config path := by
  rw [verify, verify, FileSystem.holdsText_iff.mp h, FileSystem.holdsText_iff.mp h', hwording]

/-- A file holds the text that its line ends are written for. -/
theorem holdsText_of_lineEnds {ends : Nat → LineEnd} (hreturn : '\r' ∉ text.toList)
    (hapart : Text.EndsApart ends text.toList)
    (h : fs.read path = .ok (Text.encodeUtf8 (Text.withLineEnds ends text.toList))) :
    fs.HoldsText path text :=
  ⟨_, h, by rw [Text.unixLines_withLineEnds hreturn hapart, String.ofList_toList]⟩

/-- **The ends of lines make no difference to a result.** A file with any line ends in place of the
line feeds of a text comes to what the file with the text itself comes to at the same path, for
every linter and configuration, as long as failures are worded alike. -/
theorem verify_lineEnds {ends : Nat → LineEnd} (hreturn : '\r' ∉ text.toList)
    (hapart : Text.EndsApart ends text.toList)
    (hread : fs.read path = .ok (Text.encodeUtf8 text.toList))
    (hread' : fs'.read path = .ok (Text.encodeUtf8 (Text.withLineEnds ends text.toList)))
    (hwording : fs'.wording = fs.wording) (linter : Linter) (config : Config) :
    verify fs' linter config path = verify fs linter config path := by
  have hfeeds : fs.HoldsText path text := by
    have hends : Text.EndsApart (fun _ => .lineFeed) text.toList := fun _ _ _ h => nomatch h
    rw [← Text.withLineEnds_lineFeed text.toList] at hread
    exact holdsText_of_lineEnds hreturn hends hread
  have hends := holdsText_of_lineEnds hreturn hapart hread'
  exact verify_of_holdsText hfeeds hends hwording linter config

end Files

/-- A line end of each kind, with an empty line between a carriage return and both characters. -/
def LineEnd.mixed (i : Nat) : LineEnd :=
  if i = 1 then .carriageReturn else if i = 4 then .lineFeed else .both

/-- A fixture with an empty line, on the lines of which every kind of line end occurs. -/
theorem verify_lineEnds_mixed :
    '\r' ∉ "a\n\nb\n~ [t]\n[t]: m".toList ∧
      Text.EndsApart .mixed "a\n\nb\n~ [t]\n[t]: m".toList ∧
      Text.withLineEnds .mixed "a\n\nb\n~ [t]\n[t]: m".toList =
        "a\r\r\nb\n~ [t]\r\n[t]: m".toList ∧
      verify (.single (.of "a.lint") "a\r\r\nb\n~ [t]\r\n[t]: m".toList)
          (fun _ _ => .ok [.diagnostic ⟨2, 0, none, "m", none⟩]) .default ⟨.root, [.of "a.lint"]⟩ =
        .ok (.compared ⟨.root, [.of "a.lint"]⟩ ⟨[], [], []⟩) := by
  have hreturn : '\r' ∉ "a\n\nb\n~ [t]\n[t]: m".toList := by decide
  have hapart : Text.EndsApart .mixed "a\n\nb\n~ [t]\n[t]: m".toList := by
    intro i _ _ hend
    have hi : i = 1 := by
      unfold LineEnd.mixed at hend
      split at hend
      · assumption
      · split at hend <;> cases hend
    subst hi
    decide
  have hends : Text.withLineEnds .mixed "a\n\nb\n~ [t]\n[t]: m".toList =
      "a\r\r\nb\n~ [t]\r\n[t]: m".toList := by decide
  have hfeeds : (FileSystem.single (.of "a.lint") "a\n\nb\n~ [t]\n[t]: m".toList).read
      ⟨.root, [.of "a.lint"]⟩ = .ok (Text.encodeUtf8 "a\n\nb\n~ [t]\n[t]: m".toList) := rfl
  have hmixed : (FileSystem.single (.of "a.lint")
      (Text.withLineEnds .mixed "a\n\nb\n~ [t]\n[t]: m".toList)).read ⟨.root, [.of "a.lint"]⟩ =
        .ok (Text.encodeUtf8 (Text.withLineEnds .mixed "a\n\nb\n~ [t]\n[t]: m".toList)) := rfl
  have hread : (FileSystem.single (.of "a.lint") "a\n\nb\n~ [t]\n[t]: m".toList).readFixture
      ⟨.root, [.of "a.lint"]⟩ = .ok (.ok "a\n\nb\n~ [t]\n[t]: m") :=
    FileSystem.holdsText_iff.mp ⟨_, hfeeds, by decide⟩
  have htext : verifyText .plain (fun _ _ => .ok [.diagnostic ⟨2, 0, none, "m", none⟩]) .default
      "a\n\nb\n~ [t]\n[t]: m" = .ok (.ok ⟨[], [], []⟩) := by
    cbv
  refine ⟨hreturn, hapart, hends, ?_⟩
  rw [← hends, verify_lineEnds hreturn hapart hfeeds hmixed rfl]
  have hwording : (FileSystem.single (.of "a.lint") "a\n\nb\n~ [t]\n[t]: m".toList).wording =
    .plain := rfl
  simp only [verify, hread, hwording, htext]
  rfl

end LintFixture
