import LintFixture.CommandLine
import LintFixture.Proofs.Printing

/-!
# Running several test directories

The number of jobs says how many fixtures are verified at a time and nothing else: the outcomes
come in the order of the fixtures (`inRounds_eq_map`), so a run of a directory is a step for each
fixture, and a run of several directories a step for each directory. `Ran` says what the batch of a
directory is without a word of jobs.

A run of directories ends at the first one that cannot be run, and a run of two lists of
directories is the one of the first list and then that of the second (`runTests_append`).

Headline: `runCommand_reports`, what the test command reports and how it ends, unless a fault
escapes that is not one of a configuration.
-/

namespace LintFixture

/-! ## Jobs -/

/-- Rounds make no difference to the outcomes of jobs. -/
theorem inRounds_eq_map {α β : Type} (jobs : Nat) (f : α → β) (l : List α) :
    inRounds jobs f l = l.map f := by
  induction l using inRounds.induct jobs with
  | case1 =>
    rw [inRounds]
    rfl
  | case2 a rest ih =>
    rw [inRounds, ih, ← List.map_append, List.cons_append, List.take_append_drop]

theorem allOk_map {α β ε : Type} (f : α → Except ε β) : ∀ l : List α, allOk (l.map f) = l.mapM f
  | [] => rfl
  | a :: rest => by
    rw [List.map_cons, List.mapM_cons]
    cases ha : f a with
    | error e => rfl
    | ok b =>
      rw [allOk, allOk_map f rest]
      rfl

/-- The fixtures of a setup are verified one by one. -/
theorem runSetup_eq (fs : FileSystem) (linter : Linter) (jobs : Nat) (setup : TestSetup) :
    runSetup fs linter jobs setup =
      (setup.fixtures.mapM (verify fs linter setup.config)).map (⟨·⟩) := by
  rw [runSetup, inRounds_eq_map, allOk_map]

/-! ## Test directories -/

/-- The results of a test directory: its fixtures are verified in the order in which they are
found, with its configuration and the linter for that. -/
def Ran (fs : FileSystem) (rulesDirectory : Option Path) (given : Option Linter)
    (directory : Path) (b : Batch) : Prop :=
  ∃ setup linter,
    TestSetup.load fs directory rulesDirectory = .ok setup ∧
    discoverFixtures fs directory setup.config.fixtureSuffix = .ok setup.fixtures ∧
    linterFor fs setup.config given = .ok linter ∧
    List.Forall₂ (fun path r => verify fs linter setup.config path = .ok r) setup.fixtures b.results

section Directories

variable {fs : FileSystem} {rulesDirectory : Option Path} {given : Option Linter}

theorem discoverFixtures_of_load {directory : Path} {setup : TestSetup}
    (h : TestSetup.load fs directory rulesDirectory = .ok setup) :
    discoverFixtures fs directory setup.config.fixtureSuffix = .ok setup.fixtures := by
  unfold TestSetup.load at h
  split at h
  · cases h
  · cases h
  · split at h
    · cases h
    · obtain ⟨fixtures, hfound, rfl⟩ := map_eq_ok_iff.mp h
      exact hfound

/-- A run of a directory as three steps, which the number of jobs is no part of. -/
theorem runTest_eq (jobs : Nat) (directory : Path) :
    runTest fs rulesDirectory jobs given directory =
      TestSetup.load fs directory rulesDirectory >>= fun setup =>
        linterFor fs setup.config given >>= fun linter =>
          (setup.fixtures.mapM (verify fs linter setup.config)).map (⟨·⟩) := by
  unfold runTest
  simp only [runSetup_eq, bind, Except.bind]
  cases TestSetup.load fs directory rulesDirectory with
  | error fault => rfl
  | ok setup =>
    dsimp only
    cases linterFor fs setup.config given <;> rfl

/-- **What a run of a directory comes to** does not depend on the number of jobs. -/
theorem runTest_eq_ok_iff {jobs : Nat} {directory : Path} {b : Batch} :
    runTest fs rulesDirectory jobs given directory = .ok b ↔
      Ran fs rulesDirectory given directory b := by
  simp only [runTest_eq, bind_eq_ok_iff, map_eq_ok_iff, mapM_eq_ok_iff]
  constructor
  · rintro ⟨setup, hload, linter, hlinter, results, hverify, rfl⟩
    exact ⟨setup, linter, hload, discoverFixtures_of_load hload, hlinter, hverify⟩
  · rintro ⟨setup, linter, hload, -, hlinter, hverify⟩
    exact ⟨setup, hload, linter, hlinter, b.results, hverify, rfl⟩

theorem runAll_eq_mapM (jobs : Nat) : ∀ directories : List Path,
    runAll fs rulesDirectory jobs given directories =
      directories.mapM (runTest fs rulesDirectory jobs given)
  | [] => rfl
  | directory :: rest => by
    rw [runAll, List.mapM_cons, runAll_eq_mapM jobs rest]
    cases runTest fs rulesDirectory jobs given directory <;> rfl

theorem runTests_eq_ok_iff {jobs : Nat} {directories : List Path} {b : Batch} :
    runTests fs rulesDirectory jobs given directories = .ok b ↔
      ∃ batches, List.Forall₂ (Ran fs rulesDirectory given) directories batches ∧
        b = .merge batches := by
  simp only [runTests, runAll_eq_mapM, map_eq_ok_iff, mapM_eq_ok_iff, runTest_eq_ok_iff,
    @eq_comm _ b]

theorem runTests_jobs (jobs jobs' : Nat) (directories : List Path) :
    runTests fs rulesDirectory jobs given directories =
      runTests fs rulesDirectory jobs' given directories := by
  have hstep : runTest fs rulesDirectory jobs given = runTest fs rulesDirectory jobs' given := by
    funext directory
    rw [runTest_eq, runTest_eq]
  rw [runTests, runTests, runAll_eq_mapM, runAll_eq_mapM, hstep]

/-- A run fails as the first directory does that cannot be run. -/
theorem runTests_eq_error_iff {jobs : Nat} {directories : List Path} {fault : Fault} :
    runTests fs rulesDirectory jobs given directories = .error fault ↔
      ∃ before directory after, directories = before ++ directory :: after ∧
        (∀ d ∈ before, ∃ b, runTest fs rulesDirectory jobs given d = .ok b) ∧
        runTest fs rulesDirectory jobs given directory = .error fault := by
  rw [runTests, map_eq_error_iff, runAll_eq_mapM, mapM_eq_error_iff_append]

theorem exists_runTest_of_mem {jobs : Nat} {directories : List Path} {b : Batch}
    (h : runTests fs rulesDirectory jobs given directories = .ok b) {d : Path}
    (hd : d ∈ directories) : ∃ b, runTest fs rulesDirectory jobs given d = .ok b := by
  cases hrun : runTest fs rulesDirectory jobs given d with
  | ok b => exact ⟨b, rfl⟩
  | error fault =>
    obtain ⟨e, he⟩ := exists_mapM_eq_error_iff.mpr ⟨d, hd, fault, hrun⟩
    rw [runTests, runAll_eq_mapM, he] at h
    cases h

/-- **Two lists of directories** are run one after the other. -/
theorem runTests_append (jobs : Nat) (ds ds' : List Path) :
    runTests fs rulesDirectory jobs given (ds ++ ds') = do
      let b ← runTests fs rulesDirectory jobs given ds
      let b' ← runTests fs rulesDirectory jobs given ds'
      return .merge [b, b'] := by
  simp only [runTests, runAll_eq_mapM, List.mapM_append]
  cases ds.mapM (runTest fs rulesDirectory jobs given) with
  | error fault => rfl
  | ok batches =>
    cases ds'.mapM (runTest fs rulesDirectory jobs given) with
    | error fault => rfl
    | ok batches' =>
      simp [Except.map, bind, Except.bind, pure, Except.pure, Batch.merge]

end Directories

/-! ## Batches -/

namespace Batch

theorem passed_iff {b : Batch} : b.passed = true ↔ ∀ r ∈ b.results, r.passed = true :=
  List.all_eq_true

theorem mem_merge {batches : List Batch} {r : FixtureResult} :
    r ∈ (merge batches).results ↔ ∃ b ∈ batches, r ∈ b.results :=
  List.mem_flatMap

theorem failures_merge (batches : List Batch) :
    (merge batches).failures = batches.flatMap failures :=
  List.filter_flatMap

theorem passed_merge (batches : List Batch) : (merge batches).passed = batches.all passed := by
  rw [Bool.eq_iff_iff, passed_iff, List.all_eq_true]
  simp only [mem_merge, passed_iff]
  exact ⟨fun h b hb r hr => h r ⟨b, hb, hr⟩, fun h r ⟨b, hb, hr⟩ => h b hb r hr⟩

end Batch

/-! ## The command -/

section Commands

variable {fs : FileSystem} {terminal color emoji verbose : Bool} {directories : List Path}
  {rulesDirectory : Option Path} {jobs : Nat}

theorem runCommand_of_batch {b : Batch}
    (h : runTests fs rulesDirectory jobs none directories = .ok b)
    (hwritable : ∀ r ∈ b.results, Report.Writable r) :
    ∃ out, runCommand fs terminal directories rulesDirectory jobs color emoji verbose = .ok out ∧
      out.status = .code (if b.passed then 0 else 1) := by
  simp only [runCommand, h, Report.outcome_print hwritable, Except.map]
  exact ⟨_, rfl, rfl⟩

theorem runCommand_of_config {fault : Fault} {text : String}
    (h : runTests fs rulesDirectory jobs none directories = .error fault)
    (hconfig : fault.handling = .config) (htext : fault.text fs.wording = .ok text) :
    ∃ out, runCommand fs terminal directories rulesDirectory jobs color emoji verbose = .ok out ∧
      out.status = .code 2 ∧
      out.output = Style.writeAll ⟨color, emoji, terminal⟩ [.status .fail text] := by
  simp only [runCommand, h, outcomeOfFault, hconfig, htext]
  exact ⟨_, rfl, rfl, rfl⟩

end Commands

/-- No fault ends a run but one of a configuration, which can be told, and none the printing of its
results. -/
def OnlyConfigFaults (fs : FileSystem) (rulesDirectory : Option Path) (jobs : Nat)
    (directories : List Path) : Prop :=
  (∀ fault, runTests fs rulesDirectory jobs none directories = .error fault →
    fault.handling = .config ∧ ∃ text, fault.text fs.wording = .ok text) ∧
  ∀ b, runTests fs rulesDirectory jobs none directories = .ok b →
    ∀ r ∈ b.results, Report.Writable r

/-- What the test command reports of test directories, and how it ends. -/
structure Reports (fs : FileSystem) (terminal : Bool) (directories : List Path)
    (rulesDirectory : Option Path) (jobs : Nat) (color emoji verbose : Bool) : Prop where
  /-- The first directory with a configuration that cannot be used is reported, and nothing else. -/
  refused : ∀ before directory after fault, directories = before ++ directory :: after →
    (∀ d ∈ before, ∀ fault', runTest fs rulesDirectory jobs none d = .error fault' →
      fault'.handling ≠ .config) →
    runTest fs rulesDirectory jobs none directory = .error fault → fault.handling = .config →
    ∃ text out, fault.text fs.wording = .ok text ∧
      runCommand fs terminal directories rulesDirectory jobs color emoji verbose = .ok out ∧
      out.status = .code 2 ∧
      out.output = Style.writeAll ⟨color, emoji, terminal⟩ [.status .fail text]
  /-- Where there is none, the results of all directories are put together, for every number of
  jobs, and the command ends as they say. -/
  verified : (∀ d ∈ directories, ∀ fault, runTest fs rulesDirectory jobs none d = .error fault →
      fault.handling ≠ .config) →
    ∃ batches, List.Forall₂ (Ran fs rulesDirectory none) directories batches ∧
      (∀ jobs', runTests fs rulesDirectory jobs' none directories =
        .ok ⟨batches.flatMap (·.results)⟩) ∧
      ∃ out, runCommand fs terminal directories rulesDirectory jobs color emoji verbose = .ok out ∧
        (out.status = .code 0 ↔ ∀ b ∈ batches, ∀ r ∈ b.results, r.passed = true) ∧
        (out.status = .code 1 ↔ ¬ ∀ b ∈ batches, ∀ r ∈ b.results, r.passed = true)

/-- **What the test command reports**, unless a fault escapes that is not one of a configuration;
and how several lists of directories are run. -/
theorem runCommand_reports (fs : FileSystem) (terminal : Bool) (directories : List Path)
    (rulesDirectory : Option Path) (jobs : Nat) (color emoji verbose : Bool)
    (honly : OnlyConfigFaults fs rulesDirectory jobs directories) :
    Reports fs terminal directories rulesDirectory jobs color emoji verbose ∧
      (∀ ds ds', runTests fs rulesDirectory jobs none (ds ++ ds') = do
        let b ← runTests fs rulesDirectory jobs none ds
        let b' ← runTests fs rulesDirectory jobs none ds'
        return .merge [b, b']) ∧
      ∀ b b' : Batch, (Batch.merge [b, b']).failures = b.failures ++ b'.failures ∧
        (Batch.merge [b, b']).passed = (b.passed && b'.passed) := by
  refine ⟨⟨?_, ?_⟩, runTests_append jobs, fun b b' => ⟨?_, ?_⟩⟩
  · intro before directory after fault hsplit hbefore hdirectory hconfig
    have hran : ∀ d ∈ before, ∃ b, runTest fs rulesDirectory jobs none d = .ok b := by
      -- A fault before would end the run, and as none of a configuration.
      cases hrun : runTests fs rulesDirectory jobs none before with
      | ok b => exact fun d hd => exists_runTest_of_mem hrun hd
      | error other =>
        obtain ⟨first, d, rest, rfl, hfirst, hd⟩ := runTests_eq_error_iff.mp hrun
        obtain ⟨hother, -⟩ := honly.1 other (runTests_eq_error_iff.mpr
          ⟨first, d, rest ++ directory :: after, by simp [hsplit], hfirst, hd⟩)
        exact absurd hother (hbefore d (List.mem_append_right _ List.mem_cons_self) other hd)
    have hruns := runTests_eq_error_iff.mpr
      ⟨before, directory, after, hsplit, hran, hdirectory⟩
    obtain ⟨-, text, htext⟩ := honly.1 fault hruns
    obtain ⟨out, hout⟩ := runCommand_of_config hruns hconfig htext
    exact ⟨text, out, htext, hout⟩
  · intro hnone
    cases hrun : runTests fs rulesDirectory jobs none directories with
    | error fault =>
      obtain ⟨hconfig, -⟩ := honly.1 fault hrun
      obtain ⟨before, directory, after, rfl, -, hdirectory⟩ := runTests_eq_error_iff.mp hrun
      exact absurd hconfig
        (hnone directory (List.mem_append_right _ List.mem_cons_self) fault hdirectory)
    | ok b =>
      obtain ⟨batches, hran, rfl⟩ := runTests_eq_ok_iff.mp hrun
      obtain ⟨out, hout, hstatus⟩ := runCommand_of_batch hrun (honly.2 _ hrun)
      have hpassed : (Batch.merge batches).passed = true ↔
          ∀ b ∈ batches, ∀ r ∈ b.results, r.passed = true := by
        simp only [Batch.passed_merge, List.all_eq_true, Batch.passed_iff]
      refine ⟨batches, hran, fun jobs' => (runTests_jobs jobs' jobs _).trans hrun, out, hout,
        ?_, ?_⟩
      · rw [hstatus, ← hpassed]
        cases (Batch.merge batches).passed <;> simp
      · rw [hstatus, ← hpassed]
        cases (Batch.merge batches).passed <;> simp
  · simp [Batch.failures_merge]
  · simp [Batch.passed_merge]

/-- A directory with a fixture and one with a configuration that cannot be read. -/
def twoDirectories : FileSystem :=
  .ofTree (.directory [
    (.of "a", .directory [(.of "x.lint", .file (Text.encodeUtf8 ['x']))]),
    (.of "b", .directory [(.of "ruletest.toml", .file (Text.encodeUtf8 ['?']))])])

theorem discoverFixtures_twoDirectories :
    discoverFixtures twoDirectories ⟨.root, [.of "a"]⟩ ".lint" =
      .ok [⟨.root, [.of "a", .of "x.lint"]⟩] := by
  have hsteps : SearchStep.ofText ("*" ++ ".lint") = .ok [.matching "*.lint".toList] := by rfl
  have hdirectory : twoDirectories.isDirectory ⟨.root, [.of "a"]⟩ = .ok true := by rfl
  have hplace : ∃ p, twoDirectories.directory? ⟨.root, [.of "a"]⟩ = some p ∧
      ∃ q : Place, q.path = ⟨.root, [.of "a", .of "x.lint"]⟩ ∧ q.node.isDirectory = false ∧
        SearchStep.select [.deep, .matching "*.lint".toList] p = .ok [q] :=
    ⟨_, rfl, _, rfl, rfl, rfl⟩
  obtain ⟨p, hp, q, hq, hfile, hselect⟩ := hplace
  simp only [discoverFixtures, FileSystem.filesMatching, hsteps, hdirectory, hp, hselect, bind,
    Except.bind, pure, Except.pure]
  simp [hq, hfile]

theorem ran_twoDirectories :
    Ran twoDirectories none none ⟨.root, [.of "a"]⟩
      ⟨[.compared ⟨.root, [.of "a", .of "x.lint"]⟩ ⟨[], [], []⟩]⟩ := by
  have hload : TestSetup.load twoDirectories ⟨.root, [.of "a"]⟩ none =
      .ok ⟨⟨.root, [.of "a"]⟩, [⟨.root, [.of "a", .of "x.lint"]⟩], .default⟩ := by
    have hdirectory : twoDirectories.isDirectory ⟨.root, [.of "a"]⟩ = .ok true := by rfl
    have hconfig : (Config.load twoDirectories ⟨.root, [.of "a"]⟩ >>= fun c =>
        c.withRulesDirectory twoDirectories none) = .ok .default := by rfl
    simp only [TestSetup.load, hdirectory, hconfig, Config.default, Config.defaultSuffix,
      discoverFixtures_twoDirectories]
    rfl
  have hlinter : linterFor twoDirectories .default none = .ok Registry.builtin.linter := by
    simp [linterFor, Registry.ofConfig, Registry.withDirectory, Config.default, Registry.check,
      Registry.unknownRules, Config.enabledRules, Except.map]
  have hread : twoDirectories.readFixture ⟨.root, [.of "a", .of "x.lint"]⟩ = .ok (.ok "x") :=
    FileSystem.holdsText_iff.mp ⟨['x'], rfl, by decide⟩
  have htext : verifyText twoDirectories.wording Registry.builtin.linter .default "x" =
      .ok (.ok ⟨[], [], []⟩) := by cbv
  refine ⟨_, _, hload, discoverFixtures_twoDirectories, hlinter, .cons ?_ .nil⟩
  simp only [verify, hread, htext]
  rfl

/-- A configuration that cannot be used comes up after results, with two jobs. -/
theorem runCommand_reports_late :
    OnlyConfigFaults twoDirectories none 2
        [⟨.root, [.of "a"]⟩, ⟨.root, [.of "b"]⟩, ⟨.root, [.of "a"]⟩] ∧
      Reports twoDirectories true [⟨.root, [.of "a"]⟩, ⟨.root, [.of "b"]⟩, ⟨.root, [.of "a"]⟩]
        none 2 true true false := by
  have hload : TestSetup.load twoDirectories ⟨.root, [.of "b"]⟩ none =
      .error (.config (.badSyntax "/b/ruletest.toml" ['?'])) := by rfl
  have honly : OnlyConfigFaults twoDirectories none 2
      [⟨.root, [.of "a"]⟩, ⟨.root, [.of "b"]⟩, ⟨.root, [.of "a"]⟩] := by
    have hrun : runTests twoDirectories none 2 none
        [⟨.root, [.of "a"]⟩, ⟨.root, [.of "b"]⟩, ⟨.root, [.of "a"]⟩] =
          .error (.config (.badSyntax "/b/ruletest.toml" ['?'])) := by
      refine runTests_eq_error_iff.mpr ⟨[⟨.root, [.of "a"]⟩], _, [⟨.root, [.of "a"]⟩], rfl, ?_, ?_⟩
      · exact List.forall_mem_singleton.mpr ⟨_, runTest_eq_ok_iff.mpr ran_twoDirectories⟩
      · simp only [runTest, hload]
    constructor
    · intro fault hfault
      cases hfault.symm.trans hrun
      exact ⟨rfl, _, rfl⟩
    · intro b hb
      cases hb.symm.trans hrun
  exact ⟨honly, (runCommand_reports _ _ _ _ _ _ _ _ honly).1⟩

end LintFixture
