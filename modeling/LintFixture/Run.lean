import LintFixture.Config.Load
import LintFixture.Result.Verify
import LintFixture.Storage.Search

/-!
# Running test directories

A test directory holds fixtures at any depth and the configuration that applies to all of them.
Its fixtures are verified in the order of their paths; several directories are run one after the
other, and the first one that cannot be run ends the run.

The outcomes of several jobs are taken in the order of the fixtures. In what order they come about
is out of scope, as linters are functions.
-/

namespace LintFixture

/-- The fixtures below a directory, in the order of their paths. -/
def discoverFixtures (fs : FileSystem) (directory : Path) (suffix : String) :
    Except Fault (List Path) :=
  fs.filesMatching directory ("*" ++ suffix)

/-- A test directory with its fixtures and its configuration. -/
structure TestSetup where
  directory : Path
  fixtures : List Path
  config : Config

/-- Finds the configuration and the fixtures of a test directory. A rules directory may be given
in place of the configured one. -/
def TestSetup.load (fs : FileSystem) (directory : Path) (rulesDirectory : Option Path) :
    Except Fault TestSetup :=
  match fs.isDirectory directory with
  | .error fault => .error fault
  | .ok false => .error (.config (.testDirectoryMissing directory.text))
  | .ok true =>
    match Config.load fs directory >>= fun c => c.withRulesDirectory fs rulesDirectory with
    | .error fault => .error fault
    | .ok config =>
      (discoverFixtures fs directory config.fixtureSuffix).map fun fixtures =>
        ⟨directory, fixtures, config⟩

/-- Does a number of jobs in rounds of `jobs` at a time. The outcomes come in the order of the
jobs. -/
def inRounds (jobs : Nat) (f : α → β) : List α → List β
  | [] => []
  | a :: rest =>
    (a :: rest.take (jobs - 1)).map f ++ inRounds jobs f (rest.drop (jobs - 1))
termination_by l => l.length
decreasing_by
  simp only [List.length_drop, List.length_cons]
  omega

/-- The outcomes of all jobs, or the first failure in their order. -/
def allOk : List (Except ε α) → Except ε (List α)
  | [] => .ok []
  | .ok a :: rest => (allOk rest).map (a :: ·)
  | .error e :: _ => .error e

/-- Verifies the fixtures of a setup, `jobs` at a time. -/
def runSetup (fs : FileSystem) (linter : Linter) (jobs : Nat) (setup : TestSetup) :
    Except Fault Batch :=
  (allOk (inRounds jobs (verify fs linter setup.config) setup.fixtures)).map (⟨·⟩)

/-- The linter of a run: a given one, or the rules that the configuration enables. -/
def linterFor (fs : FileSystem) (config : Config) : Option Linter → Except Fault Linter
  | some linter => .ok linter
  | none => (Registry.ofConfig fs config).map (·.linter)

/-- Runs a test directory. -/
def runTest (fs : FileSystem) (rulesDirectory : Option Path) (jobs : Nat)
    (linter : Option Linter) (directory : Path) : Except Fault Batch :=
  match TestSetup.load fs directory rulesDirectory with
  | .error fault => .error fault
  | .ok setup =>
    match linterFor fs setup.config linter with
    | .error fault => .error fault
    | .ok linter => runSetup fs linter jobs setup

/-- Runs test directories in order, up to the first one that cannot be run. -/
def runAll (fs : FileSystem) (rulesDirectory : Option Path) (jobs : Nat)
    (linter : Option Linter) : List Path → Except Fault (List Batch)
  | [] => .ok []
  | directory :: rest =>
    match runTest fs rulesDirectory jobs linter directory with
    | .error fault => .error fault
    | .ok batch => (runAll fs rulesDirectory jobs linter rest).map (batch :: ·)

/-- Runs test directories and merges their results. -/
def runTests (fs : FileSystem) (rulesDirectory : Option Path) (jobs : Nat)
    (linter : Option Linter) (directories : List Path) : Except Fault Batch :=
  (runAll fs rulesDirectory jobs linter directories).map .merge

end LintFixture
