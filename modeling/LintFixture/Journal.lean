import LintFixture.Run

/-!
# The journal of a run

A verbose run tells what it does: which configuration and rules it loads, what it finds, and how
far it gets with every fixture. The journal is a function of the same inputs as the run and ends
where the run ends. Its lines are those that begin with the name of the program, so a line end
within a name cuts a line, and what follows may be lost.

Out of scope are the time that a fixture takes, which is a parameter of the lines, and the trace of
a failure apart from its end.
-/

namespace LintFixture

/-- A step of a run. -/
inductive JournalEntry
  | configLoaded (file : String) (rules : Nat)
  | configAbsent (directory : String)
  | fixturesFound (count : Nat) (directory : String)
  | ruleLoaded (name file : String)
  | moduleSkipped (file : String)
  | ruleShadowed (name label : String)
  | fixtureParsed (source annotations legend : Nat)
  | ruleReported (name : String) (count : Nat)
  | linterFailed (path : String)
  /-- The end of the trace of a failure. -/
  | trace (kind message : String)
  | fixtureVerified (path : String)
  deriving DecidableEq, Repr

namespace JournalEntry

/-- The text of an entry; `duration` stands for the time that a fixture took. -/
def text (duration : String) : JournalEntry → String
  | configLoaded file rules =>
    "ruletest.config: loaded " ++ file ++ " with " ++ toString rules ++ " rule settings"
  | configAbsent directory =>
    "ruletest.config: no " ++ Config.fileName.text ++ " in " ++ directory ++ ", using defaults"
  | fixturesFound count directory =>
    "ruletest.runner: found " ++ toString count ++ " fixtures in " ++ directory
  | ruleLoaded name file => "ruletest.rules.registry: loaded rule " ++ name ++ " from " ++ file
  | moduleSkipped file =>
    "ruletest.rules.registry: skipping " ++ file ++ ": no concrete Rule class"
  | ruleShadowed name label =>
    "ruletest.rules.registry: rule " ++ name ++ " already registered, ignoring " ++ label
  | fixtureParsed source annotations legend =>
    "ruletest.fixtures.parser: parsed " ++ toString source ++ " source lines, "
      ++ toString annotations ++ " annotations, " ++ toString legend ++ " legend entries"
  | ruleReported name count =>
    "ruletest.linter: rule " ++ name ++ " reported " ++ toString count ++ " diagnostics"
  | linterFailed path => "ruletest.runner: linter failed on " ++ path
  | trace kind message => kind ++ ": " ++ message
  | fixtureVerified path => "ruletest.runner: verified " ++ path ++ " in " ++ duration

end JournalEntry

namespace Journal

/-- What every line of the journal begins with. -/
def lineStart : String := "ruletest."

/-- The lines of a journal. -/
def lines (duration : String) (entries : List JournalEntry) : List String :=
  (entries.flatMap fun e => Text.pieces (e.text duration)).filter fun line =>
    lineStart.toList.isPrefixOf line.toList

/-- The steps of loading a configuration. -/
def ofConfig (fs : FileSystem) (directory : Path) : List JournalEntry :=
  let file := directory.child Config.fileName
  match Config.load fs directory, fs.isFile file with
  | .ok config, .ok true => [.configLoaded file.text config.rules.length]
  | .ok _, .ok false => [.configAbsent directory.text]
  | _, _ => []

/-- The steps of finding the configuration and the fixtures of a test directory. -/
def ofSetup (fs : FileSystem) (rulesDirectory : Option Path) (directory : Path) :
    List JournalEntry :=
  match fs.isDirectory directory with
  | .ok true =>
    ofConfig fs directory
      ++ match TestSetup.load fs directory rulesDirectory with
        | .ok setup => [.fixturesFound setup.fixtures.length directory.text]
        | .error _ => []
  | _ => []

/-- The steps of loading rule modules. -/
def ofModules : List (Path × RuleModule) → List JournalEntry
  | [] => []
  | (_, .fails _) :: _ => []
  | (file, .imported exposed) :: rest =>
    match exposed.offer? with
    | none => .moduleSkipped file.text :: ofModules rest
    | some rule => .ruleLoaded (RuleDirectory.ruleName file rule) file.text :: ofModules rest

/-- The steps of setting up the rules of a configuration. -/
def ofRules (fs : FileSystem) (config : Config) : List JournalEntry :=
  match config.rulesDirectory with
  | none => []
  | some directory =>
    match fs.isDirectory directory with
    | .ok true =>
      ofModules (RuleDirectory.modules fs directory)
        ++ match RuleDirectory.load fs directory with
          | .ok rules =>
            (rules.filter fun e => Registry.builtin.contains e.1).map fun (name, rule) =>
              .ruleShadowed name rule.label
          | .error _ => []
    | _ => []

/-- The steps of running rules. -/
def ofLint (r : Registry) (source : String) : List (String × RuleSetting) → List JournalEntry
  | [] => []
  | (name, setting) :: rest =>
    match r.find? name with
    | none => ofLint r source rest
    | some rule =>
      match rule.run setting.options name source with
      | .error _ => []
      | .ok found => .ruleReported name found.length :: ofLint r source rest

/-- The fixture in a file, if the file can be read as one. -/
def fixtureAt? (fs : FileSystem) (path : Path) : Option Fixture :=
  match fs.readFixture path with
  | .ok (.ok text) => (Fixture.parse text).toOption
  | _ => none

/-- The steps of recording that the linter fails on a fixture. A fault without a text is not
told, and what is raised in asking for it only where it counts as a failure of the linter. -/
def ofLinterFault (w : Wording) (path : Path) (fault : Fault) : List JournalEntry :=
  match fault.linterFailure w, fault.text w with
  | .ok _, .ok text => [.linterFailed path.text, .trace fault.kind text]
  | .ok failure, .error _ =>
    if failure.kind = FailureKind.linter.word then [.linterFailed path.text] else []
  | .error _, _ => []

/-- The steps of verifying a fixture with the rules of a registry. -/
def ofFixture (fs : FileSystem) (r : Registry) (config : Config) (path : Path) :
    List JournalEntry :=
  match fixtureAt? fs path with
  | none => []
  | some fixture =>
    let parsed : JournalEntry :=
      .fixtureParsed fixture.sourceLines.length fixture.expected.length fixture.legend.size
    let linted := parsed :: ofLint r fixture.source config.enabledRules
    match r.linter.diagnostics fixture.source config with
    | .error fault => linted ++ ofLinterFault fs.wording path fault
    | .ok reported =>
      match fixture.compare reported with
      | .ok _ => linted ++ [.fixtureVerified path.text]
      | .error _ => linted

/-- The steps of verifying fixtures one after the other, up to an interrupt. -/
def ofFixtures (fs : FileSystem) (r : Registry) (config : Config) :
    List Path → List JournalEntry
  | [] => []
  | path :: rest =>
    ofFixture fs r config path
      ++ match verify fs r.linter config path with
        | .ok _ => ofFixtures fs r config rest
        | .error _ => []

/-- The steps of running a test directory. -/
def ofTest (fs : FileSystem) (rulesDirectory : Option Path) (directory : Path) :
    List JournalEntry :=
  ofSetup fs rulesDirectory directory
    ++ match TestSetup.load fs directory rulesDirectory with
      | .error _ => []
      | .ok setup =>
        ofRules fs setup.config
          ++ match Registry.ofConfig fs setup.config with
            | .ok r => ofFixtures fs r setup.config setup.fixtures
            | .error _ => []

/-- The steps of running test directories, up to the first one that cannot be run. -/
def ofRun (fs : FileSystem) (rulesDirectory : Option Path) (jobs : Nat) :
    List Path → List JournalEntry
  | [] => []
  | directory :: rest =>
    ofTest fs rulesDirectory directory
      ++ match runTest fs rulesDirectory jobs none directory with
        | .ok _ => ofRun fs rulesDirectory jobs rest
        | .error _ => []

end Journal

end LintFixture
