import LintFixture.Console.Output
import LintFixture.Journal
import LintFixture.Text.Digit

/-!
# The command line

The only command of `ruletest` is `test`; it runs test directories and prints a report. Options may
stand between the directories, the last one of a kind counts, and two hyphens end them. The exit
status is zero if every fixture passes, one if a fixture fails, and two if the command line or a
configuration cannot be used.

Out of scope are the texts of help and of misuse, variables of the environment, and what becomes of
a fault that ends the run.
-/

namespace LintFixture

/-- The version of the program. -/
def version : String := "0.1.0"

/-- What the command line asks for. -/
inductive Command
  | version
  | help
  /-- The command line cannot be understood. -/
  | misuse
  | test (directories : List Path) (rulesDirectory : Option Path) (jobs : Nat)
      (color emoji verbose : Bool)
  deriving DecidableEq, Repr

/-! ## Options -/

/-- The options of the program and of its command. -/
inductive CommandOption
  | version
  | help
  | rulesDir
  | jobs
  | color (on : Bool)
  | emoji (on : Bool)
  | verbose
  deriving DecidableEq, Repr

namespace CommandOption

/-- The option takes a value. -/
def takesValue : CommandOption → Bool
  | rulesDir => true
  | jobs => true
  | _ => false

/-- The options before the command. -/
def ofProgram : List (String × CommandOption) :=
  [("--version", version), ("-v", version), ("--help", help)]

/-- The options of the command. -/
def ofTest : List (String × CommandOption) :=
  [("--rules-dir", rulesDir), ("-r", rulesDir), ("--jobs", jobs), ("-j", jobs),
   ("--color", color true), ("--no-color", color false), ("--emoji", emoji true),
   ("--no-emoji", emoji false), ("--verbose", verbose), ("--help", help)]

end CommandOption

/-- What reading arguments comes to: the options in order, each with its value if it takes one, and
the other arguments. -/
structure Arguments where
  options : List (CommandOption × String)
  others : List String

namespace Arguments

/-- Adds an option in front. -/
def withOption (option : CommandOption) (value : String) (a : Arguments) : Arguments :=
  { a with options := (option, value) :: a.options }

/-- Adds another argument in front. -/
def withOther (arg : String) (a : Arguments) : Arguments :=
  { a with others := arg :: a.others }

/-- Splits an argument at its first equals sign. -/
def splitValue (arg : String) : String × Option String :=
  let cs := arg.toList
  match cs.dropWhile (· != '=') with
  | _ :: value => (String.ofList (cs.takeWhile (· != '=')), some (String.ofList value))
  | [] => (arg, none)

/-- What one argument of single letters holds: options, and the value at its end or the option
that the next argument is the value of. -/
def letters? (known : List (String × CommandOption)) :
    List Char → Option (List (CommandOption × String) × Option CommandOption)
  | [] => some ([], none)
  | c :: rest =>
    match known.lookup (String.ofList ['-', c]) with
    | none => none
    | some option =>
      if option.takesValue then
        if rest.isEmpty then some ([], some option)
        else some ([(option, String.ofList rest)], none)
      else (letters? known rest).map fun (options, waiting) =>
        ((option, "") :: options, waiting)

/-- Reads an argument that begins with a hyphen: the options in it, and the option that the next
argument is the value of. -/
def optionsIn? (known : List (String × CommandOption)) (arg : String) :
    Option (List (CommandOption × String) × Option CommandOption) :=
  let (name, value) := splitValue arg
  if name.length > 2 && (known.lookup name).isSome then
    match known.lookup name, value with
    | some option, some v => if option.takesValue then some ([(option, v)], none) else none
    | some option, none =>
      if option.takesValue then some ([], some option) else some ([(option, "")], none)
    | none, _ => none
  else if ['-', '-'].isPrefixOf arg.toList then none
  else letters? known (arg.toList.drop 1)

/-- Reads arguments. With `mixed`, options may follow other arguments; without it, the first other
argument ends them. `waiting` is the option that the next argument is the value of. Nothing is
read where an option is unknown or lacks its value. -/
def read? (known : List (String × CommandOption)) (mixed : Bool) :
    (waiting : Option CommandOption) → List String → Option Arguments
  | none, [] => some ⟨[], []⟩
  | some _, [] => none
  | some option, arg :: rest => (read? known mixed none rest).map (withOption option arg)
  | none, arg :: rest =>
    if arg = "--" then some ⟨[], rest⟩
    else if arg.length > 1 && arg.toList.head? = some '-' then
      match optionsIn? known arg with
      | none => none
      | some (options, waiting) =>
        (read? known mixed waiting rest).map fun a => { a with options := options ++ a.options }
    else if mixed then (read? known mixed none rest).map (withOther arg)
    else some ⟨[], arg :: rest⟩

/-- The value of the last option of a kind. -/
def value? (a : Arguments) (option : CommandOption) : Option String :=
  (a.options.reverse.find? (·.1 == option)).map (·.2)

/-- An option is given. -/
def contains (a : Arguments) (option : CommandOption) : Bool :=
  a.options.any (·.1 == option)

/-- The state of a switch, which is on by default. -/
def switch (a : Arguments) (option : Bool → CommandOption) : Bool :=
  match a.options.reverse.find? fun o => o.1 == option true || o.1 == option false with
  | some o => o.1 == option true
  | none => true

/-- The value of one option stands before those of another one. -/
def comesFirst (a : Arguments) (option other : CommandOption) : Bool :=
  match a.options.find? fun o => o.1 == option || o.1 == other with
  | some o => o.1 == option
  | none => false

end Arguments

/-- Why an argument cannot be used. -/
inductive ArgumentFault
  | misuse
  /-- Looking at what the argument names fails. -/
  | fault (fault : Fault)

namespace Command

/-- Reads a number of jobs, which is one at least, in the digits of any script. -/
def readJobs? (text : String) : Option Nat := do
  let (negative, cs) := takeSign (Text.trim Text.isBlank (text.toList.map Text.plainDigit))
  let digits ← groupedDigits? cs
  let n := numeralValue 10 digits
  if negative ∨ n = 0 ∨ longestNumeral < digits.length then none else some n

/-- Reads a number of jobs. -/
def readJobs (text : String) : Except ArgumentFault Nat :=
  match readJobs? text with
  | some n => .ok n
  | none => .error .misuse

/-- The absolute path that an argument names. -/
def readPath (fs : FileSystem) (arg : String) : Except ArgumentFault Path :=
  (fs.resolve (Path.ofText arg)).mapError .fault

/-- The directory that an argument names, which has to be there. -/
def readDirectory (fs : FileSystem) (arg : String) : Except ArgumentFault Path := do
  let p ← readPath fs arg
  match (fs.node p).map FileNode.isDirectory with
  | .ok true => return p
  | _ => .error .misuse

/-- The rules directory that an argument names. A file cannot be one. -/
def readRulesDirectory (fs : FileSystem) (arg : String) : Except ArgumentFault Path := do
  let p ← readPath fs arg
  match (fs.node p).map FileNode.isDirectory with
  | .ok false => .error .misuse
  | _ => return p

/-- Reads an option that need not be given. -/
def readOptional (read : String → Except ArgumentFault α) :
    Option String → Except ArgumentFault (Option α)
  | none => .ok none
  | some text => (read text).map some

/-- Reads the options with values in the order in which they are given. -/
def readOptions (fs : FileSystem) (a : Arguments) :
    Except ArgumentFault (Option Path × Option Nat) := do
  let readRules := readOptional (readRulesDirectory fs) (a.value? .rulesDir)
  let readJobs := readOptional readJobs (a.value? .jobs)
  if a.comesFirst .jobs .rulesDir then
    let jobs ← readJobs
    return (← readRules, jobs)
  else
    let rules ← readRules
    return (rules, ← readJobs)

/-- Reads the arguments of the test command. -/
def ofTestArguments (fs : FileSystem) (a : Arguments) : Except ArgumentFault Command := do
  let (rulesDirectory, jobs) ← readOptions fs a
  let directories ← a.others.mapM (readDirectory fs)
  if directories.isEmpty then .error .misuse
  else
    return .test directories rulesDirectory (jobs.getD 1) (a.switch .color) (a.switch .emoji)
      (a.contains .verbose)

/-- Reads the arguments after the name of the test command. -/
def ofTestArgs (fs : FileSystem) (args : List String) : Except Fault Command :=
  match Arguments.read? CommandOption.ofTest true none args with
  | none => .ok misuse
  | some a =>
    if a.contains .help then .ok help
    else
      match ofTestArguments fs a with
      | .ok command => .ok command
      | .error .misuse => .ok misuse
      | .error (.fault fault) => .error fault

/-- Reads a command line. -/
def ofArgs (fs : FileSystem) (args : List String) : Except Fault Command :=
  match Arguments.read? CommandOption.ofProgram false none args with
  | none => .ok misuse
  | some a =>
    match a.options, a.others with
    | (.version, _) :: _, _ => .ok version
    | _ :: _, _ => .ok help
    | [], "test" :: rest => ofTestArgs fs rest
    | [], _ => .ok misuse

end Command

/-! ## Running a command -/

/-- How a program ends: with a number, or with what was said when it was told to end. -/
inductive ExitStatus
  | code (n : Nat)
  | said (text : String)
  deriving DecidableEq, Repr

/-- What a command comes to: the exit status, what it prints, and the journal if it keeps one. -/
structure Outcome where
  status : ExitStatus
  output : String
  journal : Option (List JournalEntry)

/-- What a fault comes to that the command does not handle: an interrupt from the keyboard and the
wish to end are known to the program around, and every other fault is left to the caller. -/
def outcomeOfEscape (w : Wording) (journal : Option (List JournalEntry)) (fault : Fault) :
    Except Fault Outcome :=
  match fault.handling, fault.kind with
  | .interrupt, "KeyboardInterrupt" => .ok ⟨.code 130, "", journal⟩
  | .interrupt, "SystemExit" => .ok ⟨.said ((fault.text w).toOption.getD ""), "", journal⟩
  | _, _ => .error fault

/-- What a fault of a run comes to: a configuration that cannot be used is reported alone. -/
def outcomeOfFault (w : Wording) (style : Style) (journal : Option (List JournalEntry))
    (fault : Fault) : Except Fault Outcome :=
  match fault.handling with
  | .config =>
    match fault.text w with
    | .ok text => .ok ⟨.code 2, style.writeAll [.status .fail text], journal⟩
    | .error cause => outcomeOfEscape w journal cause
  | _ => outcomeOfEscape w journal fault

/-- Runs the test command. -/
def runCommand (fs : FileSystem) (terminal : Bool) (directories : List Path)
    (rulesDirectory : Option Path) (jobs : Nat) (color emoji verbose : Bool) :
    Except Fault Outcome :=
  let style : Style := ⟨color, emoji, terminal⟩
  let journal :=
    if verbose then some (Journal.ofRun fs rulesDirectory jobs directories) else none
  match runTests fs rulesDirectory jobs none directories with
  | .ok batch =>
    let root := match directories with
      | [directory] => some directory
      | _ => none
    let printout := Report.print root batch
    printout.outcome.map fun passed =>
      ⟨.code (if passed then 0 else 1), style.writeAll printout.pieces, journal⟩
  | .error fault => outcomeOfFault fs.wording style journal fault

/-- The help text. -/
def helpText : String :=
  String.intercalate "\n"
    ["Usage: ruletest [--version] [--help] test DIRECTORIES...",
     "",
     "Verify lint rules against annotated fixture files.",
     "",
     "Options of test:",
     "  -r, --rules-dir PATH    Additional rules directory overriding the configured one.",
     "  -j, --jobs N            Number of fixtures verified in parallel.",
     "  --color, --no-color     Colourise console output.",
     "  --emoji, --no-emoji     Mark console output with emoji.",
     "  --verbose               Tell every step.",
     ""]

/-- Runs a command. -/
def Command.run (fs : FileSystem) (terminal : Bool) : Command → Except Fault Outcome
  | version => .ok ⟨.code 0, LintFixture.version ++ "\n", none⟩
  | help => .ok ⟨.code 0, helpText, none⟩
  | misuse => .ok ⟨.code 2, "", none⟩
  | test directories rulesDirectory jobs color emoji verbose =>
    runCommand fs terminal directories rulesDirectory jobs color emoji verbose

end LintFixture
