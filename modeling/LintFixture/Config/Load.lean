import LintFixture.Config.Basic
import LintFixture.Fault
import LintFixture.Toml.Reader

/-!
# Loading the configuration of a test directory

The configuration file is a TOML document in UTF-8. Without it the defaults apply. The rules
directory that it names is seen from the test directory, and a tilde stands for a home directory.
-/

namespace LintFixture

namespace Config

/-- Where the directory that a configuration file names lies. -/
def placeOf (fs : FileSystem) (directory : Path) (text : String) : Except Fault Path :=
  match fs.expandHome (Path.ofText text) with
  | .error fault => .error fault
  | .ok p => if p.isAbsolute then .ok p else fs.resolve (directory.join p)

/-- The place of the rules directory that a document names, if it names one. -/
def rulesPlace (fs : FileSystem) (directory : Path) (entries : List (String × Value)) :
    Except Fault (Option Path) :=
  match entries.lookup "rules_directory" with
  | some (.text s) => (placeOf fs directory s).map some
  | _ => .ok none

/-- Reads the text of a configuration file. -/
def ofDocument (fs : FileSystem) (directory : Path) (text : List Char) : Except Fault Config :=
  let file := (directory.child fileName).text
  match Toml.read text with
  | .error .malformed => .error (.config (.badSyntax file text))
  | .error (.longNumeral digits) => .error (.longNumeral digits)
  | .error .tooDeep => .error .tooDeep
  | .ok entries =>
    match rulesPlace fs directory entries with
    | .error fault => .error fault
    | .ok place =>
      match ofEntries (fun s => place.getD (Path.ofText s)) entries with
      | .ok config => .ok config
      | .error issues => .error (.config (.invalid file (.mapping entries) issues))

/-- Loads the configuration of a test directory. -/
def load (fs : FileSystem) (directory : Path) : Except Fault Config :=
  let file := directory.child fileName
  match fs.isFile file with
  | .error fault => .error fault
  | .ok false => .ok default
  | .ok true =>
    match fs.read file with
    | .error cause => .error (.config (.unreadable file.text (cause.message file.text)))
    | .ok bytes =>
      match Text.decodeUtf8 bytes with
      | .error fault => .error (.undecodable fault)
      | .ok text => ofDocument fs directory text

end Config

end LintFixture
