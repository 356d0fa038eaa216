import LintFixture.Text.Quoted

/-!
# Faults of paths

Why nothing can be read at a path. A name may be too long for a directory and a path too long as a
whole; a path with a null character is no path at all.
-/

namespace LintFixture

/-- Why a path cannot be read. -/
inductive PathFault
  | notFound
  | notDirectory
  | isDirectory
  | nameTooLong
  | embeddedNull
  deriving DecidableEq, Repr

namespace PathFault

/-- The word that names a fault. -/
def kind : PathFault → String
  | notFound => "FileNotFoundError"
  | notDirectory => "NotADirectoryError"
  | isDirectory => "IsADirectoryError"
  | nameTooLong => "OSError"
  | embeddedNull => "ValueError"

/-- The wording of a fault at a path. -/
def message (fault : PathFault) (path : String) : String :=
  match fault with
  | notFound => "[Errno 2] No such file or directory: " ++ Text.quoted path
  | notDirectory => "[Errno 20] Not a directory: " ++ Text.quoted path
  | isDirectory => "[Errno 21] Is a directory: " ++ Text.quoted path
  | nameTooLong => "[Errno 36] File name too long: " ++ Text.quoted path
  | embeddedNull => "embedded null byte"

end PathFault

end LintFixture
