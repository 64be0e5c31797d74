/-
What a program can ask of the files.
-/
import StakeRegistry.Path
import StakeRegistry.ReadError

namespace StakeRegistry

/-- Why a file or a directory cannot be opened or made. -/
inductive FileError where
  | notFound
  | alreadyThere
  | notDirectory
  | isDirectory
  /-- The path or one of its parts is too long. -/
  | tooLong
  /-- The path holds the character NUL. -/
  | hasNul
  deriving Repr, DecidableEq

/-- What a directory holds under a name. -/
structure DirectoryEntry where
  name : String
  isDirectory : Bool
  /-- The time of the last change. -/
  changed : Int
  deriving Repr, DecidableEq

/-- What can be asked of the files. -/
inductive FileCall where
  /-- Is there a file or a directory? -/
  | isThere (path : Path)
  /-- The content of a file. -/
  | read (path : Path)
  /-- Give a file a new content, and make it if it is not there. -/
  | write (path : Path) (text : String)
  /-- Make a directory and those above it, unless they are there. -/
  | makeDirectory (path : Path)
  /-- What a directory holds. -/
  | entries (path : Path)
  /-- The directory that relative paths are seen from. -/
  | workingDirectory
  /-- The directory of the program. -/
  | programDirectory

/-- What the files answer. -/
def FileCall.Answer : FileCall → Type
  | .isThere _ => Except FileError Bool
  | .read _ => Except FileError ByteArray
  | .write _ _ => Except FileError Unit
  | .makeDirectory _ => Except FileError Unit
  | .entries _ => Except FileError (List DirectoryEntry)
  | .workingDirectory => Path
  | .programDirectory => Path

end StakeRegistry
