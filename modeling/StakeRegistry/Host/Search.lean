/-
Search for files by the pattern of their path.
-/
import StakeRegistry.Files.Pattern
import StakeRegistry.Host.Call

namespace StakeRegistry

/-- A path that a search came upon, with the time of its last change. -/
structure Found where
  path : Path
  changed : Int
  deriving Repr, DecidableEq

namespace Act

variable {ε : Type}

/-- What a directory holds; nothing if it cannot be looked into. -/
def entriesOf (p : Path) : Act ε (List DirectoryEntry) := do
  match ← ask (.file (.entries p)) with
  | .ok es => return es
  | .error _ => return []

/-- What a directory holds under the names that fit a pattern. -/
def entriesLike (pattern : NamePattern) (p : Path) : Act ε (List DirectoryEntry) := do
  return (← entriesOf p).filter fun e => pattern.fits e.name.toList

/-- A directory and those below it, at most `depth` deep. -/
def directoriesFrom : (depth : Nat) → Path → Act ε (List Path)
  | 0, p => return [p]
  | depth + 1, p => do
    let inner := (← entriesOf p).filter (·.isDirectory)
    let below ← inner.mapM fun e => directoriesFrom depth (p.child e.name)
    return p :: below.flatten

/-- Everything below a directory that fits a pattern, of which the last step has to be a name. No
path has more parts than bytes. -/
def search : List PathStep → Path → Act ε (List Found)
  | [], _ => return []
  | [.name pattern], p => do
    return (← entriesLike pattern p).map fun e => { path := p.child e.name, changed := e.changed }
  | .name pattern :: steps, p => do
    let inner := (← entriesLike pattern p).filter (·.isDirectory)
    return (← inner.mapM fun e => search steps (p.child e.name)).flatten
  | .above :: steps, p => search steps { p with parts := p.parts ++ [".."] }
  | .anyDepth :: steps, p => do
    return (← (← directoriesFrom Path.maxBytes p).mapM fun d => search steps d).flatten

end Act
end StakeRegistry
