/-
Paths of files.

A path is a number of leading slashes and a list of parts. Empty parts and the part `.` are dropped
when a path is read, the part `..` is kept; of more than two leading slashes only one counts. The
path without slashes and parts is the current directory and is written `.`. A file system limits the
bytes of a part and of a whole path, and takes no path with the character NUL.
-/
namespace StakeRegistry

/-- A path. -/
structure Path where
  /-- Zero for a relative path, otherwise one or two. -/
  slashes : Nat
  parts : List String
  deriving Repr, DecidableEq

namespace Path

/-- The pieces of a text between slashes. -/
def pieces (piece : List Char) : List Char → List (List Char)
  | [] => [piece.reverse]
  | c :: r => if c = '/' then piece.reverse :: pieces [] r else pieces (c :: piece) r

/-- Read a path. -/
def ofText (s : String) : Path :=
  let slashes := (s.toList.takeWhile (· = '/')).length
  { slashes := if 2 < slashes then 1 else slashes
    parts := ((pieces [] s.toList).map String.ofList).filter fun p => p ≠ "" ∧ p ≠ "." }

/-- A path as a text. -/
def text (p : Path) : String :=
  if p.slashes = 0 ∧ p.parts = [] then "."
  else String.ofList (List.replicate p.slashes '/') ++ "/".intercalate p.parts

/-- The most bytes of a part in a file system. -/
def maxPart : Nat := 255

/-- The most bytes of a path in a file system. -/
def maxBytes : Nat := 4095

/-- Is a part too long for a file system? -/
def isLongPart (part : String) : Bool :=
  maxPart < part.utf8ByteSize

/-- Is a path too long for a file system, whatever its parts are? -/
def isLong (p : Path) : Bool :=
  maxBytes < p.text.utf8ByteSize

/-- What is told about a text with the character NUL. -/
def nulText : String := "embedded null byte"

/-- Does a path hold the character NUL? -/
def hasNul (p : Path) : Bool :=
  p.parts.any fun part => part.contains '\x00'

/-- The path of something in a directory, or the second path if it is not relative. -/
def join (p q : Path) : Path :=
  if q.slashes = 0 then { p with parts := p.parts ++ q.parts } else q

/-- The path of a file in a directory. -/
def child (p : Path) (name : String) : Path :=
  p.join (ofText name)

/-- The directory of a path. The root and the current directory are their own. -/
def parent (p : Path) : Path :=
  { p with parts := p.parts.dropLast }

/-- The parts of a path in which every `..` has taken away the part before it. -/
def withoutParents (parts : List String) : List String :=
  parts.foldl (fun above p => if p = ".." then above.dropLast else above ++ [p]) []

/-- A path in full, seen from a working directory. -/
def resolve (p working : Path) : Path :=
  let full := working.join p
  { full with parts := withoutParents full.parts }

end Path
end StakeRegistry
