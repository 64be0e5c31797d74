/-
Files in memory.

A tree maps the parts of paths to files and directories; the working directory stands at its root.
Above it lie directories that hold nothing but what was put there. A directory counts as changed
later than every file.
-/
import StakeRegistry.Files.Call
import StakeRegistry.Keyed
import StakeRegistry.Text.Blank

namespace StakeRegistry

/-- A file or a directory. -/
inductive FileNode where
  | file (content : ByteArray) (changed : Int)
  | directory

/-- The time that a directory is taken to be changed at. -/
def directoryTime : Int := 1_000_000_000_000_000_000

/-- A file or directory under its name in the directory above. -/
def FileNode.entry (name : String) : FileNode → DirectoryEntry
  | .file _ changed => { name, isDirectory := false, changed }
  | .directory => { name, isDirectory := true, changed := directoryTime }

/-- Files and directories under the parts of their paths. -/
structure FileTree where
  nodes : Keyed (List String) FileNode := []
  /-- The working directory in full. -/
  working : Path := ⟨0, []⟩
  /-- The directory of the program. -/
  program : Path := ⟨1, []⟩
  /-- The time that a file changed now gets. -/
  clock : Int := 0

namespace FileTree

/-- Do the parts of a path lead to the working directory or to one above it? -/
def isAtOrAbove (parts : List String) : Bool :=
  parts.all (· = "..")

/-- The file or directory at some parts. -/
def find? (t : FileTree) (parts : List String) : Option FileNode :=
  if isAtOrAbove parts then some .directory else t.nodes.find? parts

/-- The parts of the directory above. -/
def above (parts : List String) : List String :=
  if isAtOrAbove parts then parts ++ [".."] else parts.dropLast

/-- Is there a directory? -/
def isDirectory (t : FileTree) (parts : List String) : Bool :=
  match t.find? parts with
  | some .directory => true
  | _ => false

/-- Go on from a directory of the tree along the parts of a path. -/
def walk (t : FileTree) (here : List String) : List String → Except FileError (List String)
  | [] => .ok here
  | p :: r =>
    match t.find? here with
    | none => .error .notFound
    | some (.file _ _) => .error .notDirectory
    | some .directory =>
      if p = ".." then walk t (above here) r
      else if Path.isLongPart p then .error .tooLong
      else walk t (here ++ [p]) r

/-- The parts of a path in the tree. A path in full has to lie in the working directory. -/
def locate (t : FileTree) (p : Path) : Except FileError (List String) :=
  if p.hasNul then .error .hasNul
  else if p.isLong then .error .tooLong
  else if t.working.parts ≠ [] ∧ p.slashes = t.working.slashes ∧
    t.working.parts.isPrefixOf p.parts then
    t.walk [] (p.parts.drop t.working.parts.length)
  else if p.slashes = 0 then t.walk [] p.parts
  else if p.parts = [] then .ok []
  else .error .notFound

/-- The content of a file. -/
def read (t : FileTree) (p : Path) : Except FileError ByteArray := do
  match t.find? (← t.locate p) with
  | some (.file content _) => return content
  | some .directory => throw .isDirectory
  | none => throw .notFound

/-- The tree with a new content of a file. -/
def write (t : FileTree) (p : Path) (content : ByteArray) (changed : Int) :
    Except FileError FileTree := do
  let parts ← t.locate p
  match t.find? parts with
  | some .directory => throw .isDirectory
  | _ => return { t with nodes := t.nodes.put parts (.file content changed) }

/-- Is there something at a path? -/
def isThere (t : FileTree) (p : Path) : Except FileError Bool :=
  match t.locate p with
  | .ok parts => .ok (t.find? parts).isSome
  | .error .tooLong => .error .tooLong
  | .error _ => .ok false

/-- The tree with one more directory, which must not be there yet. -/
def makeOne (t : FileTree) (p : Path) : Except FileError FileTree := do
  let parts ← t.locate p
  if p.parts.getLast? = some ".." ∨ (t.find? parts).isSome then throw .alreadyThere
  return { t with nodes := t.nodes.put parts .directory }

/-- The tree after one more directory was made, if that can be done and is not done yet. -/
def ensureDirectory (t : FileTree) (p : Path) : FileTree × Except FileError Unit :=
  match t.makeOne p, t.locate p with
  | .ok made, _ => (made, .ok ())
  | .error .alreadyThere, .ok parts =>
    (t, if t.isDirectory parts then .ok () else .error .alreadyThere)
  | .error e, _ => (t, .error e)

/-- The tree after a directory was made and, where it cannot be made otherwise, the directories that
come before it on its path, up to a number of parts. A part that a later `..` goes back from is made
as well, and what was made stays if something after it cannot be made. -/
def makeAbove (t : FileTree) (p : Path) : (count : Nat) → FileTree × Except FileError Unit
  | 0 => t.ensureDirectory p
  | count + 1 =>
    match t.ensureDirectory p with
    | (t, .error .notFound) =>
      match t.makeAbove p.parent count with
      | (t, .ok ()) => t.ensureDirectory p
      | failed => failed
    | made => made

/-- The tree after a directory and those before it on its path were made. -/
def makeDirectory (t : FileTree) (p : Path) : FileTree × Except FileError Unit :=
  t.makeAbove p p.parts.length

/-- The tree with a file and the directories above it, as far as there is room for them. -/
def withFile (t : FileTree) (p : Path) (content : ByteArray) (changed : Int) : FileTree :=
  let t := (t.makeDirectory p.parent).1
  (t.write p content changed).toOption.getD t

/-- The tree with a new time of a file's last change, if the file is there. -/
def touch (t : FileTree) (p : Path) (changed : Int) : FileTree :=
  match t.read p with
  | .ok content => (t.write p content changed).toOption.getD t
  | .error _ => t

/-- The files in the working directory and below, under their paths. -/
def files (t : FileTree) : Keyed String ByteArray :=
  t.nodes.filterMap fun (parts, node) =>
    match node with
    | .file content _ =>
      if parts.head? = some ".." then none else some ("/".intercalate parts, content)
    | .directory => none

/-- The files that are not in another tree with the same content. -/
def changedFrom (t old : FileTree) : Keyed String ByteArray :=
  t.files.filter fun (path, content) =>
    match old.files.find? path with
    | some before => before != content
    | none => true

/-- What a directory holds. -/
def entries (t : FileTree) (p : Path) : Except FileError (List DirectoryEntry) := do
  let here ← t.locate p
  match t.find? here with
  | none => throw .notFound
  | some (.file _ _) => throw .notDirectory
  | some .directory =>
    return t.nodes.filterMap fun (parts, node) =>
      if parts.dropLast = here then parts.getLast?.map node.entry else none

/-- What a tree answers to a call, and the tree after it. -/
def answer : (c : FileCall) → FileTree → c.Answer × FileTree
  | .isThere p, t => (t.isThere p, t)
  | .read p, t => (t.read p, t)
  | .write p text, t =>
    match t.write p text.toUTF8 t.clock with
    | .ok t' => ((.ok () : Except FileError Unit), t')
    | .error e => ((.error e : Except FileError Unit), t)
  | .makeDirectory p, t => (t.makeDirectory p).swap
  | .entries p, t => (t.entries p, t)
  | .workingDirectory, t => (t.working, t)
  | .programDirectory, t => (t.program, t)

end FileTree
end StakeRegistry
