/-
What changes to a tree of files keep.

A write puts one file, and a directory that is made puts directories where nothing was
(`AddsDirectories`). Either way directories stay directories, so that a path leads where it led
before (`locate_of_keeps`). The main results are

* `read_of_write`: a file is what was written to it;
* `addsDirectories_makeDirectory`, `isDirectory_makeDirectory`, `makeDirectory_of_isDirectory`:
  making a directory adds directories, the one asked for among them, and nothing if this one is
  there;
* `locate_child`: a file in a directory stands under the parts of the directory and its own name;
* `mem_entries_iff`: the entries of a directory are what stands under its parts and one name more.
-/
import Mathlib.Data.List.Nodup
import Mathlib.Tactic.SplitIfs
import StakeRegistry.Files.Tree
import StakeRegistry.Proofs.Keyed
import StakeRegistry.Proofs.Program.Failing

namespace StakeRegistry

/-- The name of a file in a directory: one part of a path, and none of the two dotted ones. -/
structure IsFileName (name : String) : Prop where
  single : '/' ∉ name.toList
  filled : name ≠ ""
  notHere : name ≠ "."
  notAbove : name ≠ ".."

namespace Path

lemma pieces_of_single {piece cs : List Char} (single : '/' ∉ cs) :
    pieces piece cs = [piece.reverse ++ cs] := by
  induction cs generalizing piece with
  | nil => simp [pieces]
  | cons c cs ih =>
    obtain ⟨first, later⟩ : '/' ≠ c ∧ '/' ∉ cs := by simpa using single
    simp [pieces, Ne.symm first, ih later]

/-- The path of a file in a directory has the name of the file as one more part. -/
lemma child_eq {directory : Path} {name : String} (h : IsFileName name) :
    directory.child name = { directory with parts := directory.parts ++ [name] } := by
  have none : name.toList.takeWhile (· = '/') = [] := by
    rcases hs : name.toList with _ | ⟨c, cs⟩
    · rfl
    · have ne : c ≠ '/' := fun same => h.single (by simp [hs, same])
      simp [ne]
  have parts : ofText name = ⟨0, [name]⟩ := by
    simp [ofText, none, pieces_of_single h.single, h.filled, h.notHere]
  rw [child, parts, join, if_pos rfl]

/-- The characters of the parts can be looked at one by one. -/
lemma hasNul_eq (p : Path) : p.hasNul = p.parts.any fun part => part.toList.contains '\x00' := by
  have each (part : String) : part.contains '\x00' = part.toList.contains '\x00' := by
    rw [String.contains_char_eq]
    simp
  simp [hasNul, each]

lemma child_inj {directory : Path} {name name' : String} (h : IsFileName name)
    (h' : IsFileName name') :
    directory.child name = directory.child name' ↔ name = name' := by
  rw [child_eq h, child_eq h']
  simp

end Path

namespace FileTree

variable {t t' t'' : FileTree} {parts here ps last : List String} {node : FileNode}
  {p directory : Path} {content : ByteArray} {changed time : Int} {name : String}
  {r : Except FileError Unit}

/-- The tree at another time. -/
def atTime (t : FileTree) (time : Int) : FileTree :=
  { t with clock := time }

/-- The tree with a file or directory in the place of what was there. -/
def putNode (t : FileTree) (parts : List String) (node : FileNode) : FileTree :=
  { t with nodes := t.nodes.put parts node }

/-- A file with the time of its last change. -/
def file? (t : FileTree) (parts : List String) : Option (ByteArray × Int) :=
  match t.find? parts with
  | some (.file content changed) => some (content, changed)
  | _ => none

lemma find?_of_isAtOrAbove (h : isAtOrAbove here) : t.find? here = some .directory :=
  if_pos h

lemma find?_eq_nodes (h : isAtOrAbove here = false) : t.find? here = t.nodes.find? here := by
  rw [find?, h]
  rfl

lemma isAtOrAbove_of_find? (h : t.find? here ≠ some .directory) : isAtOrAbove here = false :=
  Bool.eq_false_iff.2 fun above => h (find?_of_isAtOrAbove above)

lemma isAtOrAbove_concat (notAbove : name ≠ "..") : isAtOrAbove (here ++ [name]) = false := by
  simp [isAtOrAbove, notAbove]

lemma find?_putNode (inside : isAtOrAbove here = false) :
    (t.putNode here node).find? parts = if here = parts then some node else t.find? parts := by
  rw [find?, find?, putNode, Keyed.find?_put]
  split_ifs with above same <;> simp_all

/-! ### Where a path leads -/

/-- Directories stay directories, and the working directory stays. -/
structure Keeps (t t' : FileTree) : Prop where
  directory : ∀ {parts}, t.find? parts = some .directory → t'.find? parts = some .directory
  working : t'.working = t.working

lemma walk_of_keeps (keeps : Keeps t t') (h : t.walk here ps = .ok last) :
    t'.walk here ps = .ok last := by
  induction ps generalizing here with
  | nil => exact h
  | cons q ps ih =>
    unfold walk at h ⊢
    split at h
    · cases h
    · cases h
    next dir =>
      rw [keeps.directory dir]
      split_ifs at h ⊢ with above long
      · exact ih h
      · exact ih h

/-- A path leads where it led before. -/
lemma locate_of_keeps (keeps : Keeps t t') (h : t.locate p = .ok parts) :
    t'.locate p = .ok parts := by
  unfold locate at h ⊢
  rw [keeps.working]
  split_ifs at h ⊢ with nul long working relative root
  · exact walk_of_keeps keeps h
  · exact walk_of_keeps keeps h
  · exact h

lemma walk_append (qs : List String) :
    t.walk here (ps ++ qs) = t.walk here ps >>= fun last => t.walk last qs := by
  induction ps generalizing here with
  | nil => rfl
  | cons q ps ih =>
    rw [List.cons_append, walk, walk]
    split
    · rfl
    · rfl
    · split_ifs with above long
      · exact ih
      · rfl
      · exact ih

lemma walk_concat (plain : name ≠ "..") (h : t.walk here (ps ++ [name]) = .ok last) :
    ∃ inner, t.walk here ps = .ok inner ∧ t.find? inner = some .directory ∧
      last = inner ++ [name] := by
  rw [walk_append] at h
  obtain ⟨inner, walked, step⟩ := bind_eq_ok_iff.1 h
  refine ⟨inner, walked, ?_⟩
  unfold walk at step
  split at step
  · cases step
  · cases step
  next dir =>
    rw [if_neg plain] at step
    split_ifs at step with long
    exact ⟨dir, (Except.ok.inj step).symm⟩

lemma isLong_concat (filled : name ≠ "") (h : p.isLong) :
    Path.isLong { p with parts := p.parts ++ [name] } := by
  have size :
    p.text.utf8ByteSize ≤ (Path.text { p with parts := p.parts ++ [name] }).utf8ByteSize := by
    have one : 1 ≤ name.utf8ByteSize := by
      rw [Nat.one_le_iff_ne_zero, ne_eq, String.utf8ByteSize_eq_zero_iff]
      exact filled
    rcases hp : p.parts with _ | ⟨q, qs⟩
    · rw [Path.text, Path.text]
      split_ifs <;> simp_all
      exact one
    · have joined := String.intercalate_append_of_ne_nil (s := "/") (List.cons_ne_nil q qs)
        (List.cons_ne_nil name [])
      rw [Path.text, Path.text]
      simp only [hp, joined]
      split_ifs <;> simp_all
      omega
  rw [Path.isLong, decide_eq_true_eq] at h ⊢
  omega

/-- A file in a directory stands under the parts of the directory and its own name. -/
lemma locate_child (isName : IsFileName name) (child : t.locate (directory.child name) = .ok parts)
    (file : t.find? parts ≠ some .directory) :
    ∃ here, t.locate directory = .ok here ∧ t.find? here = some .directory ∧
      parts = here ++ [name] := by
  rw [Path.child_eq isName] at child
  unfold locate at child ⊢
  split_ifs at child with nul long working relative root
  · -- the working directory in full is above the directory, as it is no file itself
    obtain ⟨full, slashes, ahead⟩ := working
    rcases List.prefix_concat_iff.1 (List.isPrefixOf_iff_prefix.1 ahead) with whole | short
    · rw [whole, List.drop_length] at child
      cases child
      exact absurd rfl file
    · rw [List.drop_append_of_le_length short.length_le] at child
      obtain ⟨inner, walked, dir, rfl⟩ := walk_concat isName.notAbove child
      refine ⟨inner, ?_, dir, rfl⟩
      rw [if_neg, if_neg fun h => long (isLong_concat isName.filled h),
        if_pos ⟨full, slashes, List.isPrefixOf_iff_prefix.2 short⟩, walked]
      exact fun h => nul (by simp_all [Path.hasNul])
  · obtain ⟨inner, walked, dir, rfl⟩ := walk_concat isName.notAbove child
    refine ⟨inner, ?_, dir, rfl⟩
    rw [if_neg, if_neg fun h => long (isLong_concat isName.filled h), if_neg,
      if_pos relative, walked]
    · rintro ⟨full, slashes, ahead⟩
      have longer :=
        (List.isPrefixOf_iff_prefix.1 ahead).trans (List.prefix_append directory.parts [name])
      exact working ⟨full, slashes, List.isPrefixOf_iff_prefix.2 longer⟩
    · exact fun h => nul (by simp_all [Path.hasNul])
  · exact absurd root (List.concat_ne_nil _ _)

/-! ### Files -/

lemma write_eq_ok_iff : t.write p content changed = .ok t' ↔ ∃ parts, t.locate p = .ok parts ∧
    t.find? parts ≠ some .directory ∧ t' = t.putNode parts (.file content changed) := by
  unfold write
  rw [bind_eq_ok_iff]
  refine exists_congr fun parts => and_congr_right fun _ => ?_
  rcases t.find? parts with _ | _ | _ <;>
    simp [pure, Except.pure, throw, throwThe, MonadExceptOf.throw, putNode, eq_comm]

lemma read_eq_ok_iff : t.read p = .ok content ↔
    ∃ parts changed, t.locate p = .ok parts ∧ t.find? parts = some (.file content changed) := by
  unfold read
  rw [bind_eq_ok_iff]
  refine exists_congr fun parts => ?_
  rcases t.find? parts with _ | ⟨c, m⟩ | _ <;>
    simp [pure, Except.pure, throw, throwThe, MonadExceptOf.throw]

lemma keeps_putNode (file : t.find? parts ≠ some .directory) :
    Keeps t (t.putNode parts node) where
  directory h := by
    rw [find?_putNode (isAtOrAbove_of_find? file), if_neg, h]
    rintro rfl
    exact file h
  working := rfl

/-- A file is what was written to it. -/
lemma read_of_write (h : t.write p content changed = .ok t') : t'.read p = .ok content := by
  obtain ⟨parts, located, file, rfl⟩ := write_eq_ok_iff.1 h
  refine read_eq_ok_iff.2 ⟨parts, changed, locate_of_keeps (keeps_putNode file) located, ?_⟩
  rw [find?_putNode (isAtOrAbove_of_find? file), if_pos rfl]

lemma file?_putNode (inside : isAtOrAbove here = false) :
    (t.putNode here (.file content changed)).file? parts =
      if here = parts then some (content, changed) else t.file? parts := by
  rw [file?, find?_putNode inside]
  split_ifs <;> rfl

/-! ### Directories -/

/-- Directories are put where nothing was. -/
structure AddsDirectories (t t' : FileTree) : Prop where
  kept : ∀ {parts node}, t.find? parts = some node → t'.find? parts = some node
  fresh : ∀ {parts node}, t.find? parts = none → t'.find? parts = some node → node = .directory
  distinct : t.nodes.keys.Nodup → t'.nodes.keys.Nodup
  working : t'.working = t.working
  clock : t'.clock = t.clock

namespace AddsDirectories

lemma refl (t : FileTree) : AddsDirectories t t where
  kept h := h
  fresh none h := by rw [none] at h; cases h
  distinct h := h
  working := rfl
  clock := rfl

lemma trans (h : AddsDirectories t t') (h' : AddsDirectories t' t'') : AddsDirectories t t'' where
  kept found := h'.kept (h.kept found)
  fresh {parts node} none found := by
    rcases between : t'.find? parts with _ | node'
    · exact h'.fresh between found
    · obtain rfl : node' = node := Option.some.inj ((h'.kept between).symm.trans found)
      exact h.fresh none between
  distinct nodup := h'.distinct (h.distinct nodup)
  working := h'.working.trans h.working
  clock := h'.clock.trans h.clock

lemma keeps (h : AddsDirectories t t') : Keeps t t' :=
  ⟨h.kept, h.working⟩

lemma file?_eq (h : AddsDirectories t t') : t'.file? parts = t.file? parts := by
  rw [file?, file?]
  rcases old : t.find? parts with _ | node
  · rcases new : t'.find? parts with _ | node
    · rfl
    · rw [h.fresh old new]
  · rw [h.kept old]

lemma putNode (none : t.find? parts = none) : AddsDirectories t (t.putNode parts .directory) := by
  have inside : isAtOrAbove parts = false :=
    isAtOrAbove_of_find? (t := t) (by rw [none]; exact nofun)
  refine ⟨fun {ps node} found => ?_, fun {ps node} absent found => ?_,
    Keyed.nodup_keys_put, rfl, rfl⟩
  · rw [find?_putNode inside, if_neg, found]
    rintro rfl
    rw [none] at found
    cases found
  · rw [find?_putNode inside] at found
    split_ifs at found with same
    · exact (Option.some.inj found).symm
    · rw [absent] at found
      cases found

end AddsDirectories

lemma makeOne_eq_ok_iff : t.makeOne p = .ok t' ↔ ∃ parts, t.locate p = .ok parts ∧
    p.parts.getLast? ≠ some ".." ∧ t.find? parts = none ∧ t' = t.putNode parts .directory := by
  unfold makeOne
  rw [bind_eq_ok_iff]
  refine exists_congr fun parts => and_congr_right fun _ => ?_
  split_ifs with there
  · simp only [throw, throwThe, MonadExceptOf.throw, bind, Except.bind]
    constructor
    · intro h
      cases h
    · rintro ⟨last, none, -⟩
      rw [none] at there
      exact absurd there (by simpa using last)
  · rw [not_or, Option.not_isSome_iff_eq_none] at there
    simp [pure, Except.pure, there, putNode, eq_comm]

lemma addsDirectories_ensureDirectory : AddsDirectories t (t.ensureDirectory p).1 := by
  unfold ensureDirectory
  split
  next made =>
    obtain ⟨parts, -, -, none, rfl⟩ := makeOne_eq_ok_iff.1 made
    exact .putNode none
  next => exact .refl t
  next => exact .refl t

lemma isDirectory_ensureDirectory (h : t.ensureDirectory p = (t', .ok ())) :
    ∃ here, t'.locate p = .ok here ∧ t'.find? here = some .directory := by
  unfold ensureDirectory at h
  split at h
  next made =>
    obtain ⟨parts, located, -, none, rfl⟩ := makeOne_eq_ok_iff.1 made
    obtain ⟨rfl, -⟩ := Prod.mk.inj h
    refine ⟨parts, locate_of_keeps (AddsDirectories.putNode none).keeps located, ?_⟩
    rw [find?_putNode (isAtOrAbove_of_find? (by rw [none]; exact nofun)), if_pos rfl]
  next parts _ located =>
    obtain ⟨rfl, there⟩ := Prod.mk.inj h
    refine ⟨parts, located, ?_⟩
    unfold isDirectory at there
    split at there
    next dir => exact dir
    next => cases there
  next => cases h

lemma addsDirectories_makeAbove (count : Nat) : AddsDirectories t (t.makeAbove p count).1 := by
  induction count generalizing t p with
  | zero => exact addsDirectories_ensureDirectory
  | succ count ih =>
    have first := addsDirectories_ensureDirectory (t := t) (p := p)
    unfold makeAbove
    split
    next made missing =>
      rw [missing] at first
      have above := first.trans (ih (t := made) (p := p.parent))
      split
      next between done =>
        rw [done] at above
        exact above.trans addsDirectories_ensureDirectory
      next => exact above
    next => exact first

/-- Making a directory adds directories. -/
lemma addsDirectories_makeDirectory : AddsDirectories t (t.makeDirectory p).1 :=
  addsDirectories_makeAbove _

/-- A directory that was made is there. -/
lemma isDirectory_makeDirectory (h : t.makeDirectory p = (t', .ok ())) :
    ∃ here, t'.locate p = .ok here ∧ t'.find? here = some .directory := by
  unfold makeDirectory at h
  cases count : p.parts.length with
  | zero =>
    rw [count] at h
    exact isDirectory_ensureDirectory h
  | succ n =>
    rw [count] at h
    unfold makeAbove at h
    split at h
    · split at h
      next => exact isDirectory_ensureDirectory h
      next failed =>
        exact absurd (congrArg Prod.snd h) fun ok => failed _ (Prod.ext rfl ok)
    · exact isDirectory_ensureDirectory h

/-- Nothing is made if the directory is there. -/
lemma makeDirectory_of_isDirectory (located : t.locate p = .ok here)
    (there : t.find? here = some .directory) : t.makeDirectory p = (t, .ok ()) := by
  have one : t.makeOne p = .error .alreadyThere := by
    simp [makeOne, located, there, throw, throwThe, MonadExceptOf.throw, bind, Except.bind]
  have ensured : t.ensureDirectory p = (t, .ok ()) := by
    simp [ensureDirectory, one, located, isDirectory, there]
  unfold makeDirectory
  cases p.parts.length <;> simp [makeAbove, ensured]

/-! ### Other times -/

lemma walk_atTime : (t.atTime time).walk here ps = t.walk here ps := by
  induction ps generalizing here with
  | nil => rfl
  | cons q ps ih =>
    rw [walk, walk, ih, ih]
    rfl

lemma locate_atTime : (t.atTime time).locate p = t.locate p := by
  rw [locate, locate, walk_atTime, walk_atTime]
  rfl

lemma read_atTime : (t.atTime time).read p = t.read p := by
  rw [read, read, locate_atTime]
  rfl

lemma entries_atTime : (t.atTime time).entries p = t.entries p := by
  rw [entries, entries, locate_atTime]
  rfl

lemma makeOne_atTime : (t.atTime time).makeOne p = (t.makeOne p).map (·.atTime time) := by
  rw [makeOne, makeOne, locate_atTime]
  rcases t.locate p with e | parts
  · rfl
  · simp only [bind, Except.bind]
    have same : (t.atTime time).find? parts = t.find? parts := rfl
    rw [same]
    split_ifs <;> rfl

lemma ensureDirectory_atTime : (t.atTime time).ensureDirectory p =
    ((t.ensureDirectory p).1.atTime time, (t.ensureDirectory p).2) := by
  rw [ensureDirectory, ensureDirectory, makeOne_atTime, locate_atTime]
  rcases t.makeOne p with e | made
  · cases e <;> rcases t.locate p with e' | parts <;> rfl
  · rfl

lemma makeAbove_atTime (count : Nat) : (t.atTime time).makeAbove p count =
    ((t.makeAbove p count).1.atTime time, (t.makeAbove p count).2) := by
  induction count generalizing t p with
  | zero => exact ensureDirectory_atTime
  | succ count ih =>
    rw [makeAbove, makeAbove, ensureDirectory_atTime]
    rcases t.ensureDirectory p with ⟨made, e | ⟨⟩⟩
    · cases e
      case notFound =>
        simp only [ih]
        rcases made.makeAbove p.parent count with ⟨above, e | ⟨⟩⟩
        · rfl
        · exact ensureDirectory_atTime
      all_goals rfl
    · rfl

/-- A directory is made at any time. -/
lemma makeDirectory_atTime : (t.atTime time).makeDirectory p =
    ((t.makeDirectory p).1.atTime time, (t.makeDirectory p).2) :=
  makeAbove_atTime _

/-! ### What a directory holds -/

lemma entries_eq_ok_iff {es : List DirectoryEntry} : t.entries p = .ok es ↔
    ∃ here, t.locate p = .ok here ∧ t.find? here = some .directory ∧
      es = t.nodes.filterMap fun (parts, node) =>
        if parts.dropLast = here then parts.getLast?.map node.entry else none := by
  unfold entries
  rw [bind_eq_ok_iff]
  refine exists_congr fun here => and_congr_right fun _ => ?_
  rcases t.find? here with _ | _ | _ <;>
    simp [pure, Except.pure, throw, throwThe, MonadExceptOf.throw, eq_comm]

/-- What a directory holds is what stands under its parts and one name more. -/
lemma mem_entries_iff {es : List DirectoryEntry} {e : DirectoryEntry}
    (distinct : t.nodes.keys.Nodup) (located : t.locate p = .ok here) (h : t.entries p = .ok es) :
    e ∈ es ↔ ∃ node, t.nodes.find? (here ++ [e.name]) = some node ∧ e = node.entry e.name := by
  obtain ⟨here', located', -, rfl⟩ := entries_eq_ok_iff.1 h
  obtain rfl : here = here' := Except.ok.inj (located.symm.trans located')
  simp only [List.mem_filterMap, Keyed.find?_eq_some_iff distinct]
  have own (node : FileNode) (name : String) : (node.entry name).name = name := by
    cases node <;> rfl
  constructor
  · rintro ⟨⟨parts, node⟩, held, entry⟩
    rcases List.eq_nil_or_concat' parts with rfl | ⟨above, name, rfl⟩
    · simp at entry
    · simp only [List.dropLast_concat, List.getLast?_concat, Option.map_some,
        Option.ite_none_right_eq_some, Option.some.injEq] at entry
      obtain ⟨rfl, rfl⟩ := entry
      rw [own]
      exact ⟨node, held, rfl⟩
  · rintro ⟨node, held, entry⟩
    exact ⟨(here ++ [e.name], node), held, by simp [← entry]⟩

end FileTree
end StakeRegistry
