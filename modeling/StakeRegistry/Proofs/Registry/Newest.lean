/-
The snapshot that is read.

The names of the snapshots of a type are told apart from those of the other types by their beginning
(`IsSnapshotName.unique`), although one name is part of another. In a directory where one snapshot
of a type was changed after all others of this type (`IsNewest`), this one is found, whatever else
the directory holds (`latestArtifact_eq_of_isNewest`).
-/
import StakeRegistry.Proofs.Host.Files
import StakeRegistry.Proofs.Numeral.Decimal
import StakeRegistry.Registry.Artifact

namespace StakeRegistry

open Program FileTree

/-! ### Patterns of names -/

namespace NamePattern

variable {ds cs : List Char} {ps : NamePattern}

lemma fits_append_iff : fits (ds.map (fun d => .one (.just d)) ++ ps) cs = true ↔
    ∃ r, cs = ds ++ r ∧ fits ps r = true := by
  induction ds generalizing cs with
  | nil => simp
  | cons d ds ih =>
    cases cs with
    | nil => simp
    | cons c cs =>
      rw [List.map_cons, List.cons_append, fits_one_cons, Bool.and_eq_true, CharSet.has_just, ih]
      simp only [List.cons_append, List.cons.injEq]
      constructor
      · rintro ⟨rfl, r, rfl, h⟩
        exact ⟨r, ⟨rfl, rfl⟩, h⟩
      · rintro ⟨r, ⟨rfl, rfl⟩, h⟩
        exact ⟨rfl, r, rfl, h⟩

lemma fits_many_iff : fits (.many :: ps) cs = true ↔ ∃ a b, cs = a ++ b ∧ fits ps b = true := by
  induction cs with
  | nil => simp
  | cons c cs ih =>
    rw [fits_many_cons, Bool.or_eq_true, ih]
    constructor
    · rintro (h | ⟨a, b, rfl, h⟩)
      · exact ⟨[], c :: cs, rfl, h⟩
      · exact ⟨c :: a, b, rfl, h⟩
    · rintro ⟨a, b, hcs, h⟩
      cases a with
      | nil =>
        rw [List.nil_append] at hcs
        exact .inl (hcs ▸ h)
      | cons d a =>
        obtain ⟨rfl, rfl⟩ := List.cons.inj hcs
        exact .inr ⟨a, b, rfl, h⟩

end NamePattern

namespace Registry

variable {type type' : EventType} {name : String} {block : Int} {now : Moment}

/-! ### Names of snapshots -/

/-- The name of a snapshot of a type; anything may stand between its beginning and its end. -/
def IsSnapshotName (type : EventType) (name : String) : Prop :=
  ∃ stamp : String, name = type.name ++ "_events_" ++ stamp ++ ".json"

/-- The pattern of the names of the snapshots of a type. -/
def snapshotPattern (type : EventType) : NamePattern :=
  (type.name ++ "_events_").toList.map (fun c => .one (.just c)) ++
    .many :: ".json".toList.map fun c => .one (.just c)

lemma artifactPattern_eq : artifactPattern type.name = .ok [.name (snapshotPattern type)] := by
  cases type <;> decide +kernel

lemma fits_snapshotPattern_iff :
    (snapshotPattern type).fits name.toList = true ↔ IsSnapshotName type name := by
  simp only [snapshotPattern, NamePattern.fits_append_iff, NamePattern.fits_many_iff,
    NamePattern.fits_map_just, exists_eq_right]
  constructor
  · rintro ⟨_, h, stamp, rfl⟩
    exact ⟨String.ofList stamp, String.toList_injective (by simpa using h)⟩
  · rintro ⟨stamp, rfl⟩
    exact ⟨stamp.toList ++ ".json".toList, by simp, stamp.toList, rfl⟩

/-- A name is that of snapshots of one type only: the types begin with different letters. -/
lemma IsSnapshotName.unique (h : IsSnapshotName type name) (h' : IsSnapshotName type' name) :
    type = type' := by
  obtain ⟨stamp, rfl⟩ := h
  obtain ⟨stamp', same⟩ := h'
  have first := congrArg (fun s : String => s.toList.head?) same
  cases type <;> cases type' <;> first | rfl | simp [EventType.name] at first

lemma isSnapshotName_artifactName : IsSnapshotName type (artifactName type.name block now) := by
  refine ⟨now.stamp ++ "_block_" ++ toString block, ?_⟩
  simp only [artifactName, String.append_assoc]

/-- The name of a snapshot is none of the dotted parts of a path. -/
lemma IsSnapshotName.notAbove (h : IsSnapshotName type name) : name ≠ ".." := by
  obtain ⟨stamp, rfl⟩ := h
  intro same
  have first := congrArg (fun s : String => s.toList.head?) same
  cases type <;> simp [EventType.name] at first

/-- A snapshot is stored under the name of a file. -/
lemma isFileName_artifactName : IsFileName (artifactName type.name block now) := by
  have digits (n : Nat) : '/' ∉ Nat.toDigits 10 n := fun mem =>
    absurd (Numeral.isDigit_of_mem mem) (by decide)
  have number : '/' ∉ block.repr.toList := fun mem => by
    rw [← Int.toString_eq_repr, Numeral.toList_toString] at mem
    split_ifs at mem
    · exact absurd (Numeral.isDigit_of_mem ((List.mem_cons.1 mem).resolve_left (by decide)))
        (by decide)
    · exact absurd (Numeral.isDigit_of_mem mem) (by decide)
  have two (n : Nat) : '/' ∉ (twoDigits n).toList := by
    rw [twoDigits]
    split_ifs <;> simp [digits]
  have typeName : '/' ∉ type.name.toList := by cases type <;> decide
  have long : 5 < (artifactName type.name block now).length := by
    simp only [artifactName, String.length_append]
    have : 5 ≤ type.name.length := by cases type <;> decide
    have : 8 = "_events_".length := by decide
    omega
  refine ⟨?_, ?_, ?_, ?_⟩
  · simp [artifactName, Moment.stamp, typeName, digits, two, number]
  all_goals
    intro short
    rw [short] at long
    exact absurd long (by decide)

/-! ### The newest of several files -/

/-- The later of two files, or the first one if neither is later. -/
def later (best : Option Found) (f : Found) : Option Found :=
  match best with
  | none => some f
  | some b => if b.changed < f.changed then some f else some b

lemma newest?_eq (files : List Found) : newest? files = (files.foldl later none).map Found.path :=
  rfl

/-- A file that was changed after all others is found, whichever was the best before it. -/
lemma foldl_later {f : Found} {files : List Found} {best : Option Found}
    (held : f ∈ files ∨ best = some f) (last : ∀ g ∈ files, g = f ∨ g.changed < f.changed)
    (lastBest : ∀ g ∈ best, g = f ∨ g.changed < f.changed) : files.foldl later best = some f := by
  induction files generalizing best with
  | nil => exact held.resolve_left List.not_mem_nil
  | cons g files ih =>
    obtain ⟨first, others⟩ := List.forall_mem_cons.1 last
    have newer : ∀ x ∈ later best g, x = f ∨ x.changed < f.changed := by
      intro x hx
      unfold later at hx
      split at hx
      · obtain rfl : g = x := by simpa using hx
        exact first
      · split_ifs at hx
        · obtain rfl : g = x := by simpa using hx
          exact first
        · obtain rfl := Option.mem_some.1 hx
          exact lastBest _ rfl
    refine ih ?_ others newer
    rcases held with mem | rfl
    · rcases List.mem_cons.1 mem with rfl | mem
      · -- nothing before it was changed later, so that it is taken
        rcases best with _ | b
        · exact .inr rfl
        · refine .inr ?_
          rcases lastBest b rfl with rfl | before
          · exact if_neg (Int.lt_irrefl _)
          · exact if_pos before
      · exact .inl mem
    · refine .inr (if_neg fun after => ?_)
      rcases first with rfl | before <;> omega

/-! ### The newest snapshot -/

variable {t t' : FileTree} {directory path : Path} {es : List (Program.Event Host)}

/-- Of the snapshots of a type in a directory, the one at a path was changed last. -/
def IsNewest (t : FileTree) (directory : Path) (type : EventType) (path : Path) : Prop :=
  ∃ entries, t.entries directory = .ok entries ∧ ∃ e ∈ entries, path = directory.child e.name ∧
    IsSnapshotName type e.name ∧
    ∀ e' ∈ entries, IsSnapshotName type e'.name → e' = e ∨ e'.changed < e.changed

lemma looks_entriesLike {ε : Type} {pattern : NamePattern} :
    Uses Looks (Act.entriesLike pattern directory : Act ε _).run := by
  refine uses_run_bind (uses_run_bind (Act.uses_ask trivial) fun x => ?_) fun _ => uses_run_pure
  split <;> exact uses_run_pure

lemma looks_latestArtifact : Uses Looks (latestArtifact directory type.name).run := by
  rw [latestArtifact, artifactPattern_eq]
  rw [Act.orElse_ok_bind]
  refine uses_run_bind (Act.uses_ask trivial) fun x => ?_
  split
  · exact uses_run_throw
  · exact uses_run_throw
  · refine uses_run_bind (uses_run_bind looks_entriesLike fun _ => uses_run_pure) fun files => ?_
    split
    · exact uses_run_pure
    · exact uses_run_throw

lemma runs_entriesLike {ε : Type} {pattern : NamePattern} {entries : List DirectoryEntry}
    {r : Except ε (List DirectoryEntry)} (run : Runs (Act.entriesLike pattern directory).run es r)
    (answers : ∀ e ∈ es, t.Answers e) (held : t.entries directory = .ok entries) :
    r = .ok (entries.filter fun e => pattern.fits e.name.toList) := by
  obtain ⟨y, looked, rfl⟩ := runs_run_map_iff.1 run
  obtain ⟨x, rest, rfl, listed⟩ := Act.runs_ask_bind_iff.1 looked
  have hx : x = t.entries directory := answers _ List.mem_cons_self
  rw [held] at hx
  subst hx
  obtain ⟨-, rfl⟩ := runs_run_pure_iff.1 listed
  rfl

/-- The newest snapshot is found. -/
lemma latestArtifact_eq_of_isNewest {r : Except ArtifactError Path}
    (run : Runs (latestArtifact directory type.name).run es r) (answers : ∀ e ∈ es, t.Answers e)
    (newest : IsNewest t directory type path) : r = .ok path := by
  obtain ⟨entries, held, e, mem, rfl, isName, last⟩ := newest
  rw [latestArtifact, artifactPattern_eq, Act.orElse_ok_bind] at run
  obtain ⟨x, rest, rfl, later⟩ := Act.runs_ask_bind_iff.1 run
  obtain ⟨here, others⟩ := List.forall_mem_cons.1 answers
  have hx : x = t.entries directory := here
  rw [held] at hx
  subst hx
  have found :
    newest? ((entries.filter fun e => (snapshotPattern type).fits e.name.toList).map fun e =>
      (⟨directory.child e.name, e.changed⟩ : Found)) = some (directory.child e.name) := by
    rw [newest?_eq, foldl_later (f := ⟨directory.child e.name, e.changed⟩)]
    · rfl
    · exact .inl (List.mem_map_of_mem (List.mem_filter.2 ⟨mem, fits_snapshotPattern_iff.2 isName⟩))
    · simp only [List.forall_mem_map, List.mem_filter, fits_snapshotPattern_iff]
      rintro e' ⟨mem', isName'⟩
      rcases last e' mem' isName' with rfl | before
      · exact .inl rfl
      · exact .inr before
    · exact nofun
  rcases runs_run_bind_iff.1 later with
    ⟨error, rfl, failed⟩ | ⟨own, rest, files, rfl, searched, last⟩
  · obtain ⟨y, listed, hy⟩ := runs_run_map_iff.1 failed
    rw [runs_entriesLike listed others held] at hy
    cases hy
  · obtain ⟨y, listed, hy⟩ := runs_run_map_iff.1 searched
    rw [runs_entriesLike listed (fun e he => others e (List.mem_append_left _ he)) held] at hy
    obtain rfl := Except.ok.inj hy
    rw [found] at last
    exact (runs_run_pure_iff.1 last).2

/-- If the snapshot under a name was changed after all others, it is the newest. -/
lemma isNewest_of_find? {here : List String} {content : ByteArray} {changed : Int}
    (distinct : t.nodes.keys.Nodup) (located : t.locate directory = .ok here)
    (dir : t.find? here = some .directory) (isName : IsSnapshotName type name)
    (held : t.find? (here ++ [name]) = some (.file content changed))
    (last : ∀ name' node, IsSnapshotName type name' → t.find? (here ++ [name']) = some node →
      name' = name ∨ ∃ content' changed', node = .file content' changed' ∧ changed' < changed) :
    IsNewest t directory type (directory.child name) := by
  have inside {name' : String} (h : IsSnapshotName type name') :
      t.find? (here ++ [name']) = t.nodes.find? (here ++ [name']) :=
    find?_eq_nodes (isAtOrAbove_concat h.notAbove)
  have entries := entries_eq_ok_iff.2 ⟨here, located, dir, rfl⟩
  refine ⟨_, entries, ⟨name, false, changed⟩, ?_, rfl, isName, fun e' mem isName' => ?_⟩
  · exact (mem_entries_iff distinct located entries).2 ⟨_, (inside isName).symm.trans held, rfl⟩
  · obtain ⟨node, found, same⟩ := (mem_entries_iff distinct located entries).1 mem
    rw [← inside isName'] at found
    rcases last e'.name node isName' found with here | ⟨content', changed', rfl, before⟩
    · rw [here, held] at found
      obtain rfl := Option.some.inj found
      rw [here] at same
      exact .inl same
    · rw [same]
      exact .inr before

end Registry
end StakeRegistry
