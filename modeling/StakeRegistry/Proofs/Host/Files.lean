/-
Hosts whose files are those of a tree.

`OnFiles t es t'` says that along the events `es` every question about files was answered from a
tree that was `t` before and is `t'` after them; what the host does otherwise is left open, and its
clock may have gone on before each event. Events that only look at the files are all answered by the
tree as it was (`answers_of_looks`). A file after the events is one that was there before or one
that was written (`file?_of_onFiles`), and where a directory is filled, so is what stands in it
under a name (`Made.along`). What is written is read back (`runs_write_say`).
-/
import StakeRegistry.Proofs.Files.Tree
import StakeRegistry.Proofs.Host.Acts
import StakeRegistry.Proofs.Host.Surroundings

namespace StakeRegistry

open Program

namespace FileTree

variable {t t' t'' : FileTree} {es es' : List (Event Host)} {time : Int}

/-- The tree after an event. -/
def after (t : FileTree) : Event Host → FileTree
  | ⟨.file c, _⟩ => (answer c t).2
  | _ => t

/-- If the event is a question about files, it was answered from the tree. -/
def Answers (t : FileTree) : Event Host → Prop
  | ⟨.file c, x⟩ => x = (answer c t).1
  | _ => True

/-- Along the events the files are those of a tree, which changes with them. -/
inductive OnFiles : FileTree → List (Event Host) → FileTree → Prop where
  | nil (t : FileTree) : OnFiles t [] t
  | cons {t t' : FileTree} {time : Int} {e : Event Host} {es : List (Event Host)}
      (later : t.clock ≤ time) (answers : (t.atTime time).Answers e)
      (rest : OnFiles ((t.atTime time).after e) es t') :
      OnFiles t (e :: es) t'

lemma onFiles_nil_iff : OnFiles t [] t' ↔ t' = t := by
  constructor
  · intro h
    cases h
    rfl
  · rintro rfl
    exact .nil _

lemma onFiles_cons_iff {e : Event Host} : OnFiles t (e :: es) t' ↔ ∃ time, t.clock ≤ time ∧
    (t.atTime time).Answers e ∧ OnFiles ((t.atTime time).after e) es t' := by
  constructor
  · intro h
    cases h with
    | cons later answers rest => exact ⟨_, later, answers, rest⟩
  · rintro ⟨time, later, answers, rest⟩
    exact .cons later answers rest

lemma onFiles_append_iff : OnFiles t (es ++ es') t'' ↔
    ∃ t', OnFiles t es t' ∧ OnFiles t' es' t'' := by
  induction es generalizing t with
  | nil => simp [onFiles_nil_iff]
  | cons e es ih =>
    simp only [List.cons_append, onFiles_cons_iff, ih]
    constructor
    · rintro ⟨time, later, answers, t', rest, next⟩
      exact ⟨t', ⟨time, later, answers, rest⟩, next⟩
    · rintro ⟨t', ⟨time, later, answers, rest⟩, next⟩
      exact ⟨time, later, answers, t', rest, next⟩

lemma OnFiles.makeDirectory {p : Path} (h : t.makeDirectory p = (t', .ok ())) :
    OnFiles t [⟨.file (.makeDirectory p), (.ok () : Except FileError Unit)⟩] t' := by
  have made :
    (t.atTime t.clock).after ⟨.file (.makeDirectory p), (.ok () : Except FileError Unit)⟩ = t' :=
    congrArg Prod.fst h
  refine .cons (Int.le_refl _) (congrArg Prod.snd h).symm ?_
  rw [made]
  exact .nil t'

lemma OnFiles.write {p : Path} {text : String} (h : t.write p text.toUTF8 t.clock = .ok t') :
    OnFiles t [⟨.file (.write p text), (.ok () : Except FileError Unit)⟩] t' := by
  have wrote : answer (.write p text) t = ((.ok () : Except FileError Unit), t') := by
    rw [answer, h]
    rfl
  have written :
    (t.atTime t.clock).after ⟨.file (.write p text), (.ok () : Except FileError Unit)⟩ = t' :=
    congrArg Prod.snd wrote
  refine .cons (Int.le_refl _) (congrArg Prod.fst wrote).symm ?_
  rw [written]
  exact .nil t'

/-! ### Looking at files -/

/-- The call leaves the files as they are. -/
def Looks : Host.Call → Prop
  | .file (.write _ _) => False
  | .file (.makeDirectory _) => False
  | _ => True

/-- The call is not about files. -/
def NotOnFiles : Host.Call → Prop
  | .file _ => False
  | _ => True

lemma NotOnFiles.looks {c : Host.Call} (h : NotOnFiles c) : Looks c := by
  rcases c with _ | _ | _ | _ | _ | _ | _ | _ | c | _ | _
  case file => exact absurd h id
  all_goals trivial

/-- The call neither leaves the machine nor changes its files. -/
def IsLocal : Host.Call → Prop
  | .file (.write _ _) => False
  | .file (.makeDirectory _) => False
  | .node _ => False
  | .web _ => False
  | _ => True

lemma IsLocal.looks {c : Host.Call} (h : IsLocal c) : Looks c := by
  cases c with
  | file c =>
    cases c with
    | write p text => exact absurd h id
    | makeDirectory p => exact absurd h id
    | _ => trivial
  | _ => trivial

lemma answers_of_notOnFiles {e : Event Host} (h : NotOnFiles e.1) : t.Answers e := by
  obtain ⟨c, x⟩ := e
  rcases c with _ | _ | _ | _ | _ | _ | _ | _ | c | _ | _
  case file => exact absurd h id
  all_goals trivial

lemma after_of_looks {e : Event Host} (looks : Looks e.1) : t.after e = t := by
  obtain ⟨c, x⟩ := e
  rcases c with _ | _ | _ | _ | _ | _ | _ | _ | c | _ | _
  case file => cases c <;> first | rfl | exact absurd looks id
  all_goals rfl

/-- The time does not matter for what is seen. -/
lemma answers_atTime_of_looks {e : Event Host} (looks : Looks e.1) :
    (t.atTime time).Answers e ↔ t.Answers e := by
  obtain ⟨c, x⟩ := e
  rcases c with _ | _ | _ | _ | _ | _ | _ | _ | c | _ | _
  case file =>
    cases c with
    | isThere p => rw [Answers, Answers, answer, answer, isThere, isThere, locate_atTime]; rfl
    | read p => rw [Answers, Answers, answer, answer, read_atTime]
    | entries p => rw [Answers, Answers, answer, answer, entries_atTime]
    | write p text => exact absurd looks id
    | makeDirectory p => exact absurd looks id
    | workingDirectory => exact Iff.rfl
    | programDirectory => exact Iff.rfl
  all_goals exact Iff.rfl

/-- Events that only look at the files are answered by the tree as it was, and leave it. -/
lemma answers_of_looks (files : OnFiles t es t') (looks : ∀ e ∈ es, Looks e.1) :
    (∀ e ∈ es, t.Answers e) ∧ ∃ time, t.clock ≤ time ∧ t' = t.atTime time := by
  induction files with
  | nil t => exact ⟨List.forall_mem_nil _, t.clock, Int.le_refl _, rfl⟩
  | @cons t t' time e es later answers rest ih =>
    obtain ⟨look, looks⟩ := List.forall_mem_cons.1 looks
    rw [after_of_looks look] at ih
    obtain ⟨answered, time', later', rfl⟩ := ih looks
    refine ⟨List.forall_mem_cons.2 ⟨(answers_atTime_of_looks look).1 answers, fun x hx => ?_⟩,
      time', Int.le_trans later later', rfl⟩
    exact (answers_atTime_of_looks (looks x hx)).1 (answered x hx)

lemma onFiles_of_looks (looks : ∀ e ∈ es, Looks e.1) (answers : ∀ e ∈ es, t.Answers e) :
    OnFiles t es t := by
  induction es with
  | nil => exact .nil t
  | cons e es ih =>
    obtain ⟨look, looks⟩ := List.forall_mem_cons.1 looks
    obtain ⟨answer, answers⟩ := List.forall_mem_cons.1 answers
    refine .cons (Int.le_refl _) answer ?_
    rw [after_of_looks look]
    exact ih looks answers

/-! ### What is written -/

/-- The text that an event has written to a file, with its path. -/
def writtenBy : Event Host → Option (Path × String)
  | ⟨.file (.write path text), x⟩ =>
    match (x : Except FileError Unit) with
    | .ok () => some (path, text)
    | .error _ => none
  | _ => none

/-- The texts that were written to files, with their paths. -/
def written (es : List (Event Host)) : List (Path × String) :=
  es.filterMap writtenBy

lemma written_append : written (es ++ es') = written es ++ written es' :=
  List.filterMap_append

lemma written_of_looks (looks : ∀ e ∈ es, Looks e.1) : written es = [] := by
  refine List.filterMap_eq_nil_iff.2 fun e he => ?_
  have look := looks e he
  obtain ⟨c, x⟩ := e
  rcases c with _ | _ | _ | _ | _ | _ | _ | _ | c | _ | _
  case file => cases c <;> first | rfl | exact absurd look id
  all_goals rfl

/-- What an event does to the tree: it writes a text, makes a directory or leaves the tree. -/
lemma after_cases {e : Event Host} (answers : t.Answers e) :
    (∃ p text, e.1 = .file (.write p text) ∧ writtenBy e = some (p, text) ∧
      t.write p text.toUTF8 t.clock = .ok (t.after e)) ∨
    (∃ p, e.1 = .file (.makeDirectory p) ∧ writtenBy e = none ∧ t.after e = (t.makeDirectory p).1) ∨
    (writtenBy e = none ∧ t.after e = t) := by
  obtain ⟨c, x⟩ := e
  rcases c with _ | _ | _ | _ | _ | _ | _ | _ | c | _ | _
  case file =>
    cases c with
    | write p text =>
      have hx : x = (answer (.write p text) t).1 := answers
      rcases done : t.write p text.toUTF8 t.clock with error | t'
      · have failed : x = (Except.error error : Except FileError Unit) := by rw [hx, answer, done]
        refine .inr (.inr ⟨by rw [failed]; rfl, ?_⟩)
        rw [after, answer, done]
      · have wrote : x = (Except.ok () : Except FileError Unit) := by rw [hx, answer, done]
        refine .inl ⟨p, text, rfl, by rw [wrote]; rfl, ?_⟩
        rw [after, answer, done]
    | makeDirectory p => exact .inr (.inl ⟨p, rfl, rfl, rfl⟩)
    | isThere | read | entries | workingDirectory | programDirectory => exact .inr (.inr ⟨rfl, rfl⟩)
  all_goals exact .inr (.inr ⟨rfl, rfl⟩)

/-- After a write the file holds the text. -/
lemma read_of_onFiles_write {p : Path} {text : String}
    (files : OnFiles t [⟨.file (.write p text), (.ok () : Except FileError Unit)⟩] t') :
    t'.read p = .ok text.toUTF8 := by
  obtain ⟨time, -, answers, rest⟩ := onFiles_cons_iff.1 files
  obtain rfl := onFiles_nil_iff.1 rest
  rcases after_cases answers with ⟨p', text', call, -, wrote⟩ | ⟨p', call, -⟩ | ⟨silent, -⟩
  · cases call
    exact read_of_write wrote
  · cases call
  · cases silent

/-- A text is written and then a line is told, unless the file is refused. -/
lemma runs_write_say {ε : Type} {refusal : FileError → ε} {p : Path} {text line : String}
    {r : Except ε Unit}
    (run : Runs (Act.ask (.file (.write p text)) >>= fun x =>
      Act.orElse refusal x >>= fun _ => Act.say line : Act ε Unit).run es r)
        (files : OnFiles t es t') :
    (r = .ok () ∧ t'.read p = .ok text.toUTF8 ∧ es.getLast? = some ⟨.say line, ()⟩) ∨
      ∃ f, r = .error (refusal f) ∧ es =
        [⟨.file (.write p text), (.error f : Except FileError Unit)⟩] := by
  obtain ⟨x, rest, rfl, written⟩ := Act.runs_ask_bind_iff.1 run
  cases x with
  | error f =>
    rw [Act.orElse_error_bind] at written
    obtain ⟨rfl, rfl⟩ := runs_run_throw_iff.1 written
    exact .inr ⟨f, rfl, rfl⟩
  | ok =>
    obtain ⟨⟨⟩, rfl, rfl⟩ := Act.runs_ask_iff.1 written
    change OnFiles t ([_] ++ [_]) t' at files
    obtain ⟨between, writing, after⟩ := onFiles_append_iff.1 files
    obtain ⟨time, -, -, ended⟩ := onFiles_cons_iff.1 after
    obtain rfl := onFiles_nil_iff.1 ended
    refine .inl ⟨rfl, ?_, rfl⟩
    change (between.atTime time).read p = _
    rw [read_atTime, read_of_onFiles_write writing]

lemma clock_after {e : Event Host} (answers : t.Answers e) : (t.after e).clock = t.clock := by
  rcases after_cases answers with ⟨p, text, -, -, wrote⟩ | ⟨p, -, -, made⟩ | ⟨-, same⟩
  · obtain ⟨parts, -, -, after⟩ := write_eq_ok_iff.1 wrote
    rw [after]
    rfl
  · rw [made, addsDirectories_makeDirectory.clock]
  · rw [same]

/-- Each key stands once as before. -/
lemma distinct_after {e : Event Host} (answers : t.Answers e) (distinct : t.nodes.keys.Nodup) :
    (t.after e).nodes.keys.Nodup := by
  rcases after_cases answers with ⟨p, text, -, -, wrote⟩ | ⟨p, -, -, made⟩ | ⟨-, same⟩
  · obtain ⟨parts, -, -, after⟩ := write_eq_ok_iff.1 wrote
    rw [after]
    exact Keyed.nodup_keys_put distinct
  · rw [made]
    exact addsDirectories_makeDirectory.distinct distinct
  · rwa [same]

lemma keeps_after {e : Event Host} (answers : t.Answers e) : Keeps t (t.after e) := by
  rcases after_cases answers with ⟨p, text, -, -, wrote⟩ | ⟨p, -, -, made⟩ | ⟨-, same⟩
  · obtain ⟨parts, -, file, after⟩ := write_eq_ok_iff.1 wrote
    rw [after]
    exact keeps_putNode file
  · rw [made]
    exact addsDirectories_makeDirectory.keeps
  · rw [same]
    exact (AddsDirectories.refl t).keeps

lemma clock_le_of_onFiles (files : OnFiles t es t') : t.clock ≤ t'.clock := by
  induction files with
  | nil t => exact Int.le_refl _
  | @cons t t' time e es later answers rest ih =>
    rw [clock_after answers] at ih
    exact Int.le_trans later ih

lemma distinct_of_onFiles (files : OnFiles t es t') (distinct : t.nodes.keys.Nodup) :
    t'.nodes.keys.Nodup := by
  induction files with
  | nil t => exact distinct
  | cons later answers rest ih => exact ih (distinct_after answers distinct)

lemma keeps_of_onFiles (files : OnFiles t es t') : Keeps t t' := by
  induction files with
  | nil t => exact (AddsDirectories.refl t).keeps
  | cons later answers rest ih =>
    have step := keeps_after answers
    exact ⟨fun dir => ih.directory (step.directory dir), ih.working.trans step.working⟩

/-- A file after some events is one that was there, or one that was written. -/
lemma file?_of_onFiles (files : OnFiles t es t') (parts : List String) :
    t'.file? parts = t.file? parts ∨ ∃ path text time, (path, text) ∈ written es ∧
      t'.locate path = .ok parts ∧ t'.file? parts = some (text.toUTF8, time) := by
  induction files with
  | nil t => exact .inl rfl
  | @cons t t' time e es later answers rest ih =>
    rcases ih with same | ⟨path, text, time, mem, located, file⟩
    · rw [same]
      rcases after_cases answers with ⟨p, text, -, wrote, done⟩ | ⟨p, -, -, made⟩ | ⟨-, idle⟩
      · obtain ⟨at', located, file, after⟩ := write_eq_ok_iff.1 done
        have now : ((t.atTime time).after e).file? parts =
            if at' = parts then some (text.toUTF8, time) else (t.atTime time).file? parts := by
          rw [after, file?_putNode (isAtOrAbove_of_find? file)]
          rfl
        split_ifs at now with here
        · subst here
          refine .inr ⟨p, text, _, ?_, ?_, now⟩
          · rw [written, List.filterMap_cons, wrote]
            exact List.mem_cons_self
          · have keeps := keeps_of_onFiles rest
            exact locate_of_keeps keeps (locate_of_keeps (keeps_after answers) located)
        · exact .inl now
      · rw [made, addsDirectories_makeDirectory.file?_eq]
        exact .inl rfl
      · rw [idle]
        exact .inl rfl
    · refine .inr ⟨path, text, time, ?_, located, file⟩
      rw [written, List.filterMap_cons]
      split
      · exact mem
      · exact List.mem_cons_of_mem _ mem

/-! ### Storing in a directory -/

/-- The tree `t'` is `t` once the directory is made, which then stands at `here`. -/
structure Made (t : FileTree) (directory : Path) (here : List String) (t' : FileTree) : Prop where
  made : t.makeDirectory directory = (t', .ok ())
  located : t'.locate directory = .ok here

/-- The call changes the files only in one directory, which it may make. -/
def StoresIn (directory : Path) : Host.Call → Prop
  | .file (.write path _) => ∃ name, IsFileName name ∧ path = directory.child name
  | .file (.makeDirectory path) => path = directory
  | _ => True

lemma NotOnFiles.storesIn {directory : Path} {c : Host.Call} (h : NotOnFiles c) :
    StoresIn directory c := by
  rcases c with _ | _ | _ | _ | _ | _ | _ | _ | c | _ | _
  case file => exact absurd h id
  all_goals trivial

namespace Made

variable {directory : Path} {here : List String} {made made' : FileTree}

lemma isDirectory (h : Made t directory here made) : made.find? here = some .directory := by
  obtain ⟨here', located, dir⟩ := isDirectory_makeDirectory h.made
  obtain rfl : here' = here := Except.ok.inj (located.symm.trans h.located)
  exact dir

lemma self (located : t.locate directory = .ok here) (dir : t.find? here = some .directory) :
    Made t directory here t :=
  ⟨makeDirectory_of_isDirectory located dir, located⟩

/-- A directory that is there is not changed by making it. -/
lemma eq_self (h : Made t directory here made) {inner : List String}
    (located : t.locate directory = .ok inner) (dir : t.find? inner = some .directory) :
    made = t ∧ inner = here := by
  have same := h.made
  rw [makeDirectory_of_isDirectory located dir] at same
  obtain rfl : t = made := (Prod.mk.inj same).1
  exact ⟨rfl, Except.ok.inj (located.symm.trans h.located)⟩

lemma of_atTime (h : Made (t.atTime time) directory here made) :
    Made t directory here (made.atTime t.clock) := by
  have same := h.made
  rw [makeDirectory_atTime] at same
  obtain ⟨rfl, done⟩ := Prod.mk.inj same
  have clock := (addsDirectories_makeDirectory (t := t) (p := directory)).clock
  refine ⟨Prod.ext ?_ done, by rw [locate_atTime, h.located]⟩
  rw [← clock]
  rfl

lemma atTime (h : Made t directory here made) :
    Made (t.atTime time) directory here (made.atTime time) := by
  refine ⟨?_, by rw [locate_atTime, h.located]⟩
  rw [makeDirectory_atTime, h.made]

lemma adds (h : Made t directory here made) : AddsDirectories t made := by
  have adds := addsDirectories_makeDirectory (t := t) (p := directory)
  rwa [h.made] at adds

/-- One event leaves under a name what was there, unless it writes a text there. -/
lemma step {e : Event Host} (h : Made t directory here made) (answers : t.Answers e)
    (stores : StoresIn directory e.1) : ∃ made', Made (t.after e) directory here made' ∧
      ∀ name, (∀ text, IsFileName name → writtenBy e ≠ some (directory.child name, text)) ∧
          made'.find? (here ++ [name]) = made.find? (here ++ [name]) ∨
        ∃ text, IsFileName name ∧ writtenBy e = some (directory.child name, text) ∧
          made'.find? (here ++ [name]) = some (.file text.toUTF8 t.clock) := by
  obtain ⟨c, x⟩ := e
  rcases after_cases answers with
    ⟨p, text, rfl, wrote, done⟩ | ⟨p, rfl, silent, after⟩ | ⟨silent, after⟩
  · obtain ⟨name, isName, rfl⟩ := stores
    obtain ⟨parts, located, file, after⟩ := write_eq_ok_iff.1 done
    obtain ⟨inner, directoryAt, dir, rfl⟩ := locate_child isName located file
    obtain ⟨rfl, rfl⟩ := h.eq_self directoryAt dir
    have keeps := keeps_after answers
    refine ⟨_, self (locate_of_keeps keeps directoryAt) (keeps.directory dir), fun other => ?_⟩
    rw [after, find?_putNode (isAtOrAbove_of_find? file), wrote]
    by_cases same : name = other
    · subst same
      exact .inr ⟨text, isName, rfl, if_pos rfl⟩
    · refine .inl ⟨fun text' isOther h' => same ?_, if_neg fun h' => same (by simpa using h')⟩
      exact (Path.child_inj isName isOther).1 (Prod.mk.inj (Option.some.inj h')).1
  · have there : t.after ⟨.file (.makeDirectory p), x⟩ = made := by
      rw [after, show p = directory from stores, h.made]
    rw [there]
    exact ⟨made, self h.located h.isDirectory, fun _ => .inl ⟨by simp [silent], rfl⟩⟩
  · rw [after]
    exact ⟨made, h, fun _ => .inl ⟨by simp [silent], rfl⟩⟩

/-- Under a name stands what was there before the events, or a text that was written among them. -/
theorem along (h : Made t directory here made) (files : OnFiles t es t')
    (stores : ∀ e ∈ es, StoresIn directory e.1) : ∃ made', Made t' directory here made' ∧
      ∀ name, (∀ text, IsFileName name → (directory.child name, text) ∉ written es) ∧
          made'.find? (here ++ [name]) = made.find? (here ++ [name]) ∨
        ∃ text time, IsFileName name ∧ (directory.child name, text) ∈ written es ∧
          (t.clock ≤ time ∧ time ≤ t'.clock) ∧
          made'.find? (here ++ [name]) = some (.file text.toUTF8 time) := by
  induction files generalizing made with
  | nil t => exact ⟨made, h, fun _ => .inl ⟨fun _ _ => List.not_mem_nil, rfl⟩⟩
  | @cons t t' time e es later answers rest ih =>
    obtain ⟨first, others⟩ := List.forall_mem_cons.1 stores
    obtain ⟨between, hbetween, own⟩ := h.atTime.step answers first
    obtain ⟨made', hmade', seen⟩ := ih hbetween others
    have ends := clock_le_of_onFiles rest
    rw [clock_after answers] at ends seen
    have mem {w : Path × String} : w ∈ written (e :: es) ↔
      writtenBy e = some w ∨ w ∈ written es := by
      cases he : writtenBy e <;> simp [written, he, eq_comm]
    refine ⟨made', hmade', fun name => ?_⟩
    simp only [mem]
    rcases seen name with ⟨quiet, same⟩ | ⟨text, time', isName, wrote, ⟨start, stop⟩, file⟩
    · rcases own name with ⟨silent, still⟩ | ⟨text, isName, wrote, file⟩
      · exact .inl ⟨fun text isName => not_or.2 ⟨silent text isName, quiet text isName⟩,
          same.trans still⟩
      · exact .inr ⟨text, time, isName, .inl wrote, ⟨later, ends⟩, same.trans file⟩
    · exact .inr ⟨text, time', isName, .inr wrote, ⟨Int.le_trans later start, stop⟩, file⟩

/-- A directory in which something was written is there. -/
lemma of_written {name text : String} (files : OnFiles t es t') (isName : IsFileName name)
    (mem : (directory.child name, text) ∈ written es) : ∃ here, Made t' directory here t' ∧
      t'.locate (directory.child name) = .ok (here ++ [name]) := by
  induction files with
  | nil t => exact absurd mem List.not_mem_nil
  | @cons t t' time e es later answers rest ih =>
    rcases hw : writtenBy e with _ | w
    · rw [written, List.filterMap_cons_none hw] at mem
      exact ih mem
    · rw [written, List.filterMap_cons_some hw] at mem
      rcases List.mem_cons.1 mem with rfl | mem
      · rcases after_cases answers with ⟨p, text', -, wrote, done⟩ | ⟨p, -, silent, -⟩ | ⟨silent, -⟩
        · obtain ⟨rfl, rfl⟩ := Prod.mk.inj (Option.some.inj (wrote.symm.trans hw))
          obtain ⟨parts, located, file, after⟩ := write_eq_ok_iff.1 done
          obtain ⟨here, directoryAt, dir, rfl⟩ := locate_child isName located file
          have first := keeps_after answers
          have others := keeps_of_onFiles rest
          exact ⟨here, self (locate_of_keeps others (locate_of_keeps first directoryAt))
            (others.directory (first.directory dir)),
            locate_of_keeps others (locate_of_keeps first located)⟩
        · rw [silent] at hw
          cases hw
        · rw [silent] at hw
          cases hw
      · exact ih mem

/-- The one text that was written under a name is read there. -/
lemma read_of_written {name text : String} (h : Made t directory here made)
    (files : OnFiles t es t') (stores : ∀ e ∈ es, StoresIn directory e.1) (isName : IsFileName name)
    (mem : (directory.child name, text) ∈ written es)
    (once : ∀ text', (directory.child name, text') ∈ written es → text' = text) :
    t'.read (directory.child name) = .ok text.toUTF8 := by
  obtain ⟨made', hmade', seen⟩ := h.along files stores
  obtain ⟨inner, there, located⟩ := of_written files isName mem
  obtain ⟨rfl, rfl⟩ := hmade'.eq_self there.located there.isDirectory
  rcases seen name with ⟨quiet, -⟩ | ⟨text', time, -, wrote, -, file⟩
  · exact absurd mem (quiet text isName)
  · rw [once text' wrote] at file
    exact read_eq_ok_iff.2 ⟨_, time, located, file⟩

end Made

end FileTree

/-! ### A host on a tree -/

/-- A host whose files are those of a tree at one time, and whose node answers each question
alike. -/
def Host.onTree (node : (c : NodeCall) → c.Answer) :
    (c : Host.Call) → FileTree → Host.Answer c × FileTree
  | .file c, t => FileTree.answer c t
  | .node c, t => (node c, t)
  | c, t => (Host.offline c, t)

open FileTree in
lemma onFiles_trace {α : Type} (node : (c : NodeCall) → c.Answer) (p : Program Host α)
    (t : FileTree) :
    OnFiles t (p.trace (Host.onTree node) t) (p.run (Host.onTree node) t).2 := by
  induction p generalizing t with
  | done a => exact .nil t
  | ask c next ih =>
    refine .cons (Int.le_refl _) ?_ ?_
    · rcases c with _ | _ | _ | _ | _ | _ | _ | _ | c | _ | _
      case file => rfl
      all_goals trivial
    · have same :
        (t.atTime t.clock).after ⟨c, (Host.onTree node c t).1⟩ = (Host.onTree node c t).2 := by
        rcases c with _ | _ | _ | _ | _ | _ | _ | _ | c | _ | _ <;> rfl
      rw [same]
      exact ih _ _

end StakeRegistry
