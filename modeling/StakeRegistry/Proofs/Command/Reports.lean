/-
Reports are written as a whole or not at all.

A report is gathered from the chain, from web services and from tables in files, and only then is
its output written:

* `Publishes output? p`: the act `p` leaves the files as they are if it fails; if it succeeds, all
  of its questions were served and it has written its output and nothing else (`publishes_bind`,
  `publishes_write`);
* `Report.Admits`: what a report requires of the tables that it reads and of the versions of the
  pages that it asks for.

The main statement is `report_intact`: a report fails if anything that it asks for or reads is not
of use, at whatever place, and a report that fails leaves all files as they were.
-/
import StakeRegistry.Command.MissedSlots
import StakeRegistry.Command.OptedInSlots
import StakeRegistry.Command.OptedInValidators
import StakeRegistry.Proofs.Command.Gathering
import StakeRegistry.Proofs.Command.KeyFiles

namespace StakeRegistry.Command

open FileTree Program Registry

/-! ### Acts that publish -/

section Acts

variable {ε ε' α : Type} {t t' : FileTree} {es : List (Program.Event Host)} {output? : Option Path}

/-- How the files differ once an act has written its output, which may be none. -/
inductive Wrote (t t' : FileTree) : Option Path → Prop where
  /-- There is no output, and all files are as they were. -/
  | nothing (same : t' = t.atTime t'.clock) : Wrote t t' none
  /-- A file was put at the place of the output, where no directory was, and nothing else was
  changed. -/
  | file {path : Path} {parts : List String} {text : String} {time : Int}
      (located : t.locate path = .ok parts) (free : t.find? parts ≠ some .directory)
      (put : t' = (t.putNode parts (.file text.toUTF8 time)).atTime t'.clock)
      (others : ∀ other, other ≠ parts → t'.find? other = t.find? other) : Wrote t t' (some path)

/-- The files after an act with one output. -/
structure Ends (output? : Option Path) (t t' : FileTree) (r : Except ε Unit) : Prop where
  kept : ∀ e, r = .error e → t' = t.atTime t'.clock
  written : r = .ok () → Wrote t t' output?

/-- The act has one output at most, which it writes once everything that it asks for is served. -/
structure Publishes (output? : Option Path) (p : Act ε Unit) : Prop where
  ends : ∀ t es t' r, Runs p.run es r → OnFiles t es t' → Ends output? t t' r
  served : ∀ es, Runs p.run es (.ok ()) → ∀ e ∈ es, Served e

lemma Wrote.of_atTime {time : Int} (h : Wrote (t.atTime time) t' output?) : Wrote t t' output? := by
  cases h with
  | nothing same => exact .nothing same
  | file located free put others =>
    rw [locate_atTime] at located
    exact .file located free put others

lemma wrote_of_write {path : Path} {text : String} {changed time : Int}
    (h : t.write path text.toUTF8 changed = .ok t') : Wrote t (t'.atTime time) (some path) := by
  obtain ⟨parts, located, free, rfl⟩ := write_eq_ok_iff.1 h
  refine .file located free rfl fun other ne => ?_
  have inside := isAtOrAbove_of_find? free
  exact (find?_putNode inside).trans (if_neg ne.symm)

lemma Ends.of_atTime {r : Except ε Unit} {time : Int} (h : Ends output? (t.atTime time) t' r) :
    Ends output? t t' r :=
  ⟨h.kept, fun done => (h.written done).of_atTime⟩

/-- Where the files are only looked at, they are as they were. -/
lemma eq_atTime_of_looks {p : Program Host α} {a : α} (looks : Uses Looks p) (run : Runs p es a)
    (files : OnFiles t es t') : t' = t.atTime t'.clock := by
  obtain ⟨-, time, -, rfl⟩ := answers_of_looks files (allowed_of_runs looks run)
  rfl

/-- An act that only gathers has no output. -/
lemma publishes_of_gathers {p : Act ε Unit} (h : Gathers p) : Publishes none p where
  ends t es t' r run files := by
    have same := eq_atTime_of_looks h.looks run files
    exact ⟨fun _ _ => same, fun _ => .nothing same⟩
  served es run := h.served es () run

lemma publishes_throw {e : ε} : Publishes output? (throw e : Act ε Unit) where
  ends t es t' r run files := by
    obtain ⟨rfl, rfl⟩ := runs_run_throw_iff.1 run
    obtain rfl := onFiles_nil_iff.1 files
    exact ⟨fun _ _ => rfl, nofun⟩
  served es run := by cases (runs_run_throw_iff.1 run).2

/-- What is gathered first does not touch the output, and nothing is written unless it is all
there. -/
lemma publishes_bind {p : Act ε α} {f : α → Act ε Unit} (first : Gathers p)
    (rest : ∀ a, Publishes output? (f a)) : Publishes output? (p >>= f) where
  ends t es t' r run files := by
    rcases runs_run_bind_iff.1 run with ⟨e, rfl, failed⟩ | ⟨own, later, a, rfl, gathered, next⟩
    · exact ⟨fun _ _ => eq_atTime_of_looks first.looks failed files, nofun⟩
    · obtain ⟨between, looking, writing⟩ := onFiles_append_iff.1 files
      rw [eq_atTime_of_looks first.looks gathered looking] at writing
      exact ((rest a).ends _ _ _ _ next writing).of_atTime
  served es run := by
    obtain ⟨own, later, a, rfl, gathered, next⟩ := runs_run_bind_ok_iff.1 run
    exact List.forall_mem_append.2 ⟨first.served _ _ gathered, (rest a).served _ next⟩

lemma publishes_guard {c : Prop} [Decidable c] {e : ε} {f : Unit → Act ε Unit}
    (h : Publishes output? (f ())) :
    Publishes output? (if c then throw e >>= f else f ()) := by
  split
  · exact publishes_throw
  · exact h

lemma publishes_withError {f : ε' → ε} {p : Act ε' Unit} (h : Publishes output? p) :
    Publishes output? (Act.withError f p) where
  ends t es t' r run files := by
    obtain ⟨x, ran, rfl⟩ := Act.runs_withError_iff.1 run
    have ended := h.ends _ _ _ _ ran files
    refine ⟨fun e failed => ?_, fun done => ended.written (mapError_eq_ok_iff.1 done)⟩
    obtain ⟨e', failed, -⟩ := mapError_eq_error_iff.1 failed
    exact ended.kept e' failed
  served es run := by
    obtain ⟨x, ran, ended⟩ := Act.runs_withError_iff.1 run
    obtain rfl := mapError_eq_ok_iff.1 ended.symm
    exact h.served _ ran

/-- A text that is written in one go is the whole output: once it is there, only a line is told. -/
lemma publishes_write {refusal : FileError → ε} {path : Path} {text line : String} :
    Publishes (some path) (Act.ask (.file (.write path text)) >>= fun x =>
      Act.orElse refusal x >>= fun _ => Act.say line : Act ε Unit) where
  ends t es t' r run files := by
    obtain ⟨x, rest, rfl, next⟩ := Act.runs_ask_bind_iff.1 run
    obtain ⟨time, -, answers, restFiles⟩ := onFiles_cons_iff.1 files
    cases x with
    | error f =>
      obtain ⟨rfl, rfl⟩ := runs_run_throw_iff.1 next
      obtain rfl := onFiles_nil_iff.1 restFiles
      refine ⟨fun _ _ => ?_, nofun⟩
      rcases after_cases answers with ⟨p, text', -, wrote, -⟩ | ⟨p, call, -⟩ | ⟨-, same⟩
      · cases wrote
      · cases call
      · rw [same]
        rfl
    | ok =>
      obtain ⟨⟨⟩, rfl, rfl⟩ := Act.runs_ask_iff.1 next
      obtain ⟨time', -, -, ended⟩ := onFiles_cons_iff.1 restFiles
      obtain rfl := onFiles_nil_iff.1 ended
      refine ⟨nofun, fun _ => ?_⟩
      rcases after_cases answers with ⟨p, text', call, -, wrote⟩ | ⟨p, call, -⟩ | ⟨silent, -⟩
      · cases call
        exact (wrote_of_write wrote).of_atTime
      · cases call
      · cases silent
  served es run := by
    obtain ⟨x, rest, rfl, next⟩ := Act.runs_ask_bind_iff.1 run
    obtain ⟨-, -, said⟩ := Act.runs_orElse_bind_ok_iff.1 next
    obtain ⟨⟨⟩, rfl, -⟩ := Act.runs_ask_iff.1 said
    exact List.forall_mem_cons.2 ⟨trivial, List.forall_mem_singleton.2 trivial⟩

end Acts

/-! ### Versions -/

/-- The version that was told with the number of keys. -/
def countVersion? : Program.Event Host → Option Json.Value
  | ⟨.node (.stakedCount _), x⟩ =>
    match (x : Except Fault (Json.Value × Json.Value)) with
    | .ok (_, version) => some version
    | .error _ => none
  | _ => none

/-- The version that was told with a page of keys. -/
def pageVersion? : Program.Event Host → Option Json.Value
  | ⟨.node (.stakedPage _ _ _), x⟩ =>
    match (x : Except Fault (List Bytes × Json.Value)) with
    | .ok (_, version) => some version
    | .error _ => none
  | _ => none

/-- The versions that were told with the number of keys. -/
def countVersions (es : List (Program.Event Host)) : List Json.Value :=
  es.filterMap countVersion?

/-- The versions that were told with the pages of keys. -/
def pageVersions (es : List (Program.Event Host)) : List Json.Value :=
  es.filterMap pageVersion?

section Versions

variable {es es' : List (Program.Event Host)} {registry : String} {size count version first : Int}
  {keys : List String}

lemma countVersions_append : countVersions (es ++ es') = countVersions es ++ countVersions es' :=
  List.filterMap_append

lemma pageVersions_append : pageVersions (es ++ es') = pageVersions es ++ pageVersions es' :=
  List.filterMap_append

/-- The call asks nothing about the keys of the registry. -/
def IsKeyless (c : Host.Call) : Prop :=
  ¬ AsksForKeys c

/-- No version is told where nothing is asked about the keys. -/
lemma versions_of_keyless (h : ∀ e ∈ es, IsKeyless e.1) :
    countVersions es = [] ∧ pageVersions es = [] := by
  refine ⟨List.filterMap_eq_nil_iff.2 fun e mem => ?_, List.filterMap_eq_nil_iff.2 fun e mem => ?_⟩
  all_goals
    have keyless := h e mem
    obtain ⟨c, x⟩ := e
    cases c with
    | node c =>
      cases c with
      | stakedCount | stakedPage => exact absurd trivial keyless
      | _ => rfl
    | _ => rfl

lemma isKeyless_of_isOpening {c : Host.Call} (h : IsOpening c) : IsKeyless c := by
  cases c with
  | node c =>
    cases c with
    | stakedCount | stakedPage => exact absurd h id
    | _ => exact id
  | _ => exact id

/-- The pages of a query have the version that they are asked for. -/
lemma versions_of_runs_stakedPages {left : Nat}
    (run : Runs (stakedPages registry size count version first left).run es (.ok keys)) :
    countVersions es = [] ∧ ∀ v ∈ pageVersions es, v.toInteger = .ok version := by
  induction left generalizing first es keys with
  | zero =>
    obtain ⟨rfl, -⟩ := runs_run_pure_iff.1 run
    exact ⟨rfl, List.forall_mem_nil _⟩
  | succ left ih =>
    rw [stakedPages] at run
    obtain ⟨x, rest, rfl, answered⟩ := Act.runs_ask_bind_iff.1 run
    obtain ⟨⟨page, told⟩, rfl, next⟩ := Act.runs_orElse_bind_ok_iff.1 answered
    obtain ⟨v, read, next⟩ := Act.runs_orElse_bind_ok_iff.1 next
    obtain ⟨same, next⟩ := runs_run_guard_ok_iff.1 next
    obtain ⟨later, others, -⟩ := runs_run_map_ok_iff.1 next
    obtain ⟨uncounted, pages⟩ := ih others
    have own : told.toInteger = .ok version := by rw [read, not_not.1 same]
    exact ⟨uncounted, List.forall_mem_cons.2 ⟨own, pages⟩⟩

lemma versions_of_runs_stakedCount {counted : Int × Int}
    (run : Runs (stakedCount registry).run es (.ok counted)) :
    ∃ told, countVersions es = [told] ∧ pageVersions es = [] ∧ told.toInteger = .ok counted.2 := by
  obtain ⟨x, rest, rfl, answered⟩ := Act.runs_ask_bind_iff.1 run
  obtain ⟨⟨n, told⟩, rfl, next⟩ := Act.runs_orElse_bind_ok_iff.1 answered
  obtain ⟨number, -, next⟩ := Act.runs_orElse_bind_ok_iff.1 next
  obtain ⟨v, read, next⟩ := Act.runs_orElse_bind_ok_iff.1 next
  obtain ⟨rfl, ended⟩ := runs_run_pure_iff.1 next
  cases ended
  exact ⟨told, rfl, rfl, read⟩

/-- All pages have the version of the count before them. -/
lemma versions_of_runs_stakedKeys (run : Runs (stakedKeys registry size).run es (.ok keys)) :
    ∃ told, countVersions es = [told] ∧ ∀ v ∈ pageVersions es, v.toInteger = told.toInteger := by
  obtain ⟨own, rest, counted, rfl, counting, next⟩ := runs_run_bind_ok_iff.1 run
  obtain ⟨told, count, unpaged, read⟩ := versions_of_runs_stakedCount counting
  obtain ⟨-, next⟩ := runs_run_guard_ok_iff.1 next
  obtain ⟨asked, last, keys, rfl, asking, next⟩ := runs_run_bind_ok_iff.1 next
  obtain ⟨uncounted, pages⟩ := versions_of_runs_stakedPages asking
  obtain ⟨-, next⟩ := runs_run_guard_ok_iff.1 next
  obtain ⟨rfl, -⟩ := runs_run_pure_iff.1 next
  rw [List.append_nil, countVersions_append, pageVersions_append, count, unpaged, uncounted]
  exact ⟨told, rfl, fun v mem => (pages v mem).trans read.symm⟩

/-- A query counts the keys twice, and its pages have the version of the second count. -/
lemma versions_of_runs_queryAll (run : Runs (queryAll registry size).run es (.ok keys)) :
    ∃ before told, countVersions es = [before, told] ∧
      ∀ v ∈ pageVersions es, v.toInteger = told.toInteger := by
  obtain ⟨⟨⟩, es₁, rfl, run₁⟩ := Act.runs_ask_bind_iff.1 run
  obtain ⟨⟨⟩, es₂, rfl, run₂⟩ := Act.runs_ask_bind_iff.1 run₁
  obtain ⟨⟨⟩, es₃, rfl, run₃⟩ := Act.runs_ask_bind_iff.1 run₂
  obtain ⟨start, es₄, rfl, run₄⟩ := Act.runs_ask_bind_iff.1 run₃
  obtain ⟨own, es₅, counted, rfl, counting, run₅⟩ := runs_run_bind_ok_iff.1 run₄
  obtain ⟨clock, es₆, rfl, run₆⟩ := Act.runs_ask_bind_iff.1 run₅
  obtain ⟨⟨⟩, es₇, rfl, run₇⟩ := Act.runs_ask_bind_iff.1 run₆
  obtain ⟨asked, es₈, found, rfl, asking, run₈⟩ := runs_run_bind_ok_iff.1 run₇
  obtain ⟨before, count, unpaged, -⟩ := versions_of_runs_stakedCount counting
  obtain ⟨told, count', pages⟩ := versions_of_runs_stakedKeys asking
  have ending : ∀ e ∈ es₈, IsLocal e.1 := by
    refine allowed_of_runs ?_ run₈
    refine uses_run_bind (Act.uses_ask trivial) fun _ =>
      uses_run_bind (Act.uses_ask trivial) fun _ => ?_
    refine uses_run_bind local_sayTail fun _ => uses_run_bind (Act.uses_ask trivial) fun _ => ?_
    exact uses_run_bind (Act.uses_ask trivial) fun _ => uses_run_pure
  obtain ⟨uncounted, unpaged'⟩ := versions_of_keyless fun e mem =>
    isKeyless_of_isOpening (opening_of_isLocal (ending e mem))
  refine ⟨before, told, ?_, ?_⟩
  · change countVersions (own ++ ([_] ++ [_] ++ (asked ++ es₈))) = _
    simp only [countVersions_append, count, count', uncounted]
    rfl
  · change ∀ v ∈ pageVersions (own ++ ([_] ++ [_] ++ (asked ++ es₈))), _
    simp only [pageVersions_append, unpaged, unpaged', List.append_nil]
    exact pages

end Versions

/-! ### The outputs of the reports -/

lemma publishes_writeTable_say {path : Path} {header : List String} {rows : List (List String)}
    {line : String} :
    Publishes (some path) (OptIn.writeTable path header rows >>= fun _ => Act.say line) := by
  rw [OptIn.writeTable, LawfulMonad.bind_assoc]
  exact publishes_write

/-- A command that reports what it found. -/
inductive Report where
  | validators (o : OptedInValidators.Options)
  | slots (o : OptedInSlots.Options)
  | missed (o : MissedSlots.Options)
  | query (o : Query.Options)

namespace Report

variable {report : Report} {t t' : FileTree} {es : List (Program.Event Host)}
  {r : Except Failure Unit}

/-- What the command does. -/
def run : Report → Act Failure Unit
  | validators o => OptedInValidators.run o
  | slots o => OptedInSlots.run o
  | missed o => MissedSlots.run o
  | query o => Query.run o

/-- Where the report is written to; a query may only tell it. -/
def output? : Report → Option Path
  | validators o => some (Path.ofText o.output)
  | slots o => some (Path.ofText o.output)
  | missed o => some (Path.ofText o.output)
  | query o =>
    match o.output with
    | some file => if !file.isEmpty then some (Path.ofText file) else none
    | none => none

lemma publishes_validators (o : OptedInValidators.Options) :
    Publishes (output? (validators o)) (validators o).run := by
  refine publishes_bind (gathers_of_local (local_setUp _)) fun n =>
    publishes_bind gathers_reach fun _ => ?_
  refine publishes_bind gathers_openRegistry fun registry => ?_
  refine publishes_bind (gathers_withError OptIn.gathers_collect) fun found =>
    publishes_withError ?_
  exact publishes_bind gathers_say fun _ => publishes_writeTable_say

lemma publishes_slots (o : OptedInSlots.Options) : Publishes (output? (slots o)) (slots o).run := by
  refine publishes_bind (gathers_of_local (local_setUp _)) fun n => ?_
  refine publishes_bind (gathers_withError (gathers_of_local OptIn.local_loadValidators))
    fun validators => ?_
  refine publishes_bind (gathers_withError OptIn.gathers_findSlots) fun found =>
    publishes_withError ?_
  exact publishes_bind gathers_say fun _ => publishes_writeTable_say

lemma publishes_missed (o : MissedSlots.Options) :
    Publishes (output? (missed o)) (missed o).run := by
  refine publishes_bind (gathers_of_local (local_setUp _)) fun n => publishes_guard ?_
  refine publishes_bind (gathers_withError (gathers_of_local OptIn.local_loadSlots)) fun slots => ?_
  refine publishes_bind (gathers_withError Analytics.gathers_openedCommits) fun commits => ?_
  refine publishes_bind gathers_say fun _ =>
    publishes_bind OptIn.gathers_markMissed fun checked => ?_
  exact publishes_withError publishes_writeTable_say

lemma publishes_query (o : Query.Options) : Publishes (output? (query o)) (query o).run := by
  refine publishes_bind (gathers_of_local (local_setUp _)) fun n =>
    publishes_bind gathers_reach fun _ => ?_
  refine publishes_bind gathers_chainIdOf fun chainId => publishes_bind gathers_say fun _ => ?_
  refine publishes_bind gathers_openRegistry fun registry => ?_
  refine publishes_bind (gathers_withError Registry.gathers_queryAll) fun keys => ?_
  rw [output?]
  cases o.output with
  | none => exact publishes_of_gathers gathers_pure
  | some file =>
    dsimp only
    split
    · exact publishes_write
    · exact publishes_of_gathers gathers_pure

lemma publishes_run (report : Report) : Publishes report.output? report.run := by
  cases report with
  | validators o => exact publishes_validators o
  | slots o => exact publishes_slots o
  | missed o => exact publishes_missed o
  | query o => exact publishes_query o

/-! ### What the reports read -/

/-- What the report requires of what it reads: a table is there and is read to its end, each row of
a table of slots is a slot, and the pages of a query have the version of the count before them. -/
def Admits (t : FileTree) (es : List (Program.Event Host)) : Report → Prop
  | validators _ => True
  | slots o => ∃ bytes, t.read (Path.ofText o.validatorsFile) = .ok bytes ∧
      (Csv.records (.ofBytes bytes)).stopped = none
  | missed o => ∃ bytes, t.read (Path.ofText o.slotsFile) = .ok bytes ∧
      (Csv.records (.ofBytes bytes)).stopped = none ∧
      ∀ row ∈ (Csv.records (.ofBytes bytes)).records.tail, ∃ s,
        OptIn.Slot.ofRecord row = .ok (some s)
  | query _ => ∃ version, (countVersions es).getLast? = some version ∧
      ∀ v ∈ pageVersions es, v.toInteger = version.toInteger

/-- What is read behind the set-up of a network is answered by the files as they were before it. -/
lemma answers_of_setUp {network : String} {n : Config.Network} {ε α : Type} {p : Act ε α}
    {x : Except ε α} {own reading later : List (Program.Event Host)} (calls : Uses IsLocal p.run)
    (first : Runs (setUp network).run own (.ok n)) (reads : Runs p.run reading x)
    (files : OnFiles t (own ++ (reading ++ later)) t') : ∀ e ∈ reading, t.Answers e := by
  rw [← List.append_assoc] at files
  obtain ⟨between, looking, -⟩ := onFiles_append_iff.1 files
  have alone : ∀ e ∈ own ++ reading, IsLocal e.1 :=
    List.forall_mem_append.2
      ⟨allowed_of_runs (local_setUp network) first, allowed_of_runs calls reads⟩
  have looks : ∀ e ∈ own ++ reading, Looks e.1 := fun e mem => (alone e mem).looks
  obtain ⟨answers, -⟩ := answers_of_looks looking looks
  exact fun e mem => answers e (List.mem_append_right _ mem)

lemma admits_slots {o : OptedInSlots.Options} (run : Runs (slots o).run.run es (.ok ()))
    (files : OnFiles t es t') : (slots o).Admits t es := by
  obtain ⟨own, rest, n, rfl, settingUp, next⟩ := runs_run_bind_ok_iff.1 run
  obtain ⟨reading, later, found, rfl, reads, -⟩ := runs_run_bind_ok_iff.1 next
  obtain ⟨x, loads, ended⟩ := Act.runs_withError_iff.1 reads
  obtain rfl := mapError_eq_ok_iff.1 ended.symm
  exact OptIn.exists_table_of_runs loads
    (answers_of_setUp OptIn.local_loadValidators settingUp loads files)

lemma admits_missed {o : MissedSlots.Options} (run : Runs (missed o).run.run es (.ok ()))
    (files : OnFiles t es t') : (missed o).Admits t es := by
  obtain ⟨own, rest, n, rfl, settingUp, next⟩ := runs_run_bind_ok_iff.1 run
  obtain ⟨-, next⟩ := runs_run_guard_ok_iff.1 next
  obtain ⟨reading, later, found, rfl, reads, -⟩ := runs_run_bind_ok_iff.1 next
  obtain ⟨x, loads, ended⟩ := Act.runs_withError_iff.1 reads
  obtain rfl := mapError_eq_ok_iff.1 ended.symm
  exact OptIn.exists_slotTable_of_runs loads
    (answers_of_setUp OptIn.local_loadSlots settingUp loads files)

/-- Nothing is asked about the keys before a query, and nothing after it. -/
lemma keyless_prepare {o : Query.Options} : Uses IsKeyless (Query.prepare o).run := by
  have opening : Uses IsOpening (Query.prepare o).run := by
    refine uses_run_bind ((local_setUp _).mono fun _ => opening_of_isLocal) fun n => ?_
    refine uses_run_bind (opening_reach n) fun _ =>
      uses_run_bind (opening_chainIdOf _) fun chainId => ?_
    exact uses_run_bind (Act.uses_ask trivial) fun _ => opening_openRegistry _
  exact opening.mono fun _ => isKeyless_of_isOpening

lemma keyless_writeKeys {file : String} {keys : List String} :
    Uses IsKeyless (Query.writeKeys file keys).run :=
  uses_run_bind (Act.uses_ask id) fun _ => uses_run_bind Act.uses_orElse fun _ => Act.uses_ask id

lemma admits_query {o : Query.Options} (run : Runs (query o).run.run es (.ok ())) :
    (query o).Admits t es := by
  have run : Runs (Query.run o).run es (.ok ()) := run
  rw [Query.run_eq] at run
  obtain ⟨own, rest, registry, rfl, preparing, next⟩ := runs_run_bind_ok_iff.1 run
  obtain ⟨asked, later, keys, rfl, asking, writing⟩ := runs_run_bind_ok_iff.1 next
  obtain ⟨x, asking, ended⟩ := Act.runs_withError_iff.1 asking
  obtain rfl := mapError_eq_ok_iff.1 ended.symm
  obtain ⟨before, told, counts, pages⟩ := versions_of_runs_queryAll asking
  have keyless : ∀ e ∈ later, IsKeyless e.1 := by
    refine allowed_of_runs ?_ writing
    split
    · split
      · exact keyless_writeKeys
      · exact uses_run_pure
    · exact uses_run_pure
  obtain ⟨uncounted, unpaged⟩ := versions_of_keyless (allowed_of_runs keyless_prepare preparing)
  obtain ⟨uncounted', unpaged'⟩ := versions_of_keyless keyless
  refine ⟨told, ?_, ?_⟩
  · rw [countVersions_append, countVersions_append, uncounted, uncounted', counts]
    rfl
  · rw [pageVersions_append, pageVersions_append, unpaged, unpaged', List.nil_append,
      List.append_nil]
    exact pages

lemma admits_of_runs (run : Runs report.run.run es (.ok ())) (files : OnFiles t es t') :
    report.Admits t es := by
  cases report with
  | validators o => trivial
  | slots o => exact admits_slots run files
  | missed o => exact admits_missed run files
  | query o => exact admits_query run

end Report

/-! ### All or nothing -/

/-- What a run of a report does to the files, which were those of `t` before it and are those of
`t'` after it. -/
structure Intact (report : Report) (t t' : FileTree) (es : List (Program.Event Host))
    (r : Except Failure Unit) : Prop where
  /-- The report fails if a question is not served, at whatever place, or if what is read is not
  admitted. -/
  fails : (∃ e ∈ es, ¬ Served e) ∨ ¬ report.Admits t es → ∃ f, r = .error f
  /-- A report that fails leaves all files as they were. -/
  kept : ∀ f, r = .error f → t' = t.atTime t'.clock
  /-- In particular, an earlier report is read as before. -/
  previous : ∀ f, r = .error f → ∀ path, t'.read path = t.read path
  /-- A report that succeeds creates or changes its output and nothing else. -/
  written : r = .ok () → Wrote t t' report.output?

/-- A run of a report fails if anything that it asks for or reads is not of use, and leaves the
files as they were if it fails; if it succeeds, it writes the output of the report and nothing
else. -/
theorem report_intact {report : Report} {t t' : FileTree} {es : List (Program.Event Host)}
    {r : Except Failure Unit} (run : Runs report.run.run es r) (files : OnFiles t es t') :
    Intact report t t' es r := by
  have publishes := report.publishes_run
  have ends := publishes.ends _ _ _ _ run files
  refine ⟨fun useless => ?_, ends.kept, fun f failed path => ?_, ends.written⟩
  · cases r with
    | error f => exact ⟨f, rfl⟩
    | ok =>
      rcases useless with ⟨e, mem, unserved⟩ | unadmitted
      · exact absurd (publishes.served _ run e mem) unserved
      · exact absurd (Report.admits_of_runs run files) unadmitted
  · rw [ends.kept f failed, read_atTime]

/-- A node whose registry changes between the count of its keys and their pages. -/
def changingNode (s : Valset) : (c : NodeCall) → c.Answer
  | .stakedPage _ first stop => Except.ok (s.slice first stop, .int (s.version + 1))
  | c => nodeOf s c

/-- A page of another version leaves the earlier report in the place of the output; pages of one
version replace it, and the file beside it stays. -/
theorem report_intact_of_changedPage :
    let s : Valset := { keys := [List.replicate 48 1], version := 7 }
    let report := Report.query
      { network := "mainnet", pageSize := 1, output := some "keys.txt", verbose := false }
    let t : FileTree :=
      { nodes := [(["keys.txt"], .file "0xcd\n".toUTF8 5), (["notes.txt"], .file "all".toUTF8 6)] }
    let torn := report.run.run.run (Host.onTree (changingNode s)) t
    let whole := report.run.run.run (Host.onTree (nodeOf s)) t
    (torn.1 = .error (.query (.versionMismatch "8" 7)) ∧
        torn.2.read (Path.ofText "keys.txt") = .ok "0xcd\n".toUTF8) ∧
      whole.1 = .ok () ∧ Wrote t whole.2 (some (Path.ofText "keys.txt")) ∧
      whole.2.find? ["notes.txt"] = some (.file "all".toUTF8 6) := by
  intro s report t torn whole
  have chars : Path.hasNul = fun p => p.parts.any fun part => part.toList.contains '\x00' :=
    funext Path.hasNul_eq
  have failed : torn.1 = .error (.query (.versionMismatch "8" 7)) := by
    unfold torn
    delta Host.onTree FileTree.answer FileTree.isThere FileTree.write FileTree.locate
    rw [chars]
    decide +kernel
  have done : whole.1 = .ok () := by
    unfold whole
    delta Host.onTree FileTree.answer FileTree.isThere FileTree.write FileTree.locate
    rw [chars]
    decide +kernel
  have located : t.locate (Path.ofText "keys.txt") = .ok ["keys.txt"] := by
    rw [locate, chars]
    decide +kernel
  have kept : Intact report t torn.2 _ torn.1 :=
    report_intact (runs_trace _ _ _) (onFiles_trace _ _ _)
  have wrote : Intact report t whole.2 _ whole.1 :=
    report_intact (runs_trace _ _ _) (onFiles_trace _ _ _)
  refine ⟨⟨failed, ?_⟩, done, wrote.written done, ?_⟩
  · rw [kept.previous _ failed]
    exact read_eq_ok_iff.2 ⟨["keys.txt"], 5, located, rfl⟩
  · cases wrote.written done with
    | file located' free put others =>
      obtain rfl := Except.ok.inj (located.symm.trans located')
      rw [others ["notes.txt"] (by decide)]
      rfl

end StakeRegistry.Command
