/-
Store runs one after another.

A store run goes through the types of events, and nothing is taken back when it fails: what it has
stored when it ends, well or not, are complete snapshots of the first types (`runs_storeTypes`). A
run leaves the snapshots of a type alone or puts one on top of them (`StoreRun.IsRun.effect`), and
along several runs the last one of each type that was stored stays on top (`StoreRuns.isTop`). A
reader therefore takes snapshots of different runs after a run that failed between two types
(`snapshots_of_storeRuns`).
-/
import StakeRegistry.Proofs.Registry.Snapshots
import StakeRegistry.Registry.Store

namespace StakeRegistry.Registry

open Program FileTree

variable {registry : String} {directory : Path} {block chunk : Int} {type : EventType}
  {t t' : FileTree} {here : List String} {made : FileTree}
  {trace trace' : List (Program.Event Host)}

/-! ### Fetching leaves the files -/

lemma notOnFiles_pause {ε : Type} {delay : Seconds} :
    Uses NotOnFiles (pause delay : Act ε Unit).run := by
  rw [pause]
  cases delay.isZero
  · exact Act.uses_ask trivial
  · exact uses_run_pure

lemma notOnFiles_fetchFrom {q : Fetch} {toBlock first : Int} {left : Nat} :
    Uses NotOnFiles (fetchFrom registry type q toBlock first left).run := by
  induction left generalizing first with
  | zero =>
    rw [fetchFrom]
    split
    · exact uses_run_pure
    · exact uses_run_throw
  | succ left ih =>
    rw [fetchFrom]
    split
    · exact uses_run_pure
    · refine uses_run_bind (Act.uses_ask trivial) fun x =>
        uses_run_bind Act.uses_orElse fun logs => ?_
      refine uses_run_bind Act.uses_orElse fun events => uses_run_bind notOnFiles_pause fun _ => ?_
      exact uses_run_bind ih fun _ => uses_run_pure

lemma notOnFiles_fetchEvents {q : Fetch} : Uses NotOnFiles (fetchEvents registry type q).run := by
  rw [fetchEvents]
  split
  · exact uses_run_bind uses_run_pure fun _ => notOnFiles_fetchFrom
  · refine uses_run_bind ?_ fun _ => notOnFiles_fetchFrom
    exact uses_run_bind (Act.uses_ask trivial) fun _ => Act.uses_orElse

/-! ### One type -/

/-- A file with its text is a snapshot of all events of a type that were fetched up to a block. -/
structure StoredAs (registry : String) (directory : Path) (block chunk : Int)
    (trace : List (Program.Event Host)) (type : EventType) (w : Path × String) : Prop where
  named : ∃ now, w.1 = directory.child (artifactName type.name block now)
  fetched :
    ∃ es own, Runs (fetchEvents registry type { toBlock := some block, chunk }).run own (.ok es) ∧
    (∀ e ∈ own, e ∈ trace) ∧ eventsText? es = some w.2

lemma StoredAs.mono {w : Path × String} (h : StoredAs registry directory block chunk trace type w)
    (more : ∀ e ∈ trace, e ∈ trace') : StoredAs registry directory block chunk trace' type w := by
  obtain ⟨es, own, run, inside, printed⟩ := h.fetched
  exact ⟨h.named, es, own, run, fun e he => more e (inside e he), printed⟩

lemma stores_storeType :
    Uses (StoresIn directory) (storeType registry directory block chunk type).run := by
  refine uses_run_bind (Act.uses_ask trivial) fun _ => ?_
  refine uses_run_bind
    (uses_run_adapt (notOnFiles_fetchEvents.mono fun _ h => h.storesIn)) fun es => ?_
  refine uses_run_bind (uses_run_adapt stores_writeEvents) fun path => ?_
  exact uses_run_bind (Act.uses_ask trivial) fun _ => uses_run_pure

/-- A snapshot of a type is stored, or nothing is. -/
lemma runs_storeType {r : Except StoreError Path}
    (run : Runs (storeType registry directory block chunk type).run trace r)
    (files : OnFiles t trace t') :
    (∃ path text, r = .ok path ∧ written trace = [(path, text)] ∧
        StoredAs registry directory block chunk trace type (path, text) ∧
        ∃ here made, Made t directory here made) ∨
      (∃ e, r = .error e) ∧ written trace = [] := by
  obtain ⟨⟨⟩, rest, rfl, afterLine⟩ := Act.runs_ask_bind_iff.1 run
  obtain ⟨time, -, -, filesAfter⟩ := onFiles_cons_iff.1 files
  change OnFiles (t.atTime time) rest t' at filesAfter
  change (∃ path text, _ ∧ written rest = _ ∧ _) ∨ _ ∧ written rest = []
  have silent {own : List (Program.Event Host)} {x : Except QueryError (List Event)}
      (fetch : Runs (fetchEvents registry type { toBlock := some block, chunk }).run own x) :
      ∀ e ∈ own, Looks e.1 := fun e he => (allowed_of_runs notOnFiles_fetchEvents fetch e he).looks
  rcases runs_run_bind_iff.1 afterLine with
    ⟨e, rfl, failed⟩ | ⟨own, later, es, rfl, fetched, afterFetch⟩
  · obtain ⟨x, fetch, -⟩ := Act.runs_withError_iff.1 failed
    exact .inr ⟨⟨e, rfl⟩, written_of_looks (silent fetch)⟩
  obtain ⟨x, fetch, hx⟩ := Act.runs_withError_iff.1 fetched
  obtain rfl := mapError_eq_ok_iff.1 hx.symm
  obtain ⟨between, fetching, storing⟩ := onFiles_append_iff.1 filesAfter
  obtain ⟨-, time', -, rfl⟩ := answers_of_looks fetching (silent fetch)
  rw [written_append, written_of_looks (silent fetch), List.nil_append]
  rcases runs_run_bind_iff.1 afterFetch with
    ⟨e, rfl, failed⟩ | ⟨own', last, path, rfl, stored, afterWrite⟩
  · obtain ⟨x, write, hx⟩ := Act.runs_withError_iff.1 failed
    rcases runs_writeEvents write storing with ⟨path, rfl, -⟩ | ⟨-, nothing⟩
    · cases hx
    · exact .inr ⟨⟨e, rfl⟩, nothing⟩
  obtain ⟨y, write, hy⟩ := Act.runs_withError_iff.1 stored
  obtain rfl := mapError_eq_ok_iff.1 hy.symm
  obtain ⟨⟨⟩, end', rfl, final⟩ := Act.runs_ask_bind_iff.1 afterWrite
  obtain ⟨rfl, rfl⟩ := runs_run_pure_iff.1 final
  obtain ⟨inner, writing, -⟩ := onFiles_append_iff.1 storing
  rcases runs_writeEvents write writing with ⟨path', same, wrote⟩ | ⟨⟨e, failed, -⟩, -⟩
  · obtain rfl := Except.ok.inj same
    obtain ⟨text, printed, once⟩ := wrote.text
    obtain ⟨here, made, there⟩ := wrote.made
    refine .inl ⟨path, text, rfl, ?_, ⟨wrote.named, es, own, fetch, ?_, printed⟩, here, _,
      there.of_atTime.of_atTime⟩
    · rw [written_append, once]
      rfl
    · exact fun e he => List.mem_cons_of_mem _ (List.mem_append_left _ he)
  · cases failed

/-- Where the events of a type can be fetched and there is a place for their snapshot, it is stored,
and the node is asked for nothing else. -/
lemma exists_runs_storeType (type : EventType) (block : Int) (now : Moment) {es : List Event}
    {text : String} {own : List (Program.Event Host)}
    (fetch : Runs (fetchEvents registry type { toBlock := some block, chunk }).run own (.ok es))
    (made : Made t directory here t)
    (located : t.locate (directory.child (artifactName type.name block now)) =
      .ok (here ++ [artifactName type.name block now]))
    (file : t.find? (here ++ [artifactName type.name block now]) ≠ some .directory)
    (printed : eventsText? es = some text) :
    ∃ trace, Runs (storeType registry directory block chunk type).run trace
        (.ok (directory.child (artifactName type.name block now))) ∧
      OnFiles t trace
        (t.putNode (here ++ [artifactName type.name block now]) (.file text.toUTF8 t.clock)) ∧
      written trace = [(directory.child (artifactName type.name block now), text)] ∧
      ∀ c x, ⟨.node c, x⟩ ∈ trace → ⟨.node c, x⟩ ∈ own := by
  obtain ⟨wrote, run, files, once, unasked⟩ :=
    exists_runs_writeEvents type block now made located file printed
  have silent := allowed_of_runs notOnFiles_fetchEvents fetch
  refine ⟨⟨.say ("Querying all " ++ type.name ++ " events from chain genesis..."), ()⟩ ::
      (own ++ (wrote ++
    [⟨.say ("  " ++ toString es.length ++ " events -> " ++
      (directory.child (artifactName type.name block now)).text), ()⟩])), ?_, ?_, ?_, ?_⟩
  · refine Act.runs_ask_bind_iff.2
      ⟨(), _, rfl, runs_run_bind_iff.2 (.inr ⟨own, _, es, rfl, ?_, ?_⟩)⟩
    · exact Act.runs_withError_iff.2 ⟨_, fetch, rfl⟩
    · refine runs_run_bind_iff.2
        (.inr ⟨wrote, _, _, rfl, Act.runs_withError_iff.2 ⟨_, run, rfl⟩, ?_⟩)
      exact Act.runs_ask_bind_iff.2 ⟨(), [], rfl, runs_run_pure_iff.2 ⟨rfl, rfl⟩⟩
  · have fetching : OnFiles t own t :=
      onFiles_of_looks (fun e he => (silent e he).looks) fun e he =>
        answers_of_notOnFiles (silent e he)
    refine .cons (Int.le_refl _) trivial (onFiles_append_iff.2 ⟨t, fetching, ?_⟩)
    exact onFiles_append_iff.2 ⟨_, files, .cons (Int.le_refl _) trivial (.nil _)⟩
  · change written (own ++ (wrote ++ _)) = _
    rw [written_append, written_append, written_of_looks fun e he => (silent e he).looks, once]
    rfl
  · intro c x mem
    simp only [List.mem_cons, List.mem_append, List.not_mem_nil, unasked, false_or, or_false] at mem
    rcases mem with h | h | h
    · cases h
    · exact h
    · cases h

/-! ### One run -/

lemma stores_storeAll : Uses (StoresIn directory) (storeAll registry directory block chunk).run :=
  uses_run_mapM fun _ => stores_storeType

/-- Of types that are gone through, the first ones are stored, and all of them exactly if nothing
fails. -/
lemma runs_storeTypes {types : List EventType} {r : Except StoreError (List Path)}
    (run : Runs (types.mapM (storeType registry directory block chunk)).run trace r)
    (files : OnFiles t trace t') : ∃ done rest, types = done ++ rest ∧
      List.Forall₂ (StoredAs registry directory block chunk trace) done (written trace) ∧
      (rest = [] ↔ ∃ paths, r = .ok paths) ∧
      (∀ paths, r = .ok paths → paths = (written trace).map Prod.fst) ∧
      (written trace ≠ [] → ∃ here made, Made t directory here made) := by
  induction types generalizing t trace r with
  | nil =>
    obtain ⟨rfl, rfl⟩ := runs_run_pure_iff.1 run
    exact ⟨[], [], rfl, .nil, by simp, by simp [written], fun h => absurd rfl h⟩
  | cons type types ih =>
    rw [List.mapM_cons] at run
    rcases runs_run_bind_iff.1 run with
      ⟨e, rfl, failed⟩ | ⟨own, later, path, rfl, stored, afterFirst⟩
    · rcases runs_storeType failed files with ⟨_, _, hr, -⟩ | ⟨-, nothing⟩
      · cases hr
      · rw [nothing]
        exact ⟨[], type :: types, rfl, .nil, by simp, by simp, fun h => absurd rfl h⟩
    obtain ⟨between, storing, going⟩ := onFiles_append_iff.1 files
    rcases runs_storeType stored storing with
      ⟨path', text, hp, once, storedAs, there⟩ | ⟨⟨e, hr⟩, -⟩
    · obtain rfl := Except.ok.inj hp
      obtain ⟨x, others, rfl⟩ := runs_run_map_iff.1 afterFirst
      obtain ⟨done, rest, rfl, each, complete, paths, -⟩ := ih others going
      rw [written_append, once]
      refine ⟨type :: done, rest, rfl, .cons ?_ (each.imp fun _ _ h => ?_), ?_, ?_, fun _ => there⟩
      · exact storedAs.mono fun e he => List.mem_append_left _ he
      · exact h.mono fun e he => List.mem_append_right _ he
      · rw [complete]
        cases x <;> simp [Except.map]
      · intro ps' hps
        cases x with
        | error e => cases hps
        | ok ps =>
          obtain rfl := Except.ok.inj hps
          simp [paths ps rfl]
    · cases hr

/-- Where the events of some types can be fetched and nothing is in the way, all of them are
stored. -/
lemma exists_runs_storeTypes {types : List EventType} (distinct : types.Nodup) (block : Int)
    (now : Moment) {es : EventType → List Event} {text : EventType → String}
    {own : EventType → List (Program.Event Host)}
    (fetch : ∀ type ∈ types,
      Runs (fetchEvents registry type { toBlock := some block, chunk }).run (own type)
        (.ok (es type)))
    (made : Made t directory here t)
    (located : ∀ type ∈ types, t.locate (directory.child (artifactName type.name block now)) =
      .ok (here ++ [artifactName type.name block now]))
    (free : ∀ type ∈ types, t.find? (here ++ [artifactName type.name block now]) = none)
    (printed : ∀ type ∈ types, eventsText? (es type) = some (text type)) :
    ∃ trace t' paths,
      Runs (types.mapM (storeType registry directory block chunk)).run trace (.ok paths) ∧
      OnFiles t trace t' ∧ ∀ c x, ⟨.node c, x⟩ ∈ trace →
      ∃ type ∈ types, ⟨.node c, x⟩ ∈ own type := by
  induction types generalizing t with
  | nil =>
    have unasked (c : NodeCall) (x : c.Answer)
        (mem : ⟨.node c, x⟩ ∈ ([] : List (Program.Event Host))) :
        ∃ type ∈ [], ⟨.node c, x⟩ ∈ own type := absurd mem List.not_mem_nil
    exact ⟨[], t, [], runs_run_pure_iff.2 ⟨rfl, rfl⟩, .nil t, unasked⟩
  | cons type types ih =>
    obtain ⟨new, distinct⟩ := List.nodup_cons.1 distinct
    obtain ⟨fetch, fetchOthers⟩ := List.forall_mem_cons.1 fetch
    obtain ⟨place, places⟩ := List.forall_mem_cons.1 located
    obtain ⟨none, nones⟩ := List.forall_mem_cons.1 free
    obtain ⟨printed, printedOthers⟩ := List.forall_mem_cons.1 printed
    have file : t.find? (here ++ [artifactName type.name block now]) ≠ some .directory := by
      simp [none]
    obtain ⟨first, run, files, -, asked⟩ :=
      exists_runs_storeType type block now fetch made place file printed
    -- the places of the other types are still free
    have keeps := keeps_of_onFiles files
    have still : ∀ other ∈ types,
        (t.putNode (here ++ [artifactName type.name block now])
            (.file (text type).toUTF8 t.clock)).find?
          (here ++ [artifactName other.name block now]) = Option.none := by
      intro other mem
      rw [find?_putNode (isAtOrAbove_of_find? file), if_neg, nones other mem]
      intro same
      have own : IsSnapshotName type (artifactName type.name block now) :=
        isSnapshotName_artifactName
      rw [(List.cons.inj (List.append_inj_right' same rfl)).1] at own
      obtain rfl := own.unique isSnapshotName_artifactName
      exact new mem
    obtain ⟨others, t', paths, runOthers, filesOthers, askedOthers⟩ := ih distinct fetchOthers
      (.self (locate_of_keeps keeps made.located) (keeps.directory made.isDirectory))
      (fun other mem => locate_of_keeps keeps (places other mem)) still printedOthers
    refine ⟨first ++ others, t', directory.child (artifactName type.name block now) :: paths, ?_,
      onFiles_append_iff.2 ⟨_, files, filesOthers⟩, ?_⟩
    · rw [List.mapM_cons]
      exact runs_run_bind_iff.2
        (.inr ⟨first, others, _, rfl, run, runs_run_map_iff.2 ⟨_, runOthers, rfl⟩⟩)
    · intro c x mem
      rcases List.mem_append.1 mem with mem | mem
      · exact ⟨type, List.mem_cons_self, asked c x mem⟩
      · obtain ⟨other, inside, mem⟩ := askedOthers c x mem
        exact ⟨other, List.mem_cons_of_mem _ inside, mem⟩

/-- A run that stores snapshots: what it was asked for, its events and how it ended. -/
structure StoreRun where
  block : Int
  chunk : Int
  events : List (Program.Event Host)
  result : Except StoreError (List Path)

namespace StoreRun

variable {run : StoreRun} {w : Path × String}

/-- The snapshot of a type that a run has stored, if it came so far. -/
def snapshot? (run : StoreRun) (type : EventType) : Option (Path × String) :=
  ((EventType.all.zip (written run.events)).find? (·.1 = type)).map Prod.snd

/-- The run is one of the program, on a tree that becomes another. -/
structure IsRun (registry : String) (directory : Path) (t : FileTree) (run : StoreRun)
    (t' : FileTree) :
    Prop where
  runs : Runs (storeAll registry directory run.block run.chunk).run run.events run.result
  files : OnFiles t run.events t'

/-- Values that belong to the first of some distinct keys are found under these keys. -/
lemma find?_zip {κ α : Type} [DecidableEq κ] {R : κ → α → Prop}
    {keys done rest : List κ} {as : List α} (split : keys = done ++ rest) (distinct : keys.Nodup)
    (each : List.Forall₂ R done as) :
    (∀ key a, ((keys.zip as).find? (·.1 = key)).map Prod.snd = some a → a ∈ as ∧ R key a) ∧
      (∀ a ∈ as, ∃ key, ((keys.zip as).find? (·.1 = key)).map Prod.snd = some a) ∧
      ∀ key, (∃ a, ((keys.zip as).find? (·.1 = key)).map Prod.snd = some a) ↔ key ∈ done := by
  induction each generalizing keys with
  | nil => simp
  | @cons first a done as own _ ih =>
    subst split
    obtain ⟨new, distinct⟩ := List.nodup_cons.1 distinct
    obtain ⟨found, all, keysOf⟩ := ih rfl distinct
    rw [List.cons_append, List.zip_cons_cons]
    refine ⟨?_, ?_, ?_⟩
    · intro key b h
      rw [List.find?_cons] at h
      split at h
      next same =>
        obtain rfl : first = key := by simpa using same
        obtain rfl : a = b := by simpa using h
        exact ⟨List.mem_cons_self, own⟩
      next => exact ⟨List.mem_cons_of_mem _ (found key b h).1, (found key b h).2⟩
    · intro b mem
      rcases List.mem_cons.1 mem with rfl | mem
      · exact ⟨first, by simp⟩
      · obtain ⟨key, hkey⟩ := all b mem
        refine ⟨key, ?_⟩
        have other : first ≠ key := by
          rintro rfl
          obtain ⟨p, hp, -⟩ := Option.map_eq_some_iff.1 hkey
          have here := List.find?_some hp
          have inside := (List.of_mem_zip (List.mem_of_find?_eq_some hp)).1
          exact new (by simpa [← (by simpa using here : p.1 = first)] using inside)
        rw [List.find?_cons, decide_eq_false other]
        exact hkey
    · intro key
      rw [List.mem_cons, ← keysOf, List.find?_cons]
      by_cases same : first = key
      · simp [same]
      · simp [same, Ne.symm same]

/-- The snapshots of a run are what it has written, each stored as one of its type. -/
lemma snapshot?_spec (h : IsRun registry directory t run t') :
    (∀ type w, run.snapshot? type = some w → w ∈ written run.events ∧
      StoredAs registry directory run.block run.chunk run.events type w) ∧
    ∀ w ∈ written run.events, ∃ type, run.snapshot? type = some w := by
  obtain ⟨done, rest, split, each, -⟩ := runs_storeTypes h.runs h.files
  obtain ⟨found, all, -⟩ := find?_zip split (by decide) each
  exact ⟨found, all⟩

/-- A run has snapshots of all types exactly if it did not fail. -/
lemma snapshot?_complete_iff (h : IsRun registry directory t run t') :
    (∀ type, ∃ w, run.snapshot? type = some w) ↔ ∃ paths, run.result = .ok paths := by
  obtain ⟨done, rest, split, each, complete, -⟩ := runs_storeTypes h.runs h.files
  obtain ⟨-, -, typesOf⟩ := find?_zip split (by decide) each
  have all (type : EventType) : type ∈ done ++ rest := by
    rw [← split]
    cases type <;> decide
  have distinct : (done ++ rest).Nodup := by
    rw [← split]
    decide
  rw [← complete]
  refine (forall_congr' typesOf).trans ⟨fun inside => ?_, fun none type => ?_⟩
  · refine List.eq_nil_iff_forall_not_mem.2 fun type mem => ?_
    exact (List.nodup_append.1 distinct).2.2 type (inside type) type mem rfl
  · simpa [none] using all type

lemma snapshot?_of_written_eq_nil (nothing : written run.events = []) :
    run.snapshot? type = none := by
  rw [snapshot?, nothing, List.zip_nil_right]
  rfl

/-- What is written under the name of a snapshot of a type is the snapshot of this type. -/
lemma snapshot?_of_written (h : IsRun registry directory t run t') {name text : String}
    (isName : IsSnapshotName type name) (isFile : IsFileName name)
    (mem : (directory.child name, text) ∈ written run.events) :
    run.snapshot? type = some (directory.child name, text) := by
  obtain ⟨type', found⟩ := (snapshot?_spec h).2 _ mem
  obtain ⟨now, named⟩ := ((snapshot?_spec h).1 _ _ found).2.named
  obtain rfl := (Path.child_inj isFile isFileName_artifactName).1 named
  rwa [isName.unique isSnapshotName_artifactName]

end StoreRun

/-! ### The snapshots in a directory -/

/-- The snapshots of a type at some place are files that were not changed after a time. -/
def DatedBy (t : FileTree) (here : List String) (type : EventType) (time : Int) : Prop :=
  ∀ name node, IsSnapshotName type name → t.find? (here ++ [name]) = some node →
    ∃ content changed, node = .file content changed ∧ changed ≤ time

/-- Of the snapshots of a type at some place, the one under a name was changed last and holds a
text. -/
def IsTop (t : FileTree) (here : List String) (type : EventType) (name text : String) : Prop :=
  ∃ time, t.find? (here ++ [name]) = some (.file text.toUTF8 time) ∧
    ∀ name' node, IsSnapshotName type name' → t.find? (here ++ [name']) = some node →
      name' = name ∨ ∃ content changed, node = .file content changed ∧ changed < time

/-- The snapshots of a type at some place are the same in two trees. -/
def SameSnapshots (here : List String) (type : EventType) (t t' : FileTree) : Prop :=
  ∀ name, IsSnapshotName type name → t'.find? (here ++ [name]) = t.find? (here ++ [name])

lemma DatedBy.mono {time time' : Int} (h : DatedBy t here type time) (le : time ≤ time') :
    DatedBy t here type time' := by
  intro name node isName found
  obtain ⟨content, changed, file, before⟩ := h name node isName found
  exact ⟨content, changed, file, Int.le_trans before le⟩

lemma SameSnapshots.datedBy {time : Int} (same : SameSnapshots here type t t')
    (h : DatedBy t here type time) : DatedBy t' here type time := by
  intro name node isName found
  exact h name node isName ((same name isName).symm.trans found)

lemma SameSnapshots.isTop {name text : String} (same : SameSnapshots here type t t')
    (isName : IsSnapshotName type name) (h : IsTop t here type name text) :
    IsTop t' here type name text := by
  obtain ⟨time, held, others⟩ := h
  refine ⟨time, (same name isName).trans held, fun name' node isName' found => ?_⟩
  exact others name' node isName' ((same name' isName').symm.trans found)

/-- A run leaves the snapshots of a type alone or stores one that is newer than all of them. -/
lemma StoreRun.IsRun.effect {run : StoreRun} {time : Int} (h : run.IsRun registry directory t t')
    (there : Made t directory here made) (before : time < t.clock) :
    ∃ made', Made t' directory here made' ∧ ∀ type, DatedBy made here type time →
      DatedBy made' here type t'.clock ∧
      (run.snapshot? type = none → SameSnapshots here type made made') ∧
      ∀ path text, run.snapshot? type = some (path, text) → ∃ name, IsFileName name ∧
        IsSnapshotName type name ∧ path = directory.child name ∧
        IsTop made' here type name text := by
  obtain ⟨made', there', seen⟩ := there.along h.files (allowed_of_runs stores_storeAll h.runs)
  have clocks := clock_le_of_onFiles h.files
  refine ⟨made', there', fun type dated => ?_⟩
  rcases found : run.snapshot? type with _ | ⟨path, text⟩
  · have same : SameSnapshots here type made made' := by
      intro name isName
      rcases seen name with ⟨-, same⟩ | ⟨text, _, isFile, mem, -, -⟩
      · exact same
      · rw [StoreRun.snapshot?_of_written h isName isFile mem] at found
        cases found
    exact ⟨same.datedBy (dated.mono (by omega)), fun _ => same, nofun⟩
  · obtain ⟨mem, stored⟩ := (StoreRun.snapshot?_spec h).1 _ _ found
    obtain ⟨now, named⟩ := stored.named
    obtain rfl : path = directory.child (artifactName type.name run.block now) := named
    rcases seen (artifactName type.name run.block now) with
      ⟨quiet, -⟩ | ⟨text', changed, isFile, mem', since, file⟩
    · exact absurd mem (quiet text isFileName_artifactName)
    have same := StoreRun.snapshot?_of_written h isSnapshotName_artifactName isFile mem'
    rw [found] at same
    obtain rfl : text = text' := (Prod.mk.inj (Option.some.inj same)).2
    -- the run has written nothing else under a name of the type
    have others (name : String) (node : FileNode) (isName : IsSnapshotName type name)
        (held : made'.find? (here ++ [name]) = some node) :
        name = artifactName type.name run.block now ∨
          ∃ content changed, node = .file content changed ∧ changed ≤ time := by
      rcases seen name with ⟨-, same⟩ | ⟨_, _, isFile', mem', -, -⟩
      · exact .inr (dated name node isName (same.symm.trans held))
      · have again := StoreRun.snapshot?_of_written h isName isFile' mem'
        rw [found] at again
        exact .inl ((Path.child_inj isFile isFile').1 (Prod.mk.inj (Option.some.inj again)).1).symm
    refine ⟨fun name node isName held => ?_, nofun, ?_⟩
    · rcases others name node isName held with rfl | ⟨content, changed, rfl, le⟩
      · obtain rfl := Option.some.inj (file.symm.trans held)
        exact ⟨_, _, rfl, since.2⟩
      · exact ⟨content, changed, rfl, by omega⟩
    · rintro _ _ ⟨⟩
      refine ⟨_, isFile, isSnapshotName_artifactName, rfl, changed, file,
        fun name node isName held => ?_⟩
      rcases others name node isName held with same | ⟨content, changed', rfl, le⟩
      · exact .inl same
      · exact .inr ⟨content, changed', rfl, by omega⟩

/-! ### Runs one after another -/

/-- Store runs one after another, each of which starts later than the one before it has ended. -/
inductive StoreRuns (registry : String) (directory : Path) :
    FileTree → List StoreRun → FileTree → Prop where
  | nil (t : FileTree) : StoreRuns registry directory t [] t
  | cons {t t' t'' : FileTree} {time : Int} {run : StoreRun} {runs : List StoreRun}
      (later : t.clock < time) (first : run.IsRun registry directory (t.atTime time) t')
      (rest : StoreRuns registry directory t' runs t'') :
      StoreRuns registry directory t (run :: runs) t''

/-- The last snapshot of a type that one of the runs has stored. -/
def lastSnapshot? (type : EventType) : List StoreRun → Option (Path × String)
  | [] => none
  | run :: later => (lastSnapshot? type later).or (run.snapshot? type)

/-- A snapshot is the one that a reader of its type takes, and holds a text. -/
structure IsPicked (t : FileTree) (directory : Path) (type : EventType) (path : Path)
    (text : String) :
    Prop where
  latest : ∀ ⦃trace t' r⦄, Runs (latestArtifact directory type.name).run trace r →
    OnFiles t trace t' → r = .ok path
  content : t.read path = .ok text.toUTF8

namespace StoreRuns

variable {runs : List StoreRun}

lemma keeps (h : StoreRuns registry directory t runs t') : Keeps t t' := by
  induction h with
  | nil t => exact (AddsDirectories.refl t).keeps
  | cons later first rest ih =>
    have step := keeps_of_onFiles first.files
    exact ⟨fun dir => ih.directory (step.directory dir), ih.working.trans step.working⟩

lemma distinct (h : StoreRuns registry directory t runs t') (nodup : t.nodes.keys.Nodup) :
    t'.nodes.keys.Nodup := by
  induction h with
  | nil t => exact nodup
  | cons later first rest ih => exact ih (distinct_of_onFiles first.files nodup)

/-- Every file is one that was there before the runs or one that was written by one of them. -/
lemma file?_cases (h : StoreRuns registry directory t runs t') (parts : List String) :
    t'.file? parts = t.file? parts ∨
      ∃ run ∈ runs, ∃ path text time, (path, text) ∈ written run.events ∧
      t'.locate path = .ok parts ∧ t'.file? parts = some (text.toUTF8, time) := by
  induction h with
  | nil t => exact .inl rfl
  | cons later first rest ih =>
    rcases ih with same | ⟨run, mem, other⟩
    · rcases file?_of_onFiles first.files parts with
        still | ⟨path, text, time, wrote, located, file⟩
      · exact .inl (same.trans still)
      · exact .inr ⟨_, List.mem_cons_self, path, text, time, wrote,
          locate_of_keeps rest.keeps located, same.trans file⟩
    · exact .inr ⟨run, List.mem_cons_of_mem _ mem, other⟩

/-- The directory of a snapshot that was written is there. -/
lemma made_of_written (h : StoreRuns registry directory t runs t') {run : StoreRun}
    {name text : String} (mem : run ∈ runs) (isName : IsFileName name)
    (wrote : (directory.child name, text) ∈ written run.events) :
    ∃ here, Made t' directory here t' ∧
      t'.locate (directory.child name) = .ok (here ++ [name]) := by
  induction h with
  | nil t => cases mem
  | cons later first rest ih =>
    rcases List.mem_cons.1 mem with rfl | mem
    · obtain ⟨here, there, located⟩ := Made.of_written first.files isName wrote
      have keeps := rest.keeps
      exact ⟨here, .self (locate_of_keeps keeps there.located) (keeps.directory there.isDirectory),
        locate_of_keeps keeps located⟩
    · exact ih mem

/-- Along the runs the snapshots of each type stay as they are, or the last one that was stored is
on top. -/
lemma isTop (h : StoreRuns registry directory t runs t') (there : Made t directory here made)
    (dated : ∀ type, DatedBy made here type t.clock) : ∃ made', Made t' directory here made' ∧
      (∀ type, DatedBy made' here type t'.clock) ∧
      ∀ type, (lastSnapshot? type runs = none → SameSnapshots here type made made') ∧
        ∀ path text, lastSnapshot? type runs = some (path, text) → ∃ name, IsFileName name ∧
          IsSnapshotName type name ∧ path = directory.child name ∧
          IsTop made' here type name text := by
  induction h generalizing made with
  | nil t => exact ⟨made, there, dated, fun type => ⟨fun _ _ _ => rfl, nofun⟩⟩
  | @cons t t' t'' time run runs later first rest ih =>
    obtain ⟨between, hbetween, own⟩ := first.effect there.atTime later
    obtain ⟨made', there', dated', others⟩ := ih hbetween fun type => (own type (dated type)).1
    refine ⟨made', there', dated', fun type => ?_⟩
    obtain ⟨-, quiet, stored⟩ := own type (dated type)
    obtain ⟨laterQuiet, laterStored⟩ := others type
    rcases found : lastSnapshot? type runs with _ | w
    · have same := laterQuiet found
      simp only [lastSnapshot?, found, Option.none_or]
      refine ⟨fun none name isName => (same name isName).trans (quiet none name isName), ?_⟩
      intro path text hrun
      obtain ⟨name, isFile, isName, rfl, top⟩ := stored path text hrun
      exact ⟨name, isFile, isName, rfl, same.isTop isName top⟩
    · simp only [lastSnapshot?, found, Option.some_or]
      refine ⟨nofun, fun path text hw => ?_⟩
      exact laterStored path text (found.trans hw)

lemma isRun_of_mem (h : StoreRuns registry directory t runs t') {run : StoreRun}
    (mem : run ∈ runs) :
    ∃ before after, run.IsRun registry directory before after := by
  induction h with
  | nil t => cases mem
  | cons later first rest ih =>
    rcases List.mem_cons.1 mem with rfl | mem
    · exact ⟨_, _, first⟩
    · exact ih mem

end StoreRuns

lemma lastSnapshot?_append {runs runs' : List StoreRun} :
    lastSnapshot? type (runs ++ runs') =
      (lastSnapshot? type runs').or (lastSnapshot? type runs) := by
  induction runs with
  | nil => simp [lastSnapshot?]
  | cons run runs ih => simp [lastSnapshot?, ih, Option.or_assoc]

lemma exists_run_of_lastSnapshot? {runs : List StoreRun} {w : Path × String}
    (h : lastSnapshot? type runs = some w) : ∃ run ∈ runs, run.snapshot? type = some w := by
  induction runs with
  | nil => cases h
  | cons run runs ih =>
    rcases Option.or_eq_some_iff.1 h with last | ⟨-, first⟩
    · obtain ⟨run', mem, found⟩ := ih last
      exact ⟨run', List.mem_cons_of_mem _ mem, found⟩
    · exact ⟨run, List.mem_cons_self, first⟩

/-- The last snapshot of a type that was stored is the newest one, and stands as it was written. -/
lemma StoreRuns.isNewest {runs : List StoreRun} {path : Path} {text : String}
    (h : StoreRuns registry directory t runs t') (there : Made t directory here made)
    (dated : ∀ type, DatedBy made here type t.clock) (distinct : t.nodes.keys.Nodup)
    (last : lastSnapshot? type runs = some (path, text)) :
    IsNewest t' directory type path ∧ t'.read path = .ok text.toUTF8 := by
  obtain ⟨made', there', -, tops⟩ := h.isTop there dated
  obtain ⟨name, isFile, isName, rfl, time, held, others⟩ := (tops type).2 path text last
  obtain ⟨run, mem, found⟩ := exists_run_of_lastSnapshot? last
  obtain ⟨_, _, isRun⟩ := h.isRun_of_mem mem
  obtain ⟨inner, own, located⟩ :=
    h.made_of_written mem isFile ((StoreRun.snapshot?_spec isRun).1 _ _ found).1
  obtain ⟨rfl, rfl⟩ := there'.eq_self own.located own.isDirectory
  exact ⟨isNewest_of_find? (h.distinct distinct) own.located own.isDirectory isName held others,
    read_eq_ok_iff.2 ⟨_, time, located, held⟩⟩

/-- What store runs leave, whatever fails in them.

* A run stores complete snapshots of the first types, of all of them exactly if it does not fail.
* No file changes but those that a run has written.
* A reader of a type takes the last snapshot of this type that was stored.
* The snapshots of all types come from a run after which none was stored exactly if this run did not
  fail. -/
theorem snapshots_of_storeRuns {runs : List StoreRun} (h : StoreRuns registry directory t runs t')
    (there : Made t directory here made) (dated : ∀ type, DatedBy made here type t.clock)
    (distinct : t.nodes.keys.Nodup) :
    (∀ run ∈ runs, ∃ done rest, EventType.all = done ++ rest ∧
      List.Forall₂ (StoredAs registry directory run.block run.chunk run.events) done
        (written run.events) ∧ (rest = [] ↔ ∃ paths, run.result = .ok paths)) ∧
    (∀ parts, t'.file? parts = t.file? parts ∨ ∃ run ∈ runs, ∃ path text time,
      (path, text) ∈ written run.events ∧ t'.locate path = .ok parts ∧
        t'.file? parts = some (text.toUTF8, time)) ∧
    (∀ type path text, lastSnapshot? type runs = some (path, text) →
      IsPicked t' directory type path text) ∧
    ∀ before run after, runs = before ++ run :: after → (∀ r ∈ after, written r.events = []) →
      ((∀ type, ∃ path text, run.snapshot? type = some (path, text) ∧
        IsPicked t' directory type path text) ↔ ∃ paths, run.result = .ok paths) := by
  have picked (type : EventType) (path : Path) (text : String)
      (last : lastSnapshot? type runs = some (path, text)) :
      IsPicked t' directory type path text := by
    obtain ⟨newest, content⟩ := h.isNewest there dated distinct last
    refine ⟨fun trace t'' r run files => ?_, content⟩
    obtain ⟨answers, -⟩ := answers_of_looks files (allowed_of_runs looks_latestArtifact run)
    exact latestArtifact_eq_of_isNewest run answers newest
  refine ⟨fun run mem => ?_, h.file?_cases, picked, ?_⟩
  · obtain ⟨_, _, isRun⟩ := h.isRun_of_mem mem
    obtain ⟨done, rest, split, each, complete, -⟩ := runs_storeTypes isRun.runs isRun.files
    exact ⟨done, rest, split, each, complete⟩
  · rintro before run after rfl idle
    obtain ⟨_, _, isRun⟩ := h.isRun_of_mem (List.mem_append_right before List.mem_cons_self)
    rw [← StoreRun.snapshot?_complete_iff isRun]
    refine forall_congr' fun type => ?_
    refine ⟨fun ⟨path, text, found, _⟩ => ⟨_, found⟩, fun ⟨⟨path, text⟩, found⟩ => ?_⟩
    have none : lastSnapshot? type after = none := by
      refine Option.eq_none_iff_forall_ne_some.2 fun w last => ?_
      obtain ⟨r, mem, stored⟩ := exists_run_of_lastSnapshot? last
      rw [StoreRun.snapshot?_of_written_eq_nil (idle r mem)] at stored
      cases stored
    refine ⟨path, text, found, picked type path text ?_⟩
    rw [lastSnapshot?_append, lastSnapshot?, none, Option.none_or, found, Option.some_or]

/-- An empty directory for snapshots. -/
def emptyDirectory : FileTree where
  nodes := [(["a"], .directory)]

lemma emptyDirectory_located : emptyDirectory.locate (Path.ofText "a") = .ok ["a"] := by
  rw [locate, Path.hasNul_eq]
  decide +kernel

lemma datedBy_emptyDirectory : DatedBy emptyDirectory ["a"] type emptyDirectory.clock := by
  intro name node isName found
  rw [find?_eq_nodes (isAtOrAbove_concat isName.notAbove)] at found
  simp [emptyDirectory, Keyed.find?] at found

/-- A node that knows of no events and does not tell those of one type. -/
def NodeCall.withoutUnstaked : (c : NodeCall) → c.Answer
  | .logs _ "Unstaked" _ _ => unreached
  | .logs _ _ _ _ => Except.ok []
  | c => c.offline

/-- A run at block 5 that fails at the second type. -/
lemma exists_failed_run : ∃ run : StoreRun, (∃ e, run.result = .error e) ∧
    run.IsRun "r" (Path.ofText "a") (emptyDirectory.atTime 1)
      ((emptyDirectory.atTime 1).putNode ["a", artifactName "staked" 5 (Moment.ofSeconds 0)]
        (.file "[]".toUTF8 1)) ∧
    written run.events =
      [((Path.ofText "a").child (artifactName "staked" 5 (Moment.ofSeconds 0)), "[]")] := by
  have directoryAt : (emptyDirectory.atTime 1).locate (Path.ofText "a") = .ok ["a"] := by
    rw [locate, Path.hasNul_eq]
    decide +kernel
  have fileAt : (emptyDirectory.atTime 1).locate ((Path.ofText "a").child
      (artifactName EventType.staked.name 5 (Moment.ofSeconds 0))) =
        .ok ["a", artifactName EventType.staked.name 5 (Moment.ofSeconds 0)] := by
    rw [locate, Path.hasNul_eq]
    decide +kernel
  have free : ((emptyDirectory.atTime 1).find?
      ["a", artifactName EventType.staked.name 5 (Moment.ofSeconds 0)]).isNone = true := by
    decide +kernel
  let host := Host.onTree NodeCall.withoutUnstaked
  let q : Fetch := { toBlock := some 5, chunk := 10 }
  have fetch := runs_trace host (fetchEvents "r" .staked q).run (emptyDirectory.atTime 1)
  have none : ((fetchEvents "r" .staked q).run.run host (emptyDirectory.atTime 1)).1 = .ok [] := by
    decide +kernel
  rw [none] at fetch
  obtain ⟨first, run, files, once, -⟩ := exists_runs_storeType .staked 5 (Moment.ofSeconds 0) fetch
    (.self directoryAt rfl) fileAt (by simp [Option.isNone_iff_eq_none.1 free])
    (by decide +kernel : eventsText? [] = some "[]")
  let left := (emptyDirectory.atTime 1).putNode ["a", artifactName "staked" 5 (Moment.ofSeconds 0)]
    (.file "[]".toUTF8 1)
  have second := runs_trace host (storeType "r" (Path.ofText "a") 5 10 .unstaked).run left
  have still : OnFiles left _ left :=
    onFiles_trace NodeCall.withoutUnstaked (storeType "r" (Path.ofText "a") 5 10 .unstaked).run left
  have failed : ((storeType "r" (Path.ofText "a") 5 10 .unstaked).run.run host left).1 =
      .error (.query (.fault (.reported .connection "unreached"))) := by decide +kernel
  rw [failed] at second
  refine ⟨⟨5, 10, _, .error (.query (.fault (.reported .connection "unreached")))⟩, ⟨_, rfl⟩,
    ⟨?_, onFiles_append_iff.2 ⟨left, files, still⟩⟩, ?_⟩
  · rw [storeAll, EventType.all, List.mapM_cons]
    refine runs_run_bind_iff.2
      (.inr ⟨first, _, _, rfl, run, runs_run_bind_iff.2 (.inl ⟨_, rfl, ?_⟩)⟩)
    rw [List.mapM_cons]
    exact runs_run_bind_iff.2 (.inl ⟨_, rfl, second⟩)
  · rw [written_append, once]
    rfl

/-- The snapshot of the type before the failure is taken by its readers, and the other types have
none of this run. -/
theorem snapshots_of_failed_storeRun : ∃ run t',
    StoreRuns "r" (Path.ofText "a") emptyDirectory [run] t' ∧
    IsPicked t' (Path.ofText "a") .staked
      ((Path.ofText "a").child (artifactName "staked" 5 (Moment.ofSeconds 0))) "[]" ∧
    ¬ ∀ type, ∃ path text, run.snapshot? type = some (path, text) ∧
      IsPicked t' (Path.ofText "a") type path text := by
  obtain ⟨run, ⟨e, failed⟩, isRun, once⟩ := exists_failed_run
  have runs : StoreRuns "r" (Path.ofText "a") emptyDirectory [run] _ :=
    .cons (by decide) isRun (.nil _)
  obtain ⟨-, -, picked, together⟩ := snapshots_of_storeRuns runs (.self emptyDirectory_located rfl)
    (fun _ => datedBy_emptyDirectory) (by decide)
  refine ⟨run, _, runs, picked .staked _ _ ?_, ?_⟩
  · rw [lastSnapshot?, lastSnapshot?, Option.none_or, StoreRun.snapshot?, once]
    rfl
  · rw [together [] run [] rfl (List.forall_mem_nil _), failed]
    simp

/-- A failed run does not leave the files as they were. -/
theorem failed_store_not_undone :
    ¬ ∀ {registry : String} {directory : Path} {t t' : FileTree} {run : StoreRun},
      run.IsRun registry directory t t' → (∃ e, run.result = .error e) →
        ∀ parts, t'.file? parts = t.file? parts := by
  intro undone
  obtain ⟨run, failed, isRun, -⟩ := exists_failed_run
  have same := undone isRun failed ["a", artifactName "staked" 5 (Moment.ofSeconds 0)]
  rw [file?_putNode (by decide +kernel), if_pos rfl] at same
  have before : ((emptyDirectory.atTime 1).file?
      ["a", artifactName "staked" 5 (Moment.ofSeconds 0)]).isNone = true := by decide +kernel
  rw [← same] at before
  cases before

end StakeRegistry.Registry
