/-
When a fetch comes to an end.

The requests of a fetch are those of a loop: as long as blocks are left, one more chunk is fetched.
A whole run of the loop is told by `Chunks`, whatever the size of the chunks is; `Rounds` tells of a
number of rounds after which blocks are still left. A fetch that is allowed a number of requests is
a whole run of the loop with at most as many requests, or it is cut off after as many rounds
(`runs_fetchFrom_iff`).

* Each round leaves fewer blocks if a chunk has at least one block, so that there are no more rounds
  than blocks (`Rounds.lt_blocks`).
* Otherwise no round leaves fewer blocks, and the loop ends only with a request that fails
  (`Chunks.ne_ok_of_nonpos`, `Rounds.requestedBlocks_eq`).

The main statement is `fetch_ends_iff`: the requests come to an end for every node exactly if a
chunk has at least one block or the range has none.
-/
import Mathlib.Tactic.Ring
import StakeRegistry.Command.Dispatch
import StakeRegistry.Proofs.Registry.Chunks

namespace StakeRegistry.Registry

open Program

variable {registry : String} {type : EventType} {q : Fetch} {first last stop : Int}
  {limit count : Nat} {es own later : List (Program.Event Host)}
  {r : Except QueryError (List Event)}

/-! ### Rounds -/

/-- The request for the logs of a chunk, with what the node answers. -/
def logsEvent (registry : String) (type : EventType) (first last : Int)
    (x : Except Fault (List RawLog)) :
    Program.Event Host :=
  ⟨.node (.logs registry type.logName first last), x⟩

/-- From a block on, a number of chunks are fetched one after another, and blocks are left. -/
inductive Rounds (registry : String) (type : EventType) (q : Fetch) (stop : Int) :
    (count : Nat) → (first : Int) → List (Program.Event Host) → Prop where
  | left {first : Int} (left : first ≤ stop) : Rounds registry type q stop 0 first []
  | round {count : Nat} {first last : Int} {logs : List RawLog} {events : List Event}
      {paused later : List (Program.Event Host)} (left : first ≤ stop)
      (clip : last = min (first + q.chunk - 1) stop) (reads : logs.mapM Event.ofLog = .ok events)
      (pauses : Runs (pause q.delay : Act QueryError Unit).run paused (.ok ()))
      (rest : Rounds registry type q stop count (last + 1) later) :
      Rounds registry type q stop (count + 1) first
        (logsEvent registry type first last (.ok logs) :: (paused ++ later))

lemma Rounds.le_stop (h : Rounds registry type q stop count first es) : first ≤ stop := by
  cases h <;> assumption

/-- The requests behind a chunk are counted apart from the pause. -/
lemma requestedBlocks_chunk {x : Except Fault (List RawLog)}
    (pauses : Runs (pause q.delay : Act QueryError Unit).run own (.ok ())) :
    requestedBlocks (logsEvent registry type first last x :: (own ++ later)) =
      (first, last) :: requestedBlocks later := by
  rw [logsEvent, requestedBlocks_logs, requestedBlocks, nodeCalls_append, nodeCalls_pause pauses]
  rfl

/-- A loop over a range without blocks has ended. -/
lemma Chunks.of_lt (h : Chunks registry type q stop first es r) (ended : stop < first) :
    es = [] ∧ r = .ok [] := by
  cases h with
  | ended => exact ⟨rfl, rfl⟩
  | refused left | unreadable left | chunk left => omega

/-- A whole run of the loop ends with what was found or with the failure of a request. -/
lemma Chunks.ne_unfinished (h : Chunks registry type q stop first es r) :
    r ≠ .error .unfinished := by
  induction h with
  | ended | refused | unreadable => nofun
  | @chunk _ _ _ _ _ _ r left clip reads pauses rest ih =>
    cases r with
    | ok events => nofun
    | error e => exact fun same => ih same

/-- What one round of the loop does. -/
lemma runs_fetchFrom_succ_iff (left : first ≤ stop) (clip : last = min (first + q.chunk - 1) stop) :
    Runs (fetchFrom registry type q stop first (limit + 1)).run es r ↔
      (∃ f, es = [logsEvent registry type first last (.error f)] ∧ r = .error (.fault f)) ∨
      (∃ logs e, logs.mapM Event.ofLog = .error e ∧
        es = [logsEvent registry type first last (.ok logs)] ∧ r = .error (.unreadable e)) ∨
      ∃ logs events paused later x, logs.mapM Event.ofLog = .ok events ∧
        es = logsEvent registry type first last (.ok logs) :: (paused ++ later) ∧
        Runs (pause q.delay : Act QueryError Unit).run paused (.ok ()) ∧
        Runs (fetchFrom registry type q stop (last + 1) limit).run later x ∧
        r = x.map (events ++ ·) := by
  subst clip
  rw [fetchFrom, if_neg (by omega), Act.runs_ask_bind_iff]
  constructor
  · rintro ⟨x, rest, rfl, run⟩
    rcases x with f | logs
    · obtain ⟨rfl, rfl⟩ := runs_run_throw_iff.1 run
      exact .inl ⟨f, rfl, rfl⟩
    · rw [Act.orElse_ok_bind] at run
      cases reads : logs.mapM Event.ofLog with
      | error e =>
        rw [reads] at run
        obtain ⟨rfl, rfl⟩ := runs_run_throw_iff.1 run
        exact .inr (.inl ⟨logs, e, reads, rfl, rfl⟩)
      | ok events =>
        rw [reads, Act.orElse_ok_bind] at run
        rcases runs_run_bind_iff.1 run with
          ⟨e, rfl, failed⟩ | ⟨paused, later, ⟨⟩, rfl, pauses, afterPause⟩
        · cases (runs_pause failed).1
        obtain ⟨x, others, rfl⟩ := runs_run_map_iff.1 afterPause
        exact .inr (.inr ⟨logs, events, paused, later, x, reads, rfl, pauses, others, rfl⟩)
  · rintro (⟨f, rfl, rfl⟩ | ⟨logs, e, reads, rfl, rfl⟩ |
      ⟨logs, events, paused, later, x, reads, rfl, pauses, others, rfl⟩)
    · exact ⟨_, [], rfl, runs_run_throw_iff.2 ⟨rfl, rfl⟩⟩
    · refine ⟨_, [], rfl, ?_⟩
      rw [Act.orElse_ok_bind, reads]
      exact runs_run_throw_iff.2 ⟨rfl, rfl⟩
    · refine ⟨_, _, rfl, ?_⟩
      rw [Act.orElse_ok_bind, reads, Act.orElse_ok_bind]
      exact runs_run_bind_iff.2
        (.inr ⟨paused, later, (), rfl, pauses, runs_run_map_iff.2 ⟨x, others, rfl⟩⟩)

/-- Nothing is asked for a range without blocks. -/
lemma runs_fetchFrom_of_lt (ended : stop < first) :
    Runs (fetchFrom registry type q stop first limit).run es r ↔ es = [] ∧ r = .ok [] := by
  cases limit <;> rw [fetchFrom, if_pos ended] <;> exact runs_run_pure_iff

lemma whole_or_cut_of_lt (ended : stop < first) :
    (Chunks registry type q stop first es r ∧ (requestedBlocks es).length ≤ limit) ∨
      (r = .error .unfinished ∧ Rounds registry type q stop limit first es) ↔
      es = [] ∧ r = .ok [] := by
  constructor
  · rintro (⟨chunks, -⟩ | ⟨-, rounds⟩)
    · exact chunks.of_lt ended
    · have := rounds.le_stop
      omega
  · rintro ⟨rfl, rfl⟩
    exact .inl ⟨.ended ended, Nat.zero_le _⟩

/-- A fetch that is allowed a number of requests is a whole run of the loop, or it is cut off. -/
lemma runs_fetchFrom_iff : Runs (fetchFrom registry type q stop first limit).run es r ↔
    (Chunks registry type q stop first es r ∧ (requestedBlocks es).length ≤ limit) ∨
      (r = .error .unfinished ∧ Rounds registry type q stop limit first es) := by
  induction limit generalizing first es r with
  | zero =>
    by_cases ended : stop < first
    · rw [runs_fetchFrom_of_lt ended, whole_or_cut_of_lt ended]
    rw [fetchFrom, if_neg ended, runs_run_throw_iff]
    constructor
    · rintro ⟨rfl, rfl⟩
      exact .inr ⟨rfl, .left (by omega)⟩
    · rintro (⟨chunks, none⟩ | ⟨rfl, ⟨-⟩⟩)
      · -- the loop would have asked for a chunk
        cases chunks <;> contradiction
      · exact ⟨rfl, rfl⟩
  | succ limit ih =>
    by_cases ended : stop < first
    · rw [runs_fetchFrom_of_lt ended, whole_or_cut_of_lt ended]
    rw [runs_fetchFrom_succ_iff (by omega) rfl]
    constructor
    · rintro (⟨f, rfl, rfl⟩ | ⟨logs, e, reads, rfl, rfl⟩ |
        ⟨logs, events, paused, later, x, reads, rfl, pauses, others, rfl⟩)
      · exact .inl ⟨.refused (by omega) rfl, Nat.le_add_left _ _⟩
      · exact .inl ⟨.unreadable (by omega) rfl reads, Nat.le_add_left _ _⟩
      · rcases ih.1 others with ⟨chunks, few⟩ | ⟨rfl, rounds⟩
        · refine .inl ⟨.chunk (by omega) rfl reads pauses chunks, ?_⟩
          rw [requestedBlocks_chunk pauses, List.length_cons]
          exact Nat.add_le_add_right few 1
        · exact .inr ⟨rfl, .round (by omega) rfl reads pauses rounds⟩
    · rintro (⟨chunks, few⟩ | ⟨rfl, rounds⟩)
      · cases chunks with
        | ended h => exact absurd h ended
        | refused left clip => exact .inl ⟨_, by rw [← clip]; rfl, rfl⟩
        | unreadable left clip reads => exact .inr (.inl ⟨_, _, reads, by rw [← clip]; rfl, rfl⟩)
        | chunk left clip reads pauses rest =>
          subst clip
          rw [← logsEvent, requestedBlocks_chunk pauses, List.length_cons] at few
          have others := ih.2 (.inl ⟨rest, Nat.le_of_succ_le_succ few⟩)
          exact .inr (.inr ⟨_, _, _, _, _, reads, rfl, pauses, others, rfl⟩)
      · cases rounds with
        | round left clip reads pauses rest =>
          subst clip
          have others := ih.2 (.inr ⟨rfl, rest⟩)
          exact .inr (.inr ⟨_, _, _, _, .error .unfinished, reads, rfl, pauses, others, rfl⟩)

/-! ### Chunks with at least one block -/

/-- Each round has left fewer blocks. -/
lemma Rounds.lt_blocks (h : Rounds registry type q stop count first es) (positive : 1 ≤ q.chunk) :
    first + count ≤ stop := by
  induction h with
  | left left => simpa using left
  | round left clip reads pauses rest ih =>
    push_cast
    omega

/-- No more requests are made than there are blocks. -/
lemma Chunks.length_le (h : Chunks registry type q stop first es r) (positive : 1 ≤ q.chunk) :
    (requestedBlocks es).length ≤ (stop - first + 1).toNat := by
  induction h with
  | ended ended => exact Nat.zero_le _
  | @refused first _ _ left | @unreadable first _ _ _ left =>
    have one : 1 ≤ (stop - first + 1).toNat := by omega
    exact one
  | chunk left clip reads pauses rest ih =>
    rw [← logsEvent, requestedBlocks_chunk pauses, List.length_cons]
    omega

/-! ### Chunks without blocks -/

/-- The range that is asked for in a round, if a chunk has no blocks: it ends before it begins. -/
def emptyRange (q : Fetch) (first : Int) (round : Nat) : Int × Int :=
  (first + round * q.chunk, first + (round + 1) * q.chunk - 1)

/-- If the event is a question about logs, the answer can be read. -/
def Readable : Program.Event Host → Prop
  | ⟨.node (.logs _ _ _ _), x⟩ =>
    ∃ logs events, x = (.ok logs : Except Fault (List RawLog)) ∧ logs.mapM Event.ofLog = .ok events
  | _ => True

/-- The same blocks are left after a round. -/
lemma Rounds.requestedBlocks_eq (h : Rounds registry type q stop count first es)
    (nonpos : q.chunk ≤ 0) :
    requestedBlocks es = (List.range count).map (emptyRange q first) := by
  induction h with
  | left => rfl
  | @round count first last logs events paused later left clip reads pauses rest ih =>
    obtain rfl : last = first + q.chunk - 1 := by omega
    have next : emptyRange q (first + q.chunk - 1 + 1) = emptyRange q first ∘ Nat.succ := by
      funext i
      simp only [emptyRange, Function.comp, Nat.succ_eq_add_one, Prod.mk.injEq]
      push_cast
      constructor <;> ring
    rw [requestedBlocks_chunk pauses, ih, next, List.range_succ_eq_map, List.map_cons, List.map_map]
    simp [emptyRange]

/-- The loop does not end with a chunk that was fetched. -/
lemma Chunks.ne_ok_of_nonpos (h : Chunks registry type q stop first es r) (nonpos : q.chunk ≤ 0)
    (left : first ≤ stop) : (∀ events, r ≠ .ok events) ∧ ¬ ∀ e ∈ es, Readable e := by
  induction h with
  | ended ended => omega
  | refused =>
    refine ⟨nofun, fun readable => ?_⟩
    obtain ⟨logs, events, failed, -⟩ := List.forall_mem_singleton.1 readable
    cases failed
  | unreadable _ _ reads =>
    refine ⟨nofun, fun readable => ?_⟩
    obtain ⟨logs, events, told, read⟩ := List.forall_mem_singleton.1 readable
    obtain rfl := Except.ok.inj told
    cases reads.symm.trans read
  | @chunk first last logs events paused later r _ clip reads pauses rest ih =>
    obtain ⟨failed, unreadable⟩ := ih (by omega)
    constructor
    · cases r with
      | ok others => exact absurd rfl (failed others)
      | error e => nofun
    · intro readable
      exact unreadable fun e mem =>
        readable e (List.mem_cons_of_mem _ (List.mem_append_right _ mem))

/-! ### The whole fetch -/

/-- The last block of a fetch is given, or it is told as the newest one. -/
def EndsAt (q : Fetch) (es : List (Program.Event Host)) (stop : Int) : Prop :=
  q.toBlock = some stop ∨
    q.toBlock = none ∧ es.head? = some ⟨.node .blockNumber, (.ok stop : Except Fault Int)⟩

lemma EndsAt.eq {stop' : Int} (h : EndsAt q es stop) (h' : EndsAt q es stop') : stop' = stop := by
  rcases h with given | ⟨absent, told⟩ <;> rcases h' with given' | ⟨absent', told'⟩
  · exact Option.some.inj (given'.symm.trans given)
  · cases given.symm.trans absent'
  · cases given'.symm.trans absent
  · cases told.symm.trans told'
    rfl

/-- The last block becomes known, and the loop is run up to it; or the newest block is not known. -/
lemma exists_fetchFrom_of_runs (run : Runs (fetchEvents registry type q).run es r) :
    (∃ stop own, EndsAt q es stop ∧ requestedBlocks es = requestedBlocks own ∧ (∀ e ∈ own, e ∈ es) ∧
      Runs (fetchFrom registry type q stop q.fromBlock (requestLimit q stop)).run own r) ∨
    q.toBlock = none ∧ ∃ f, es = [⟨.node .blockNumber, (.error f : Except Fault Int)⟩] ∧
    r = .error (.fault f) := by
  rw [fetchEvents] at run
  cases given : q.toBlock with
  | some stop =>
    rw [given] at run
    exact .inl ⟨stop, es, .inl given, rfl, fun _ mem => mem, run⟩
  | none =>
    rw [given, newestBlock] at run
    rcases runs_run_bind_iff.1 run with ⟨e, rfl, failed⟩ | ⟨own, later, stop, rfl, asked, fetched⟩
    · obtain ⟨x, rest, rfl, ended⟩ := Act.runs_ask_bind_iff.1 failed
      obtain ⟨rfl, he⟩ := Act.runs_orElse_iff.1 ended
      obtain ⟨f, rfl, rfl⟩ := mapError_eq_error_iff.1 he.symm
      exact .inr ⟨rfl, f, rfl, rfl⟩
    · obtain ⟨x, rest, rfl, ended⟩ := Act.runs_ask_bind_iff.1 asked
      obtain ⟨rfl, hstop⟩ := Act.runs_orElse_iff.1 ended
      obtain rfl := mapError_eq_ok_iff.1 hstop.symm
      exact .inl ⟨stop, later, .inr ⟨given, rfl⟩, rfl, fun _ mem =>
        List.mem_append_right _ mem, fetched⟩

/-- If a chunk has blocks, a fetch is not cut off, and it makes no more requests than there are
blocks. -/
lemma whole_of_runs (run : Runs (fetchEvents registry type q).run es r) (positive : 1 ≤ q.chunk) :
    r ≠ .error .unfinished ∧
      ∀ stop, EndsAt q es stop → (requestedBlocks es).length ≤ (stop - q.fromBlock + 1).toNat := by
  rcases exists_fetchFrom_of_runs run with
    ⟨stop, own, ends, blocks, -, loop⟩ | ⟨absent, f, rfl, rfl⟩
  · rcases runs_fetchFrom_iff.1 loop with ⟨chunks, -⟩ | ⟨-, rounds⟩
    · refine ⟨chunks.ne_unfinished, fun stop' ends' => ?_⟩
      rw [ends.eq ends', blocks]
      exact chunks.length_le positive
    · -- there would be more rounds than blocks
      have more := rounds.lt_blocks positive
      rw [requestLimit, if_pos positive] at more
      have := rounds.le_stop
      omega
  · exact ⟨by simp, fun stop ends => Nat.zero_le _⟩

/-- Without blocks in a chunk, a fetch of a range with blocks does not return, and as long as no
request fails it asks for the next range of no blocks. -/
lemma endless_of_runs (run : Runs (fetchEvents registry type { q with budget := limit }).run es r)
    (nonpos : q.chunk ≤ 0) (ends : EndsAt q es stop) (left : q.fromBlock ≤ stop) :
    (∀ events, r ≠ .ok events) ∧ ((∀ e ∈ es, Readable e) →
      r = .error .unfinished ∧ requestedBlocks es =
        (List.range limit).map (emptyRange q q.fromBlock)) := by
  have allowed : requestLimit { q with budget := limit } stop = limit :=
    if_neg (show ¬ 1 ≤ q.chunk by omega)
  rcases exists_fetchFrom_of_runs run with
    ⟨stop', own, ends', blocks, inside, loop⟩ | ⟨absent, f, rfl, rfl⟩
  · obtain rfl : stop = stop' := EndsAt.eq ends' ends
    rw [allowed] at loop
    rcases runs_fetchFrom_iff.1 loop with ⟨chunks, -⟩ | ⟨rfl, rounds⟩
    · obtain ⟨failed, unreadable⟩ := chunks.ne_ok_of_nonpos nonpos left
      exact ⟨failed, fun readable => absurd (fun e mem => readable e (inside e mem)) unreadable⟩
    · exact ⟨nofun, fun _ => ⟨rfl, blocks.trans (rounds.requestedBlocks_eq nonpos)⟩⟩
  · rcases ends with given | ⟨-, told⟩
    · cases given.symm.trans absent
    · cases told

/-- A chain without logs. -/
def emptyArchive : Archive where
  logs _ := []
  ordered _ := .nil

lemma readable_emptyArchive {α : Type} (newest : Int) (p : Program Host α) :
    ∀ e ∈ p.trace (Host.onNode (emptyArchive.node newest)) (), Readable e := by
  refine forall_mem_trace (fun c _ => ?_) p ()
  rcases c with _ | _ | _ | _ | _ | _ | _ | _ | _ | c | _
  case node =>
    cases c with
    | logs registry name first last =>
      refine ⟨_, [], rfl, ?_⟩
      have none :
        (EventType.all.filter (·.logName = name)).flatMap
          (emptyArchive.within · first last) = [] := by
        simp [Archive.within, emptyArchive]
      rw [none]
      rfl
    | _ => trivial
  all_goals trivial

/-- On a chain without logs whose newest block is the first one asked for, no number of requests is
enough. -/
lemma unfinished_on_emptyArchive (registry : String) (type : EventType) (q : Fetch) (limit : Nat)
    (nonpos : q.chunk ≤ 0) (left : ∀ stop, q.toBlock = some stop → q.fromBlock ≤ stop) :
    let fetch := (fetchEvents registry type { q with budget := limit }).run
    let host := Host.onNode (emptyArchive.node q.fromBlock)
    (fetch.run host ()).1 = .error .unfinished ∧
      requestedBlocks (fetch.trace host ()) =
        (List.range limit).map (emptyRange q q.fromBlock) := by
  intro fetch host
  have run := runs_trace host fetch ()
  have told := emptyArchive.tells_trace q.fromBlock fetch
  have readable := readable_emptyArchive q.fromBlock fetch
  rcases exists_fetchFrom_of_runs run with ⟨stop, own, ends, -⟩ | ⟨-, f, asked, -⟩
  · refine (endless_of_runs run nonpos ends ?_).2 readable
    rcases ends with given | ⟨-, newest⟩
    · exact left stop given
    · have same := Except.ok.inj (told _ (List.mem_of_mem_head? newest))
      exact same.ge
  · rw [asked] at told
    cases List.forall_mem_singleton.1 told

/-- When a fetch comes to an end. -/
structure Ending (registry : String) (type : EventType) (q : Fetch) : Prop where
  /-- A fetch that is allowed a number of requests is a whole run of the loop with at most as many
  requests, or it is cut off after as many rounds. -/
  whole_or_cut : ∀ {limit es r stop},
    Runs (fetchFrom registry type q stop q.fromBlock limit).run es r ↔
      (Chunks registry type q stop q.fromBlock es r ∧ (requestedBlocks es).length ≤ limit) ∨
        (r = .error .unfinished ∧ Rounds registry type q stop limit q.fromBlock es)
  /-- Some number of requests is enough for every node exactly if a chunk has at least one block or
  the range is given and has none. -/
  ends_iff :
      (∃ limit, ∀ es r, Runs (fetchEvents registry type { q with budget := limit }).run es r →
      r ≠ .error .unfinished) ↔ 1 ≤ q.chunk ∨ ∃ stop, q.toBlock = some stop ∧ stop < q.fromBlock
  /-- If a chunk has at least one block, there are no more requests than blocks. -/
  bounded : 1 ≤ q.chunk → ∀ {es r}, Runs (fetchEvents registry type q).run es r →
    r ≠ .error .unfinished ∧
      ∀ stop, EndsAt q es stop → (requestedBlocks es).length ≤ (stop - q.fromBlock + 1).toNat
  /-- If a chunk has none, a fetch of a range with blocks does not return; as long as no request
  fails, it goes on with ranges of no blocks, however many requests are allowed. -/
  endless : q.chunk ≤ 0 → ∀ {limit es r stop},
    Runs (fetchEvents registry type { q with budget := limit }).run es r → EndsAt q es stop →
    q.fromBlock ≤ stop → (∀ events, r ≠ .ok events) ∧ ((∀ e ∈ es, Readable e) →
      r = .error .unfinished ∧ requestedBlocks es =
        (List.range limit).map (emptyRange q q.fromBlock))

/-- A fetch comes to an end for every node exactly if its chunks have blocks, or its range has
none. -/
theorem fetch_ends_iff (registry : String) (type : EventType) (q : Fetch) :
    Ending registry type q where
  whole_or_cut := runs_fetchFrom_iff
  ends_iff := by
    constructor
    · rintro ⟨limit, ends⟩
      by_contra! endless
      obtain ⟨nonpos, left⟩ := endless
      have cut := (unfinished_on_emptyArchive registry type q limit (by omega) left).1
      exact ends _ _ (runs_trace _ _ ()) cut
    · rintro (positive | ⟨stop, given, ended⟩)
      · exact ⟨0, fun es r run => (whole_of_runs run positive).1⟩
      · refine ⟨0, fun es r run => ?_⟩
        rw [fetchEvents, given] at run
        rw [((runs_fetchFrom_of_lt ended).1 run).2]
        simp
  bounded positive _ _ run := whole_of_runs run positive
  endless nonpos _ _ _ _ run ends left := endless_of_runs run nonpos ends left

/-- The command lines accept chunks of no blocks, and a fetch of a single block with such chunks
goes on whatever number of requests is allowed. -/
theorem fetch_without_blocks_endless :
    (((Command.Name.table .store).settings ["--chunk-size", "0", "store"]).toOption.map
      fun s => (Command.Store.Options.ofSettings s).chunk) = some 0 ∧
    (((Command.Name.table .optedInValidators).settings ["--chunk-size=-3"]).toOption.map
      fun s => (Command.OptedInValidators.Options.ofSettings s).chunk) = some (-3) ∧
    ∀ limit, ∀ chunk ∈ [(0 : Int), -3],
      let fetch := (fetchEvents "r" .staked { toBlock := some 0, chunk, budget := limit }).run
      let host := Host.onNode (emptyArchive.node 0)
      (fetch.run host ()).1 = .error .unfinished ∧
      (requestedBlocks (fetch.trace host ())).length = limit := by
  refine ⟨by decide +kernel, by decide +kernel, ?_⟩
  intro limit chunk mem fetch host
  have nonpos : chunk ≤ 0 := by
    simp only [List.mem_cons, List.not_mem_nil, or_false] at mem
    omega
  obtain ⟨cut, blocks⟩ :=
    unfinished_on_emptyArchive "r" .staked { toBlock := some 0, chunk } limit nonpos (by simp)
  refine ⟨cut, ?_⟩
  have counted := congrArg List.length blocks
  rwa [List.length_map, List.length_range] at counted

end StakeRegistry.Registry
