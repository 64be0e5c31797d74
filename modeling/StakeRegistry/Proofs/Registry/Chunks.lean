/-
Fetching a range of blocks in chunks.

A fetch asks for one chunk after another (`Chunks`), up to the first one that cannot be had or read:

* `Consecutive size first stop ranges`: the ranges follow one another from `first` to `stop`, with
  at least one and at most `size` blocks each;
* `Archive`: the logs of a chain in the order of their blocks, which a node tells as it is asked for
  them (`Archive.Tells`);
* `Exact registry name q es r`: what is asked and found, if the events `es` are those of a fetch
  that ends with `r`.

The main statement is `fetch_exact`: with chunks of any positive size, the requests divide the
range, and what is found is the conversion of the logs in it, which the size has no part in
(`Archive.within_append`).
-/
import Mathlib.Algebra.Order.Ring.Int
import Mathlib.Data.List.Chain
import StakeRegistry.Proofs.Host.Acts
import StakeRegistry.Proofs.Host.Surroundings
import StakeRegistry.Registry.Fetch

namespace StakeRegistry.Registry

open Program

variable {registry name : String} {type : EventType} {q : Fetch} {size first last stop newest : Int}
  {es own later : List (Program.Event Host)} {r : Except QueryError (List Event)}

/-! ### Runs -/

/-- From a block on, the node is asked for one chunk after another up to the last block. -/
inductive Chunks (registry : String) (type : EventType) (q : Fetch) (stop : Int) :
    (first : Int) → List (Program.Event Host) → Except QueryError (List Event) → Prop where
  /-- No block is left. -/
  | ended {first : Int} (ended : stop < first) : Chunks registry type q stop first [] (.ok [])
  /-- The logs of a chunk cannot be had. -/
  | refused {first last : Int} {f : Fault} (left : first ≤ stop)
      (clip : last = min (first + q.chunk - 1) stop) :
      Chunks registry type q stop first
        [⟨.node (.logs registry type.logName first last), (.error f : Except Fault (List RawLog))⟩]
        (.error (.fault f))
  /-- A log of a chunk cannot be read. -/
  | unreadable {first last : Int} {logs : List RawLog} {e : ReadError} (left : first ≤ stop)
      (clip : last = min (first + q.chunk - 1) stop) (reads : logs.mapM Event.ofLog = .error e) :
      Chunks registry type q stop first
        [⟨.node (.logs registry type.logName first last), (.ok logs : Except Fault (List RawLog))⟩]
        (.error (.unreadable e))
  /-- The logs of a chunk are read, and after a pause the node is asked for the next one. -/
  | chunk {first last : Int} {logs : List RawLog} {events : List Event}
      {paused later : List (Program.Event Host)} {r : Except QueryError (List Event)}
      (left : first ≤ stop) (clip : last = min (first + q.chunk - 1) stop)
      (reads : logs.mapM Event.ofLog = .ok events)
      (pauses : Runs (pause q.delay : Act QueryError Unit).run paused (.ok ()))
      (rest : Chunks registry type q stop (last + 1) later r) :
      Chunks registry type q stop first
        (⟨.node (.logs registry type.logName first last), (.ok logs : Except Fault (List RawLog))⟩
          :: (paused ++ later)) (r.map (events ++ ·))

lemma runs_pause {ε : Type} {delay : Seconds} {r : Except ε Unit}
    (run : Runs (pause delay : Act ε Unit).run es r) :
    r = .ok () ∧ ∀ e ∈ es, e.1 = .sleep delay := by
  rw [pause] at run
  cases hd : delay.isZero <;> rw [hd] at run
  · obtain ⟨x, rfl, rfl⟩ := Act.runs_ask_iff.1 run
    exact ⟨rfl, List.forall_mem_singleton.2 rfl⟩
  · obtain ⟨rfl, rfl⟩ := runs_run_pure_iff.1 run
    exact ⟨rfl, List.forall_mem_nil _⟩

/-- As many requests are allowed as are needed for chunks of at least one block. -/
lemma chunks_of_runs {left : Nat} (positive : 1 ≤ q.chunk)
    (enough : (stop - first + 1).toNat ≤ left)
    (run : Runs (fetchFrom registry type q stop first left).run es r) :
    Chunks registry type q stop first es r := by
  induction left generalizing first es r with
  | zero =>
    have ended : stop < first := by omega
    rw [fetchFrom, if_pos ended] at run
    obtain ⟨rfl, rfl⟩ := runs_run_pure_iff.1 run
    exact .ended ended
  | succ left ih =>
    rw [fetchFrom] at run
    by_cases ended : stop < first
    · rw [if_pos ended] at run
      obtain ⟨rfl, rfl⟩ := runs_run_pure_iff.1 run
      exact .ended ended
    rw [if_neg ended] at run
    have nonempty : first ≤ stop := by omega
    obtain ⟨x, rest, rfl, afterLogs⟩ := Act.runs_ask_bind_iff.1 run
    match x with
    | .error f =>
      obtain ⟨rfl, rfl⟩ := runs_run_throw_iff.1 afterLogs
      exact .refused nonempty rfl
    | .ok logs =>
      rw [Act.orElse_ok_bind] at afterLogs
      cases reads : logs.mapM Event.ofLog with
      | error e =>
        rw [reads] at afterLogs
        obtain ⟨rfl, rfl⟩ := runs_run_throw_iff.1 afterLogs
        exact .unreadable nonempty rfl reads
      | ok events =>
        rw [reads, Act.orElse_ok_bind] at afterLogs
        rcases runs_run_bind_iff.1 afterLogs with
          ⟨e, rfl, failed⟩ | ⟨paused, later, ⟨⟩, rfl, pauses, afterPause⟩
        · cases (runs_pause failed).1
        obtain ⟨x, others, rfl⟩ := runs_run_map_iff.1 afterPause
        -- the rest of the range needs one request less
        exact .chunk nonempty rfl reads pauses (ih (by omega) others)

/-! ### Requests -/

/-- The calls of the node. -/
def nodeCalls (es : List (Program.Event Host)) : List NodeCall :=
  es.filterMap fun e =>
    match e.1 with
    | .node c => some c
    | _ => none

/-- The ranges of blocks that were asked for. -/
def requestedBlocks (es : List (Program.Event Host)) : List (Int × Int) :=
  (nodeCalls es).filterMap fun
    | .logs _ _ first last => some (first, last)
    | _ => none

/-- The ranges of blocks, both ends included, follow one another from the first block on. -/
structure Consecutive (size first stop : Int) (ranges : List (Int × Int)) : Prop where
  opens : ∀ range ∈ ranges.head?, range.1 = first
  follows : ranges.IsChain fun range next => next.1 = range.2 + 1
  disjoint : ranges.Pairwise fun range later => range.2 < later.1
  sized : ∀ range ∈ ranges, range.1 ≤ range.2 ∧ range.2 - range.1 + 1 ≤ size
  covers : ∀ block, (∃ range ∈ ranges, range.1 ≤ block ∧ block ≤ range.2) ↔
    first ≤ block ∧ block ≤ stop

lemma Consecutive.nil (h : stop < first) : Consecutive size first stop [] where
  opens := by simp
  follows := .nil
  disjoint := .nil
  sized := List.forall_mem_nil _
  covers block := by
    simp only [List.not_mem_nil, false_and, exists_false, false_iff]
    omega

lemma Consecutive.cons {ranges : List (Int × Int)} (h : Consecutive size (last + 1) stop ranges)
    (nonempty : first ≤ last) (fits : last - first + 1 ≤ size) (le : last ≤ stop) :
    Consecutive size first stop ((first, last) :: ranges) where
  opens := by simp
  follows := List.isChain_cons.2 ⟨h.opens, h.follows⟩
  disjoint := by
    refine List.pairwise_cons.2 ⟨fun later mem => ?_, h.disjoint⟩
    have own := (h.covers later.1).1 ⟨later, mem, le_refl _, (h.sized later mem).1⟩
    exact Int.lt_of_add_one_le own.1
  sized := List.forall_mem_cons.2 ⟨⟨nonempty, fits⟩, h.sized⟩
  covers block := by
    rw [List.exists_mem_cons_iff, h.covers block]
    omega

lemma Consecutive.eq_nil {ranges : List (Int × Int)} (h : Consecutive size first stop ranges)
    (ended : stop < first) : ranges = [] := by
  refine List.eq_nil_iff_forall_not_mem.2 fun range mem => ?_
  have own := (h.covers range.1).1 ⟨range, mem, le_refl _, (h.sized range mem).1⟩
  omega

/-- What is asked to fetch the events from a block up to another one. -/
structure Requested (registry : String) (type : EventType) (size stop first : Int)
    (es : List (Program.Event Host)) (r : Except QueryError (List Event)) : Prop where
  /-- The node is only asked for logs of the type. -/
  calls : nodeCalls es =
    (requestedBlocks es).map fun range => .logs registry type.logName range.1 range.2
  /-- The requests cover the range of blocks, unless one of them fails. -/
  complete : ∀ events, r = .ok events → Consecutive size first stop (requestedBlocks es)
  /-- If one fails, they cover it up to a block. -/
  partly : ∃ covered ≤ stop, Consecutive size first covered (requestedBlocks es)
  /-- Nothing is asked for a range without blocks. -/
  empty : stop < first → es = [] ∧ r = .ok []

@[simp] lemma nodeCalls_append (es es' : List (Program.Event Host)) :
    nodeCalls (es ++ es') = nodeCalls es ++ nodeCalls es' :=
  List.filterMap_append

lemma nodeCalls_pause (pauses : Runs (pause q.delay : Act QueryError Unit).run es (.ok ())) :
    nodeCalls es = [] := by
  refine List.filterMap_eq_nil_iff.2 fun e mem => ?_
  rw [(runs_pause pauses).2 e mem]

@[simp] lemma nodeCalls_logs {x : Except Fault (List RawLog)} :
    nodeCalls (⟨.node (.logs registry name first last), x⟩ :: es) =
      .logs registry name first last :: nodeCalls es :=
  rfl

lemma requestedBlocks_logs {x : Except Fault (List RawLog)} :
    requestedBlocks (⟨.node (.logs registry name first last), x⟩ :: es) =
      (first, last) :: requestedBlocks es :=
  rfl

/-- The blocks that are left when a request fails are not asked for. -/
lemma requested_failed {x : Except Fault (List RawLog)} {e : QueryError} (positive : 1 ≤ q.chunk)
    (left : first ≤ stop) (clip : last = min (first + q.chunk - 1) stop) :
    Requested registry type q.chunk stop first [⟨.node (.logs registry type.logName first last), x⟩]
      (.error e) where
  calls := rfl
  complete _ ended := nomatch ended
  partly := by
    refine ⟨last, by omega, ?_⟩
    exact .cons (.nil (by omega)) (by omega) (by omega) le_rfl
  empty ended := by omega

lemma Chunks.requested (h : Chunks registry type q stop first es r) (positive : 1 ≤ q.chunk) :
    Requested registry type q.chunk stop first es r := by
  induction h with
  | ended ended =>
    exact ⟨rfl, fun _ _ => .nil ended, ⟨_, le_rfl, .nil ended⟩, fun _ => ⟨rfl, rfl⟩⟩
  | refused left clip => exact requested_failed positive left clip
  | unreadable left clip reads => exact requested_failed positive left clip
  | @chunk first last logs events paused later r left clip reads pauses rest ih =>
    have silent := nodeCalls_pause pauses
    have blocks : requestedBlocks (paused ++ later) = requestedBlocks later := by
      rw [requestedBlocks, nodeCalls_append, silent]
      rfl
    constructor
    case calls =>
      rw [nodeCalls_logs, requestedBlocks_logs, nodeCalls_append, silent, blocks,
        List.map_cons, ih.calls]
      rfl
    case complete =>
      intro all ended
      rw [requestedBlocks_logs, blocks]
      cases r with
      | error e => cases ended
      | ok others => exact (ih.complete others rfl).cons (by omega) (by omega) (by omega)
    case partly =>
      rw [requestedBlocks_logs, blocks]
      obtain ⟨covered, le, others⟩ := ih.partly
      by_cases further : last ≤ covered
      · exact ⟨covered, le, others.cons (by omega) (by omega) further⟩
      · -- nothing was asked for after this chunk
        rw [others.eq_nil (by omega)]
        exact ⟨last, by omega, .cons (.nil (by omega)) (by omega) (by omega) le_rfl⟩
    case empty =>
      intro ended
      omega

/-! ### Chains -/

/-- The logs of each type with their blocks, in the order of the blocks. -/
structure Archive where
  logs : EventType → List (Int × RawLog)
  ordered : ∀ type, (logs type).Pairwise fun l l' => l.1 ≤ l'.1

namespace Archive

variable {archive : Archive}

/-- The logs of a type in a range of blocks, both ends included. -/
def within (archive : Archive) (type : EventType) (first last : Int) : List RawLog :=
  ((archive.logs type).filter fun l => first ≤ l.1 && l.1 ≤ last).map Prod.snd

/-- The events of a type in a range of blocks, or the first log that cannot be read. -/
def events (archive : Archive) (type : EventType) (first last : Int) :
    Except QueryError (List Event) :=
  ((archive.within type first last).mapM Event.ofLog).mapError .unreadable

/-- If the event is a question about logs or the newest block, it was answered from the archive. -/
def Tells (archive : Archive) (newest : Int) : Program.Event Host → Prop
  | ⟨.node (.logs _ name first last), x⟩ => ∀ type : EventType, type.logName = name →
      x = (.ok (archive.within type first last) : Except Fault (List RawLog))
  | ⟨.node .blockNumber, x⟩ => x = (.ok newest : Except Fault Int)
  | _ => True

lemma within_of_lt (ended : last < first) : archive.within type first last = [] := by
  rw [within, List.filter_eq_nil_iff.2, List.map_nil]
  intro l _
  simp only [Bool.and_eq_true, decide_eq_true_eq]
  omega

/-- What comes first in an ordered list is less than what comes after it. -/
lemma filter_append_filter (middle : Int) {ls : List (Int × RawLog)}
    (ordered : ls.Pairwise fun l l' => l.1 ≤ l'.1) :
    (ls.filter fun l => l.1 ≤ middle) ++ (ls.filter fun l => middle < l.1) = ls := by
  induction ls with
  | nil => rfl
  | cons l ls ih =>
    obtain ⟨least, ordered⟩ := List.pairwise_cons.1 ordered
    by_cases h : l.1 ≤ middle
    · rw [List.filter_cons_of_pos (by simpa using h), List.filter_cons_of_neg (by simpa using h),
        List.cons_append, ih ordered]
    · have none : ∀ l' ∈ l :: ls, ¬ l'.1 ≤ middle := by
        refine List.forall_mem_cons.2 ⟨h, fun l' mem => ?_⟩
        have := least l' mem
        omega
      rw [List.filter_eq_nil_iff.2 (by simpa using none), List.nil_append, List.filter_eq_self.2]
      simpa using none

/-- A range of blocks is divided at any block, without a change of the order. -/
lemma within_append (middle : Int) (h : first ≤ middle + 1) (h' : middle ≤ last) :
    archive.within type first middle ++ archive.within type (middle + 1) last =
      archive.within type first last := by
  have ordered := (archive.ordered type).filter fun l => first ≤ l.1 && l.1 ≤ last
  rw [within, within, within, ← List.map_append]
  conv_rhs => rw [← filter_append_filter middle ordered]
  rw [List.filter_filter, List.filter_filter]
  congr 2 <;>
  · refine List.filter_congr fun l _ => ?_
    rw [Bool.eq_iff_iff]
    simp only [Bool.and_eq_true, decide_eq_true_eq]
    omega

/-- The events of a range are those of its parts, one after the other. -/
lemma events_append (middle : Int) (h : first ≤ middle + 1) (h' : middle ≤ last) :
    archive.events type first last = (do
      let es ← archive.events type first middle
      return es ++ (← archive.events type (middle + 1) last)) := by
  rw [events, events, events, ← within_append middle h h', List.mapM_append]
  cases (archive.within type first middle).mapM Event.ofLog with
  | error e => rfl
  | ok es => cases (archive.within type (middle + 1) last).mapM Event.ofLog <;> rfl

end Archive

variable {archive : Archive}

/-- What the chunks give is what the range of blocks holds. -/
lemma Chunks.eq_events (h : Chunks registry type q stop first es r) (positive : 1 ≤ q.chunk)
    (tells : ∀ e ∈ es, archive.Tells newest e) : r = archive.events type first stop := by
  induction h with
  | ended ended => rw [Archive.events, Archive.within_of_lt ended]; rfl
  | refused left clip => exact nomatch (List.forall_mem_singleton.1 tells) type rfl
  | @unreadable first last logs e left clip reads =>
    obtain rfl := Except.ok.inj ((List.forall_mem_singleton.1 tells) type rfl)
    have own : archive.events type first last = .error (.unreadable e) := by
      rw [Archive.events, reads]; rfl
    rw [Archive.events_append last (by omega) (by omega), own]
    rfl
  | @chunk first last logs events paused later r left clip reads pauses rest ih =>
    obtain ⟨told, toldLater⟩ := List.forall_mem_cons.1 tells
    obtain rfl := Except.ok.inj (told type rfl)
    have own : archive.events type first last = .ok events := by rw [Archive.events, reads]; rfl
    have others := ih fun e mem => toldLater e (List.mem_append_right _ mem)
    rw [Archive.events_append last (by omega) (by omega), own, ← others]
    cases r <;> rfl

/-- A node that tells what is in an archive and nothing else. -/
def Archive.node (archive : Archive) (newest : Int) : (c : NodeCall) → Unit → c.Answer × Unit
  | .logs _ name first last, _ =>
    (Except.ok ((EventType.all.filter (·.logName = name)).flatMap (archive.within · first last)),
      ())
  | .blockNumber, _ => (Except.ok newest, ())
  | c, _ => (c.offline, ())

lemma Archive.tells_node (archive : Archive) (newest : Int) (c : NodeCall) :
    archive.Tells newest ⟨.node c, (archive.node newest c ()).1⟩ := by
  cases c with
  | logs registry name first last =>
    rintro type rfl
    have one : EventType.all.filter (·.logName = type.logName) = [type] := by cases type <;> decide
    change Except.ok ((EventType.all.filter (·.logName = type.logName)).flatMap _) = _
    rw [one, List.flatMap_singleton]
  | blockNumber => exact Eq.refl (Except.ok newest : Except Fault Int)
  | _ => trivial

lemma Archive.tells_trace {α : Type} (archive : Archive) (newest : Int) (p : Program Host α) :
    ∀ e ∈ p.trace (Host.onNode (archive.node newest)) (), archive.Tells newest e := by
  refine forall_mem_trace (fun c _ => ?_) p ()
  rcases c with _ | _ | _ | _ | _ | _ | _ | _ | _ | c | _
  case node => exact archive.tells_node newest c
  all_goals trivial

/-! ### Fetches -/

/-- What is asked and found, if the last block is given or is the newest one. -/
inductive Fetched (registry : String) (type : EventType) (q : Fetch) :
    List (Program.Event Host) → Except QueryError (List Event) → Prop where
  /-- The last block is given. -/
  | given {stop : Int} {es : List (Program.Event Host)} {r : Except QueryError (List Event)}
      (given : q.toBlock = some stop)
      (requested : Requested registry type q.chunk stop q.fromBlock es r) :
      Fetched registry type q es r
  /-- The last block is the newest one. -/
  | newest {stop : Int} {es : List (Program.Event Host)} {r : Except QueryError (List Event)}
      (absent : q.toBlock = none)
      (requested : Requested registry type q.chunk stop q.fromBlock es r) :
      Fetched registry type q (⟨.node .blockNumber, (.ok stop : Except Fault Int)⟩ :: es) r
  /-- The newest block is not known. -/
  | failed {f : Fault} (absent : q.toBlock = none) :
      Fetched registry type q [⟨.node .blockNumber, (.error f : Except Fault Int)⟩]
        (.error (.fault f))

/-- What is asked and found by a fetch of the events of a type that is given by its name. -/
structure Exact (registry name : String) (q : Fetch) (es : List (Program.Event Host))
    (r : Except QueryError (List Event)) : Prop where
  /-- A name that is none of a type is refused before anything is asked. -/
  unknown : EventType.ofName? name = none → es = [] ∧ r = .error (.unknownType name)
  /-- The requests divide the range of blocks. -/
  requested : ∀ type, EventType.ofName? name = some type → Fetched registry type q es r
  /-- If a node tells of a chain, the events are those of the range of blocks. -/
  found : ∀ type, EventType.ofName? name = some type → ∀ {archive : Archive} {newest : Int},
    (∀ e ∈ es, archive.Tells newest e) →
    r = archive.events type q.fromBlock (q.toBlock.getD newest)

/-- The last block becomes known, and the chunks up to it are fetched. -/
lemma exists_chunks_of_runs (positive : 1 ≤ q.chunk)
    (run : Runs (fetchEvents registry type q).run es r) :
    (∃ stop, q.toBlock = some stop ∧ Chunks registry type q stop q.fromBlock es r) ∨
    q.toBlock = none ∧ ((∃ stop later,
      es = ⟨.node .blockNumber, (.ok stop : Except Fault Int)⟩ :: later ∧
      Chunks registry type q stop q.fromBlock later r) ∨
      ∃ f, es = [⟨.node .blockNumber, (.error f : Except Fault Int)⟩] ∧ r = .error (.fault f)) := by
  have enough (stop : Int) : (stop - q.fromBlock + 1).toNat ≤ requestLimit q stop := by
    simp only [requestLimit, if_pos positive, Nat.le_refl]
  rw [fetchEvents] at run
  cases given : q.toBlock with
  | some stop =>
    rw [given] at run
    exact .inl ⟨stop, rfl, chunks_of_runs positive (enough stop) run⟩
  | none =>
    rw [given, newestBlock] at run
    refine .inr ⟨rfl, ?_⟩
    rcases runs_run_bind_iff.1 run with ⟨e, rfl, failed⟩ | ⟨own, later, stop, rfl, asked, fetched⟩
    · obtain ⟨x, rest, rfl, ended⟩ := Act.runs_ask_bind_iff.1 failed
      obtain ⟨rfl, he⟩ := Act.runs_orElse_iff.1 ended
      obtain ⟨f, rfl, rfl⟩ := mapError_eq_error_iff.1 he.symm
      exact .inr ⟨f, rfl, rfl⟩
    · obtain ⟨x, rest, rfl, ended⟩ := Act.runs_ask_bind_iff.1 asked
      obtain ⟨rfl, hstop⟩ := Act.runs_orElse_iff.1 ended
      obtain rfl := mapError_eq_ok_iff.1 hstop.symm
      exact .inl ⟨stop, later, rfl, chunks_of_runs positive (enough stop) fetched⟩

lemma exact_of_runs (positive : 1 ≤ q.chunk) (run : Runs (fetchNamed registry name q).run es r) :
    Exact registry name q es r := by
  rw [fetchNamed] at run
  cases known : EventType.ofName? name with
  | none =>
    rw [known] at run
    refine ⟨fun _ => runs_run_throw_iff.1 run, ?_, ?_⟩
    · intro type h
      simp [known] at h
    · intro type h
      simp [known] at h
  | some type =>
    rw [known] at run
    have chunks := exists_chunks_of_runs positive run
    constructor
    case unknown =>
      intro h
      simp [known] at h
    case requested =>
      intro type' h
      obtain rfl := Option.some.inj (known.symm.trans h)
      rcases chunks with
        ⟨stop, given, chunks⟩ | ⟨absent, ⟨stop, later, rfl, chunks⟩ | ⟨f, rfl, rfl⟩⟩
      · exact .given given (chunks.requested positive)
      · exact .newest absent (chunks.requested positive)
      · exact .failed absent
    case found =>
      intro type' h archive newest tells
      obtain rfl := Option.some.inj (known.symm.trans h)
      rcases chunks with
        ⟨stop, given, chunks⟩ | ⟨absent, ⟨stop, later, rfl, chunks⟩ | ⟨f, rfl, rfl⟩⟩
      · rw [given]
        exact chunks.eq_events positive tells
      · obtain ⟨told, toldLater⟩ := List.forall_mem_cons.1 tells
        obtain rfl := Except.ok.inj told
        rw [absent]
        exact chunks.eq_events positive toldLater
      · exact nomatch List.forall_mem_singleton.1 tells

/-- With chunks of any positive size, a fetch asks for each block of its range once and finds the
events in it, which do not depend on the size. -/
theorem fetch_exact {registry name : String} {q : Fetch} {es : List (Program.Event Host)}
    {r : Except QueryError (List Event)} (positive : 1 ≤ q.chunk)
    (run : Runs (fetchNamed registry name q).run es r) :
    Exact registry name q es r ∧
      ∀ {chunk : Int} {es' : List (Program.Event Host)} {r' : Except QueryError (List Event)}
        {archive : Archive} {newest : Int}, 1 ≤ chunk →
        Runs (fetchNamed registry name { q with chunk }).run es' r' →
        (∀ e ∈ es, archive.Tells newest e) → (∀ e ∈ es', archive.Tells newest e) → r' = r := by
  refine ⟨exact_of_runs positive run, ?_⟩
  intro chunk es' r' archive newest positive' run' tells tells'
  have found' := exact_of_runs positive' run'
  cases known : EventType.ofName? name with
  | none => rw [((exact_of_runs positive run).unknown known).2, (found'.unknown known).2]
  | some type =>
    rw [(exact_of_runs positive run).found type known tells, found'.found type known tells']

/-- Five stakes, two of them in one block. -/
def fiveStakes : Archive where
  logs
    | .staked => [2, 3, 4, 4, 7].map fun block =>
      (block, ⟨"0x0000000000000000000000000000000000000000", [0xaa], .int 1, .int block⟩)
    | _ => []
  ordered type := by cases type <;> decide

/-- The stakes from block 3 on are found with chunks of two blocks, the last of which is shorter,
and with one chunk for all of them. -/
theorem fetch_exact_of_fiveStakes :
    let host := Host.onNode (fiveStakes.node 7)
    let fetch (chunk : Int) := (fetchNamed "r" "staked" { fromBlock := 3, chunk }).run
    requestedBlocks ((fetch 2).trace host ()) = [(3, 4), (5, 6), (7, 7)] ∧
      (((fetch 2).run host ()).1.toOption.map fun es => es.map Event.block) = some [3, 4, 4, 7] ∧
      Exact "r" "staked" { fromBlock := 3, chunk := 2 } ((fetch 2).trace host ())
        ((fetch 2).run host ()).1 ∧ ((fetch 9).run host ()).1 = ((fetch 2).run host ()).1 := by
  intro host fetch
  obtain ⟨found, sizes⟩ := fetch_exact (q := { fromBlock := 3, chunk := 2 }) (by decide)
    (runs_trace host (fetch 2) ())
  refine ⟨by decide +kernel, by decide +kernel, found, ?_⟩
  exact sizes (by decide) (runs_trace host (fetch 9) ()) (fiveStakes.tells_trace 7 _)
    (fiveStakes.tells_trace 7 _)

end StakeRegistry.Registry
