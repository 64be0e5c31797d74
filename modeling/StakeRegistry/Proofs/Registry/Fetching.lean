/-
Events that are fetched in chunks.

A node that tells of a chain answers a request with the logs of its type in a range of blocks
(`Tells`). Whatever the size of the chunks, as long as it is positive, the events that are fetched
are those of the chain in the range of blocks that was asked for (`runs_fetchEvents`): the chunks
divide the range, and a request for each of them is made. If the logs stand in the order of their
blocks, so do the events, and none of them moves (`eq_of_runs_fetchEvents`).
-/
import StakeRegistry.Proofs.Registry.Chunks

namespace StakeRegistry.Registry

open Program

/-- A log of the chain, with the event that it stands for. -/
structure ChainLog where
  log : RawLog
  event : Event
  reads : Event.ofLog log = .ok event

/-- A log of the zero address is read. -/
lemma Event.ofLog_zeroAddress {pubkey : Bytes} {amount block : Int} :
    Event.ofLog ⟨"0x0000000000000000000000000000000000000000", pubkey, .int amount, .int block⟩ =
      .ok ⟨addressOfBytes (List.replicate 20 0), pubkey.toHex, amount, block⟩ := by
  have bytes : strictHexBytes? (addressDigits "0x0000000000000000000000000000000000000000".toList) =
      some (List.replicate 20 0) := by decide +kernel
  rw [Event.ofLog, checkedAddress, bytes]
  rfl

/-- The logs of a chain, by their types. -/
abbrev Ledger : Type := EventType → List ChainLog

/-- The logs of a type in a range of blocks, both ends included. -/
def Ledger.within (chain : Ledger) (type : EventType) (first last : Int) : List ChainLog :=
  (chain type).filter fun l => first ≤ l.event.block && l.event.block ≤ last

/-- The events of a type in a range of blocks. -/
def Ledger.events (chain : Ledger) (type : EventType) (first last : Int) : List Event :=
  (chain.within type first last).map ChainLog.event

/-- If the question is about logs or the newest block, the answer is that of a chain. -/
def Ledger.Answers (chain : Ledger) (newest : Int) : (c : NodeCall) → c.Answer → Prop
  | .logs _ name first last, x => ∀ type : EventType, type.logName = name →
      x = (.ok ((chain.within type first last).map ChainLog.log) : Except Fault (List RawLog))
  | .blockNumber, x => x = (.ok newest : Except Fault Int)
  | _, _ => True

/-- If the event is a question to the node, it was answered from a chain. -/
def Tells (chain : Ledger) (newest : Int) : Program.Event Host → Prop
  | ⟨.node c, x⟩ => chain.Answers newest c x
  | _ => True

variable {chain : Ledger} {newest : Int} {registry : String} {type : EventType} {q : Fetch}
  {first last middle toBlock : Int} {trace : List (Program.Event Host)}

lemma events_of_lt (ended : last < first) : chain.events type first last = [] := by
  rw [Ledger.events, Ledger.within, List.filter_eq_nil_iff.2, List.map_nil]
  intro l _
  simp only [Bool.and_eq_true, decide_eq_true_eq]
  omega

/-- A range of blocks is divided where a chunk ends. -/
lemma events_divide (h : first ≤ middle + 1) (h' : middle ≤ last) :
    (chain.events type first middle ++ chain.events type (middle + 1) last).Perm
      (chain.events type first last) := by
  rw [Ledger.events, Ledger.events, Ledger.events, ← List.map_append]
  refine List.Perm.map _ ?_
  have parts := List.filter_append_perm (fun l : ChainLog => decide (l.event.block ≤ middle))
    (chain.within type first last)
  simp only [Ledger.within, List.filter_filter] at parts ⊢
  convert parts using 3 <;>
  · funext l
    rw [Bool.eq_iff_iff]
    simp only [Bool.and_eq_true, Bool.not_eq_true', decide_eq_true_eq, decide_eq_false_iff_not]
    omega

lemma mapM_ofLog (logs : List ChainLog) :
    (logs.map ChainLog.log).mapM Event.ofLog = .ok (logs.map ChainLog.event) := by
  rw [mapM_eq_ok_iff, List.forall₂_map_left_iff, List.forall₂_map_right_iff]
  exact List.forall₂_same.2 fun l _ => l.reads

/-- The chunks of a range of blocks give its events. -/
lemma Chunks.perm_events {r : Except QueryError (List Event)}
    (h : Chunks registry type q toBlock first trace r) (positive : 1 ≤ q.chunk)
    (tells : ∀ e ∈ trace, Tells chain newest e) :
    ∃ es, r = .ok es ∧ es.Perm (chain.events type first toBlock) := by
  induction h with
  | ended ended => exact ⟨[], rfl, by rw [events_of_lt ended]⟩
  | refused left clip => exact nomatch (List.forall_mem_singleton.1 tells) type rfl
  | @unreadable first last logs e left clip reads =>
    obtain rfl := Except.ok.inj ((List.forall_mem_singleton.1 tells) type rfl)
    cases (mapM_ofLog _).symm.trans reads
  | @chunk first last logs events paused later r left clip reads pauses rest ih =>
    obtain ⟨told, toldLater⟩ := List.forall_mem_cons.1 tells
    obtain rfl := Except.ok.inj (told type rfl)
    obtain rfl := Except.ok.inj ((mapM_ofLog _).symm.trans reads)
    obtain ⟨es, rfl, perm⟩ := ih fun e mem => toldLater e (List.mem_append_right _ mem)
    exact ⟨_, rfl, (perm.append_left _).trans (events_divide (by omega) (by omega))⟩

/-- The events that are fetched with chunks of any positive size are those of the chain. -/
theorem runs_fetchEvents {r : Except QueryError (List Event)} (positive : 1 ≤ q.chunk)
    (run : Runs (fetchEvents registry type q).run trace r)
    (tells : ∀ e ∈ trace, Tells chain newest e) :
    ∃ es, r = .ok es ∧ es.Perm (chain.events type q.fromBlock (q.toBlock.getD newest)) := by
  rcases exists_chunks_of_runs positive run with
    ⟨stop, given, chunks⟩ | ⟨absent, ⟨stop, later, rfl, chunks⟩ | ⟨f, rfl, rfl⟩⟩
  · rw [given]
    exact chunks.perm_events positive tells
  · obtain ⟨told, toldLater⟩ := List.forall_mem_cons.1 tells
    obtain rfl := Except.ok.inj told
    rw [absent]
    exact chunks.perm_events positive toldLater
  · exact nomatch List.forall_mem_singleton.1 tells

/-! ### Logs in the order of their blocks -/

/-- The logs of each type stand in the order of their blocks. -/
def Ledger.InOrder (chain : Ledger) : Prop :=
  ∀ type, (chain type).Pairwise fun l l' => l.event.block ≤ l'.event.block

lemma Ledger.InOrder.pairwise_events (ordered : chain.InOrder) :
    (chain.events type first last).Pairwise fun e e' => e.block ≤ e'.block :=
  List.pairwise_map.2 ((ordered type).filter _)

/-- The logs with their blocks. -/
def Ledger.archive (chain : Ledger) (ordered : chain.InOrder) : Archive where
  logs type := (chain type).map fun l => (l.event.block, l.log)
  ordered type := List.pairwise_map.2 (ordered type)

variable {ordered : chain.InOrder}

lemma within_archive :
    (chain.archive ordered).within type first last =
      (chain.within type first last).map ChainLog.log := by
  rw [Archive.within, Ledger.archive, List.filter_map, List.map_map]
  rfl

lemma events_archive (ordered : chain.InOrder) :
    (chain.archive ordered).events type first last = .ok (chain.events type first last) := by
  rw [Archive.events, within_archive, mapM_ofLog]
  rfl

lemma tells_archive_iff {e : Program.Event Host} :
    (chain.archive ordered).Tells newest e ↔ Tells chain newest e := by
  obtain ⟨c, x⟩ := e
  rcases c with _ | _ | _ | _ | _ | _ | _ | _ | _ | c | _
  case node =>
    cases c with
    | logs =>
      simp only [Archive.Tells, Tells, Ledger.Answers, within_archive]
      exact Iff.rfl
    | _ => exact Iff.rfl
  all_goals exact Iff.rfl

/-- The events of a chain in order are fetched in their order. -/
lemma eq_of_runs_fetchEvents {r : Except QueryError (List Event)} (ordered : chain.InOrder)
    (positive : 1 ≤ q.chunk) (run : Runs (fetchEvents registry type q).run trace r)
    (tells : ∀ e ∈ trace, Tells chain newest e) :
    r = .ok (chain.events type q.fromBlock (q.toBlock.getD newest)) := by
  have told : ∀ e ∈ trace, (chain.archive ordered).Tells newest e := fun e mem =>
    tells_archive_iff.2 (tells e mem)
  rw [← events_archive ordered]
  rcases exists_chunks_of_runs positive run with
    ⟨stop, given, chunks⟩ | ⟨absent, ⟨stop, later, rfl, chunks⟩ | ⟨f, rfl, rfl⟩⟩
  · rw [given]
    exact chunks.eq_events positive told
  · obtain ⟨newestTold, toldLater⟩ := List.forall_mem_cons.1 told
    obtain rfl := Except.ok.inj newestTold
    rw [absent]
    exact chunks.eq_events positive toldLater
  · exact nomatch List.forall_mem_singleton.1 told

end StakeRegistry.Registry
