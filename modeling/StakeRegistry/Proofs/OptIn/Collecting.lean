/-
The validators that opted in, collected from a chain.

A node tells of a chain whose logs stand in the order of their blocks. The validators are the rows
of the stakes in a range of blocks that are neither unstaked nor withdrawn in it (`Exports`), and
they depend on the events of the range only, which is what chunks of any positive size give
(`eq_of_runs_collect`). The last stake of a key is the one of its greatest block, as the events
stand in their order (`isGreatest_of_latestOf?`).
-/
import Mathlib.Order.Bounds.Defs
import StakeRegistry.OptIn.Collect
import StakeRegistry.Proofs.Registry.Fetching
import StakeRegistry.Proofs.Registry.MigrationPlan
import StakeRegistry.Proofs.Registry.Reconstruction

namespace StakeRegistry.OptIn

open Program Registry

variable {chain : Ledger} {newest : Int} {registry pubkey : String}
  {fromBlock chunk first last : Int} {toBlock : Option Int} {trace : List (Program.Event Host)}
  {active : Keyed String Registry.Event}

/-! ### The order of validators -/

/-- A validator precedes another: by its block, then by its key. -/
def Validator.Precedes (v w : Validator) : Prop :=
  v.block < w.block ∨ v.block = w.block ∧ v.pubkey < w.pubkey

lemma Validator.before_iff {v w : Validator} :
    v.before w ↔ v.block < w.block ∨ v.block = w.block ∧ v.pubkey ≤ w.pubkey := by
  rw [Validator.before, Bool.or_eq_true, Bool.and_eq_true, not_decide_lt_iff, decide_eq_true_eq,
    decide_eq_true_eq]

lemma Validator.before_trans (v w u : Validator) (h : v.before w) (h' : w.before u) :
    v.before u := by
  rw [Validator.before_iff] at h h' ⊢
  rcases h with less | ⟨same, le⟩ <;> rcases h' with less' | ⟨same', le'⟩
  · exact .inl (less.trans less')
  · exact .inl (same' ▸ less)
  · exact .inl (same ▸ less')
  · exact .inr ⟨same.trans same', le.trans le'⟩

lemma Validator.before_total (v w : Validator) : v.before w || w.before v := by
  rw [Bool.or_eq_true, Validator.before_iff, Validator.before_iff]
  rcases lt_trichotomy v.block w.block with less | same | less
  · exact .inl (.inl less)
  · exact (le_total v.pubkey w.pubkey).imp (.inr ⟨same, ·⟩) (.inr ⟨same.symm, ·⟩)
  · exact .inr (.inl less)

/-! ### Rows of stakes -/

lemma ofActive_perm : (ofActive active).Perm (active.map fun p => Validator.ofStake p.1 p.2) :=
  List.mergeSort_perm _ _

lemma pubkeys_ofActive_perm : ((ofActive active).map Validator.pubkey).Perm active.keys := by
  have perm := (ofActive_perm : (ofActive active).Perm _).map Validator.pubkey
  rwa [List.map_map] at perm

/-- Sorted rows with distinct keys precede one another. -/
lemma pairwise_precedes_ofActive (distinct : active.keys.Nodup) :
    (ofActive active).Pairwise Validator.Precedes := by
  have sorted := List.pairwise_mergeSort Validator.before_trans Validator.before_total
    (active.map fun p => Validator.ofStake p.1 p.2)
  -- sorting keeps the keys distinct, which rules out the case of equal keys
  have distinct : (ofActive active).Pairwise fun v w => v.pubkey ≠ w.pubkey :=
    List.pairwise_map.1 (pubkeys_ofActive_perm.nodup_iff.2 distinct)
  refine (sorted.and distinct).imp fun ⟨before, ne⟩ => ?_
  rcases Validator.before_iff.1 before with less | ⟨same, le⟩
  · exact .inl less
  · exact .inr ⟨same, lt_of_le_of_ne le ne⟩

lemma exists_find?_of_mem_ofActive {v : Validator} (distinct : active.keys.Nodup)
    (mem : v ∈ ofActive active) :
    ∃ e, active.find? v.pubkey = some e ∧ v = .ofStake v.pubkey e := by
  obtain ⟨⟨key, e⟩, entry, rfl⟩ := List.mem_map.1 (ofActive_perm.mem_iff.1 mem)
  exact ⟨e, (Keyed.find?_eq_some_iff distinct).2 entry, rfl⟩

/-! ### The last stake of a key -/

/-- In a list in the order of the blocks, the last event of a key has its greatest block. -/
lemma isGreatest_of_latestOf? {es : List Registry.Event} {e : Registry.Event}
    (ordered : es.Pairwise fun e e' => e.block ≤ e'.block) (last : latestOf? es pubkey = some e) :
    IsGreatest {block | ∃ e ∈ es, e.pubkey = pubkey ∧ e.block = block} e.block := by
  refine ⟨⟨e, mem_of_latestOf? last, pubkey_of_latestOf? last, rfl⟩, ?_⟩
  rintro _ ⟨e', mem, own, rfl⟩
  have inside : e' ∈ es.filter fun e => e.pubkey = pubkey :=
    List.mem_filter.2 ⟨mem, by simpa using own⟩
  have isLast : e = (es.filter fun e => e.pubkey = pubkey).getLast (List.ne_nil_of_mem inside) := by
    rw [latestOf?, List.getLast?_eq_some_getLast (List.ne_nil_of_mem inside)] at last
    exact (Option.some.inj last).symm
  rw [isLast]
  exact (ordered.filter _).rel_getLast_of_rel_getLast_getLast inside le_rfl

/-! ### What is collected -/

/-- The rows are those of the stakes in a range of blocks that are neither unstaked nor withdrawn in
it. -/
structure Exports (chain : Ledger) (first last : Int) (rows : List Validator) : Prop where
  /-- A key has a row exactly if it was staked, and neither unstaked nor withdrawn. -/
  keys : ∀ pubkey, (∃ v ∈ rows, v.pubkey = pubkey) ↔
    (∃ e ∈ chain.events .staked first last, e.pubkey = pubkey) ∧
      ¬ (∃ e ∈ chain.events .unstaked first last, e.pubkey = pubkey) ∧
      ¬ ∃ e ∈ chain.events .withdraw first last, e.pubkey = pubkey
  /-- No key has two rows. -/
  once : (rows.map Validator.pubkey).Nodup
  /-- The block of a row is the greatest block of the stakes of its key. -/
  block : ∀ v ∈ rows,
    IsGreatest
      {block | ∃ e ∈ chain.events .staked first last, e.pubkey = v.pubkey ∧ e.block = block} v.block
  /-- The rest of a row is made of the last stake of its key. -/
  stake : ∀ v ∈ rows, ∃ e, latestOf? (chain.events .staked first last) v.pubkey = some e ∧
    v = .ofStake v.pubkey e ∧ v.withdrawalAddress = e.originator
  /-- The rows stand in the strict order of their blocks and then their keys. -/
  increasing : rows.Pairwise Validator.Precedes

lemma exports_ofActive (ordered : chain.InOrder) : Exports chain first last
    (ofActive (activeStakes (chain.events .staked first last) (chain.events .unstaked first last)
      (chain.events .withdraw first last))) where
  keys pubkey := by
    rw [← hasKey_iff, ← hasKey_iff, ← hasKey_iff, ← exists_latestOf?_iff, ← List.mem_map,
      pubkeys_ofActive_perm.mem_iff, Keyed.mem_keys_iff, find?_activeStakes]
    split_ifs with gone
    · simpa using fun _ _ kept => gone.resolve_left kept
    · exact ⟨fun found => ⟨found, not_or.1 gone⟩, And.left⟩
  once := pubkeys_ofActive_perm.nodup_iff.2 nodup_keys_activeStakes
  block v mem := by
    obtain ⟨e, found, made⟩ := exists_find?_of_mem_ofActive nodup_keys_activeStakes mem
    rw [find?_activeStakes] at found
    split_ifs at found
    rw [show v.block = e.block by rw [made]; rfl]
    exact isGreatest_of_latestOf? ordered.pairwise_events found
  stake v mem := by
    obtain ⟨e, found, made⟩ := exists_find?_of_mem_ofActive nodup_keys_activeStakes mem
    rw [find?_activeStakes] at found
    split_ifs at found
    exact ⟨e, found, made, by rw [made]; rfl⟩
  increasing := pairwise_precedes_ofActive nodup_keys_activeStakes

lemma eq_of_runs_newestBlock {r : Except QueryError Int} (run : Runs newestBlock.run trace r)
    (tells : ∀ e ∈ trace, Tells chain newest e) : r = .ok newest := by
  obtain ⟨x, rest, rfl, ended⟩ := Act.runs_ask_bind_iff.1 run
  obtain ⟨rfl, rfl⟩ := Act.runs_orElse_iff.1 ended
  obtain rfl : x = Except.ok newest := tells _ (List.mem_singleton_self _)
  rfl

/-- If no last block is given, it is the newest one. -/
lemma collect_none : collect registry fromBlock none chunk =
    newestBlock >>= fun stop => collect registry fromBlock (some stop) chunk :=
  rfl

/-- What is collected up to a block are the rows of the events in the range of blocks. -/
lemma eq_of_runs_collect_some {stop : Int} {r : Except QueryError (List Validator)}
    (ordered : chain.InOrder) (positive : 1 ≤ chunk)
    (run : Runs (collect registry fromBlock (some stop) chunk).run trace r)
    (tells : ∀ e ∈ trace, Tells chain newest e) :
    r = .ok (ofActive (activeStakes (chain.events .staked fromBlock stop)
      (chain.events .unstaked fromBlock stop) (chain.events .withdraw fromBlock stop))) := by
  have fetched {type : EventType} {es : List (Program.Event Host)}
      {r : Except QueryError (List Registry.Event)}
      (run : Runs (fetchEvents registry type { fromBlock, toBlock := some stop, chunk }).run es r)
      (tells : ∀ e ∈ es, Tells chain newest e) : r = .ok (chain.events type fromBlock stop) :=
    eq_of_runs_fetchEvents (q := { fromBlock, toBlock := some stop, chunk }) ordered
      positive run tells
  obtain ⟨⟨⟩, fetches, rfl, afterLine⟩ := Act.runs_ask_bind_iff.1 run
  have told := (List.forall_mem_cons.1 tells).2
  rcases runs_run_bind_iff.1 afterLine with
    ⟨e, rfl, failed⟩ | ⟨es, rest, staked, rfl, run, afterStaked⟩
  · cases fetched failed told
  obtain ⟨toldOwn, told⟩ := List.forall_mem_append.1 told
  obtain rfl := Except.ok.inj (fetched run toldOwn)
  rcases runs_run_bind_iff.1 afterStaked with
    ⟨e, rfl, failed⟩ | ⟨es', rest', unstaked, rfl, run, afterUnstaked⟩
  · cases fetched failed told
  obtain ⟨toldOwn, told⟩ := List.forall_mem_append.1 told
  obtain rfl := Except.ok.inj (fetched run toldOwn)
  rcases runs_run_bind_iff.1 afterUnstaked with
    ⟨e, rfl, failed⟩ | ⟨es'', line, withdrawn, rfl, run, afterAll⟩
  · cases fetched failed told
  obtain rfl := Except.ok.inj (fetched run (List.forall_mem_append.1 told).1)
  exact (Act.runs_say_pure_iff.1 afterAll).2

/-- What is collected are the rows of the events up to the block that is given or the newest one. -/
lemma eq_of_runs_collect {r : Except QueryError (List Validator)} (ordered : chain.InOrder)
    (positive : 1 ≤ chunk) (run : Runs (collect registry fromBlock toBlock chunk).run trace r)
    (tells : ∀ e ∈ trace, Tells chain newest e) :
    let events := fun type => chain.events type fromBlock (toBlock.getD newest)
    r = .ok (ofActive (activeStakes (events .staked) (events .unstaked) (events .withdraw))) := by
  cases toBlock with
  | some stop => exact eq_of_runs_collect_some ordered positive run tells
  | none =>
    rw [collect_none] at run
    rcases runs_run_bind_iff.1 run with
      ⟨e, rfl, failed⟩ | ⟨own, later, stop, rfl, known, afterBlock⟩
    · cases eq_of_runs_newestBlock failed tells
    obtain ⟨toldOwn, toldLater⟩ := List.forall_mem_append.1 tells
    obtain rfl := Except.ok.inj (eq_of_runs_newestBlock known toldOwn)
    exact eq_of_runs_collect_some ordered positive afterBlock toldLater

/-- Collecting gives one row for each key that was staked in the range of blocks, and neither
unstaked nor withdrawn in it, in the strict order of blocks and keys, and the same rows with chunks
of any positive size. -/
theorem collect_exact {r : Except QueryError (List Validator)} (ordered : chain.InOrder)
    (positive : 1 ≤ chunk) (run : Runs (collect registry fromBlock toBlock chunk).run trace r)
    (tells : ∀ e ∈ trace, Tells chain newest e) :
    (∃ rows, r = .ok rows ∧ Exports chain fromBlock (toBlock.getD newest) rows) ∧
      ∀ {chunk' : Int} {trace' : List (Program.Event Host)}
        {r' : Except QueryError (List Validator)},
        1 ≤ chunk' → Runs (collect registry fromBlock toBlock chunk').run trace' r' →
        (∀ e ∈ trace', Tells chain newest e) → r' = r := by
  have collected := eq_of_runs_collect ordered positive run tells
  refine ⟨⟨_, collected, exports_ofActive ordered⟩, fun positive' run' tells' => ?_⟩
  rw [collected]
  exact eq_of_runs_collect ordered positive' run' tells'

/-- A log about a key. -/
def logOf (key : UInt8) (block : Int) : ChainLog where
  log := ⟨"0x0000000000000000000000000000000000000000", [key], .int 1, .int block⟩
  event := ⟨addressOfBytes (List.replicate 20 0), Bytes.toHex [key], 1, block⟩
  reads := Event.ofLog_zeroAddress

/-- A key is staked twice, and of two others one is unstaked. -/
def fourStakes : Ledger
  | .staked => [logOf 0xaa 2, logOf 0xbb 3, logOf 0xcc 5, logOf 0xaa 5]
  | .unstaked => [logOf 0xbb 6]
  | .withdraw => []

lemma fourStakes_inOrder : fourStakes.InOrder := by
  rintro (_ | _ | _) <;> decide

/-- The keys that are left are collected with chunks of two blocks and with one chunk for all
blocks. -/
theorem collect_exact_of_fourStakes :
    let host := Host.onNode ((fourStakes.archive fourStakes_inOrder).node 7)
    let collected (chunk : Int) := ((collect "r" 1 none chunk).run.run host ()).1
    ((collected 2).toOption.map fun rows => rows.map fun v => (v.pubkey, v.block)) =
      some [("aa", 5), ("cc", 5)] ∧
      (∃ rows, collected 2 = .ok rows ∧ Exports fourStakes 1 7 rows) ∧
      collected 50 = collected 2 := by
  intro host collected
  have run (chunk : Int) := runs_trace host (collect "r" 1 none chunk).run ()
  have tells (chunk : Int) :
    ∀ e ∈ (collect "r" 1 none chunk).run.trace host (), Tells fourStakes 7 e :=
    fun e mem => tells_archive_iff.1 (Archive.tells_trace _ 7 _ e mem)
  obtain ⟨exported, sizes⟩ := collect_exact fourStakes_inOrder (by decide) (run 2) (tells 2)
  refine ⟨?_, exported, sizes (by decide) (run 50) (tells 50)⟩
  have rows := eq_of_runs_collect fourStakes_inOrder (by decide) (run 2) (tells 2)
  rw [show collected 2 = _ from rows, ofActive, List.mergeSort_of_pairwise (by decide +kernel)]
  decide +kernel

end StakeRegistry.OptIn
