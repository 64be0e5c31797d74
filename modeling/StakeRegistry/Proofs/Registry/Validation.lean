/-
Validating snapshots against the chain.

The stakes of the snapshots are compared with those of the events on the chain. Validation therefore
tells whether the same keys were staked, with the same stake each once withdrawals are taken off
(`runs_validate`). What a store run has written holds the events of the chain up to its block
(`holds_of_stored`), so that snapshots are valid as long as nothing happens on the chain
(`validate_iff_sameNet`).
-/
import StakeRegistry.Proofs.Hex
import StakeRegistry.Proofs.Registry.Fetching
import StakeRegistry.Proofs.Registry.NetStakes
import StakeRegistry.Proofs.Registry.Storing

namespace StakeRegistry.Registry

open Program FileTree

variable {chain : Ledger} {newest : Int} {registry : String} {directory : Path} {type : EventType}
  {block chunk : Int} {t t' later : FileTree} {trace : List (Program.Event Host)}
  {staked withdrawn : List Event}

/-! ### Keys on the chain -/

/-- Hexadecimal digits stand in the form in which keys are read. -/
lemma isPlainKey_toHex {bs : Bytes} : IsPlainKey bs.toHex := by
  have digit : ∀ c ∈ "0123456789abcdef".toList, c.toNat < 128 ∧ c.toLower = c ∧ c ≠ 'x' := by simp
  refine ⟨?_, Bool.eq_false_iff.2 fun leading => ?_⟩
  · rw [lower_of_ascii fun c hc => (digit c (mem_toHex c hc)).1]
    conv_rhs => rw [← String.ofList_toList (s := bs.toHex)]
    rw [List.map_congr_left fun c hc => (digit c (mem_toHex c hc)).2.1, List.map_id']
  · rw [Text.hasLeading, List.isPrefixOf_iff_prefix] at leading
    exact (digit 'x' (mem_toHex 'x' (leading.subset (by decide)))).2.2 rfl

lemma ChainLog.isPlainKey (l : ChainLog) : IsPlainKey l.event.pubkey := by
  obtain ⟨originator, -, rest⟩ := bind_eq_ok_iff.1 l.reads
  obtain ⟨amount, -, rest⟩ := bind_eq_ok_iff.1 rest
  obtain ⟨block, -, rest⟩ := bind_eq_ok_iff.1 rest
  rw [← Except.ok.inj rest]
  exact isPlainKey_toHex

/-! ### Snapshots in a tree -/

/-- The newest snapshot of a type holds the events. -/
def Holds (t : FileTree) (directory : Path) (type : EventType) (es : List Event) : Prop :=
  ∃ path bytes, IsNewest t directory type path ∧ t.read path = .ok bytes ∧
    eventsOfFile path.text bytes = .ok es

lemma Holds.readEvents_eq {es : List Event} {r : Except ArtifactError (List Event)}
    (h : Holds t directory type es) (run : Runs (readEvents directory type.name).run trace r)
    (answers : ∀ e ∈ trace, t.Answers e) : r = .ok es := by
  obtain ⟨path, bytes, isNewest, held, read⟩ := h
  exact (runs_readEvents run answers isNewest held).trans read

/-- A snapshot that was stored and is the newest one later holds the events of the chain up to its
block. -/
lemma holds_of_stored {run : StoreRun} {path : Path} {text : String}
    (isRun : run.IsRun registry directory t t') (positive : 1 ≤ run.chunk)
    (tells : ∀ e ∈ run.events, Tells chain newest e)
    (stored : run.snapshot? type = some (path, text)) (still : later.read path = t'.read path)
    (isNewest : IsNewest later directory type path) :
    ∃ es, Holds later directory type es ∧ es.Perm (chain.events type 0 run.block) := by
  obtain ⟨mem, storedAs⟩ := (StoreRun.snapshot?_spec isRun).1 type _ stored
  obtain ⟨now, named⟩ := storedAs.named
  obtain ⟨es, own, fetch, inside, printed⟩ := storedAs.fetched
  obtain ⟨fetched, same, perm⟩ := runs_fetchEvents positive fetch fun e he => tells e (inside e he)
  obtain rfl := Except.ok.inj same
  obtain rfl : path = directory.child (artifactName type.name run.block now) := named
  obtain ⟨_, _, -, -, -, -, makes⟩ := runs_storeTypes isRun.runs isRun.files
  obtain ⟨here, made, there⟩ := makes (List.ne_nil_of_mem mem)
  have once (text' : String) (wrote :
      (directory.child (artifactName type.name run.block now), text') ∈
      written run.events) : text' = text := by
    have again :=
      StoreRun.snapshot?_of_written isRun isSnapshotName_artifactName isFileName_artifactName wrote
    rw [stored] at again
    exact (Prod.mk.inj (Option.some.inj again)).2.symm
  have held := there.read_of_written isRun.files (allowed_of_runs stores_storeAll isRun.runs)
    isFileName_artifactName mem once
  refine ⟨es, ⟨_, _, isNewest, still.trans held, ?_⟩, perm⟩
  refine eventsOfFile_of_eventsText? (fun e he => ?_) printed
  obtain ⟨l, -, rfl⟩ := List.mem_map.1 (perm.mem_iff.1 he)
  exact l.isPlainKey

/-! ### The verdict -/

lemma looks_liveStakes : Uses Looks (liveStakes registry chunk).run := by
  have looks {type : EventType} : Uses Looks (fetchEvents registry type { chunk }).run :=
    notOnFiles_fetchEvents.mono fun _ h => h.looks
  refine uses_run_bind (uses_run_adapt looks) fun staked => ?_
  exact uses_run_bind (uses_run_adapt looks) fun withdrawn => uses_run_pure

lemma looks_validate : Uses Looks (validate registry directory chunk).run := by
  refine uses_run_bind (uses_run_adapt looks_readEvents) fun staked => ?_
  refine uses_run_bind (uses_run_adapt looks_readEvents) fun withdrawn => ?_
  refine uses_run_bind looks_liveStakes fun live => ?_
  split
  · exact uses_run_bind (Act.uses_ask trivial) fun _ => uses_run_pure
  · refine uses_run_bind (Act.uses_ask trivial) fun _ =>
      uses_run_bind (Act.uses_ask trivial) fun _ => ?_
    exact uses_run_bind (Act.uses_ask trivial) fun _ => uses_run_pure

/-- The stakes on the chain are those of its events, in whatever order these were fetched. -/
lemma runs_liveStakes {r : Except StoreError (Keyed String Int)} (positive : 1 ≤ chunk)
    (run : Runs (liveStakes registry chunk).run trace r)
    (tells : ∀ e ∈ trace, Tells chain newest e) :
    ∃ staked withdrawn, r = .ok (netStakes staked withdrawn) ∧
      SameNet staked withdrawn (chain.events .staked 0 newest)
        (chain.events .withdraw 0 newest) := by
  rcases runs_run_bind_iff.1 run with
    ⟨e, rfl, failed⟩ | ⟨own, later, staked, rfl, first, afterFirst⟩
  · obtain ⟨x, fetch, hx⟩ := Act.runs_withError_iff.1 failed
    obtain ⟨es, rfl, -⟩ := runs_fetchEvents positive fetch tells
    cases hx
  obtain ⟨x, fetch, hx⟩ := Act.runs_withError_iff.1 first
  obtain ⟨es, rfl, perm⟩ := runs_fetchEvents positive fetch fun e he =>
    tells e (List.mem_append_left _ he)
  obtain rfl := Except.ok.inj hx
  obtain ⟨y, second, rfl⟩ := runs_run_map_iff.1 afterFirst
  obtain ⟨z, fetch', rfl⟩ := Act.runs_withError_iff.1 second
  obtain ⟨es', rfl, perm'⟩ :=
    runs_fetchEvents positive fetch' fun e he => tells e (List.mem_append_right _ he)
  exact ⟨_, es', rfl, (SameUpToOrder.of_perm perm perm').sameNet⟩

/-- Validating tells whether the stakes of the snapshots are those on the chain. -/
lemma runs_validate {r : Except StoreError Bool} (positive : 1 ≤ chunk)
    (heldStaked : Holds t directory .staked staked)
    (heldWithdrawn : Holds t directory .withdraw withdrawn)
    (run : Runs (validate registry directory chunk).run trace r) (files : OnFiles t trace t')
    (tells : ∀ e ∈ trace, Tells chain newest e) :
    ∃ b, r = .ok b ∧ (b = true ↔ SameNet staked withdrawn (chain.events .staked 0 newest)
      (chain.events .withdraw 0 newest)) := by
  obtain ⟨answers, -⟩ := answers_of_looks files (allowed_of_runs looks_validate run)
  rcases runs_run_bind_iff.1 run with ⟨e, rfl, failed⟩ | ⟨own, rest, read, rfl, first, afterFirst⟩
  · obtain ⟨x, reading, hx⟩ := Act.runs_withError_iff.1 failed
    rw [heldStaked.readEvents_eq reading answers] at hx
    cases hx
  obtain ⟨answersFirst, answersRest⟩ := List.forall_mem_append.1 answers
  obtain ⟨x, reading, hx⟩ := Act.runs_withError_iff.1 first
  rw [heldStaked.readEvents_eq reading answersFirst] at hx
  obtain rfl := Except.ok.inj hx
  rcases runs_run_bind_iff.1 afterFirst with
    ⟨e, rfl, failed⟩ | ⟨own', rest', read', rfl, second, afterSecond⟩
  · obtain ⟨x, reading, hx⟩ := Act.runs_withError_iff.1 failed
    rw [heldWithdrawn.readEvents_eq reading answersRest] at hx
    cases hx
  obtain ⟨y, reading', hy⟩ := Act.runs_withError_iff.1 second
  rw [heldWithdrawn.readEvents_eq reading' (List.forall_mem_append.1 answersRest).1] at hy
  obtain rfl := Except.ok.inj hy
  have told := (List.forall_mem_append.1 (List.forall_mem_append.1 tells).2).2
  rcases runs_run_bind_iff.1 afterSecond with
    ⟨e, rfl, failed⟩ | ⟨own'', last, live, rfl, fetched, verdict⟩
  · obtain ⟨_, _, hr, -⟩ := runs_liveStakes positive failed told
    cases hr
  obtain ⟨liveStaked, liveWithdrawn, hlive, sameNet⟩ :=
    runs_liveStakes positive fetched (List.forall_mem_append.1 told).1
  obtain rfl := Except.ok.inj hlive
  refine ⟨sameStakes (netStakes read read') (netStakes liveStaked liveWithdrawn), ?_, ?_⟩
  · cases same : sameStakes (netStakes read read') (netStakes liveStaked liveWithdrawn) <;>
      rw [same] at verdict
    · obtain ⟨⟨⟩, lines, rfl, afterLine⟩ := Act.runs_ask_bind_iff.1 verdict
      obtain ⟨⟨⟩, line, rfl, afterLines⟩ := Act.runs_ask_bind_iff.1 afterLine
      exact (Act.runs_say_pure_iff.1 afterLines).2
    · exact (Act.runs_say_pure_iff.1 verdict).2
  · rw [sameStakes_netStakes_iff]
    exact ⟨fun same => same.trans sameNet, fun same => same.trans sameNet.symm⟩

/-! ### A chain that is stored -/

/-- A node that tells of a chain and of nothing else. -/
def Ledger.node (chain : Ledger) (newest : Int) : (c : NodeCall) → c.Answer
  | .logs _ name first last =>
    Except.ok ((EventType.all.filter (·.logName = name)).flatMap fun type =>
      (chain.within type first last).map ChainLog.log)
  | .blockNumber => Except.ok newest
  | c => c.offline

lemma answers_node (chain : Ledger) (newest : Int) (c : NodeCall) :
    chain.Answers newest c (chain.node newest c) := by
  cases c with
  | logs registry name first last =>
    rintro type rfl
    have one : EventType.all.filter (·.logName = type.logName) = [type] := by cases type <;> decide
    change Except.ok ((EventType.all.filter (·.logName = type.logName)).flatMap _) = _
    rw [one, List.flatMap_singleton]
  | blockNumber => exact Eq.refl (Except.ok newest : Except Fault Int)
  | _ => trivial

lemma tells_trace {α : Type} (chain : Ledger) (newest : Int) (p : Program Host α) (t : FileTree) :
    ∀ e ∈ p.trace (Host.onTree (chain.node newest)) t, Tells chain newest e := by
  refine forall_mem_trace (fun c t => ?_) p t
  rcases c with _ | _ | _ | _ | _ | _ | _ | _ | _ | c | _
  case node => exact answers_node chain newest c
  all_goals trivial

/-- A chain whose events can be printed is stored where nothing is in the way. -/
lemma exists_isRun {here : List String} (registry : String) (block chunk : Int) (now : Moment)
    (positive : 1 ≤ chunk)
    (printable : ∀ type, ∀ e ∈ chain.events type 0 block, IsPrintable e)
    (made : Made t directory here t)
    (located :
      ∀ type ∈ EventType.all, t.locate (directory.child (artifactName type.name block now)) =
      .ok (here ++ [artifactName type.name block now]))
    (free : ∀ type ∈ EventType.all, t.find? (here ++ [artifactName type.name block now]) = none) :
    ∃ run : StoreRun, ∃ t', run.IsRun registry directory t t' ∧ run.block = block ∧
      run.chunk = chunk ∧
      (∃ paths, run.result = .ok paths) ∧ ∀ e ∈ run.events, Tells chain block e := by
  have fetches (type : EventType) : ∃ es text own,
      Runs (fetchEvents registry type { toBlock := some block, chunk }).run own (.ok es) ∧
      eventsText? es = some text ∧ ∀ e ∈ own, Tells chain block e := by
    have run := runs_trace (Host.onTree (chain.node block))
      (fetchEvents registry type { toBlock := some block, chunk }).run t
    have tells := tells_trace chain block
      (fetchEvents registry type { toBlock := some block, chunk }).run t
    obtain ⟨es, fetched, perm⟩ := runs_fetchEvents positive run tells
    rw [fetched] at run
    exact ⟨es, _, _, run, eventsText?_eq_some_iff.2
      ⟨fun e he => printable type e (perm.mem_iff.1 he), rfl⟩, tells⟩
  choose es text own fetch printed tells using fetches
  obtain ⟨trace, t', paths, run, files, asked⟩ := exists_runs_storeTypes (by decide) block now
    (fun type _ => fetch type) made located free fun type _ => printed type
  refine ⟨⟨block, chunk, trace, .ok paths⟩, t', ⟨run, files⟩, rfl, rfl, ⟨paths, rfl⟩,
    fun e mem => ?_⟩
  obtain ⟨c, x⟩ := e
  rcases c with _ | _ | _ | _ | _ | _ | _ | _ | _ | c | _
  case node =>
    obtain ⟨type, -, mem⟩ := asked c x mem
    exact tells type _ mem
  all_goals trivial

/-! ### What validation tells -/

/-- What a validation of the snapshots in a tree tells while a node tells of a chain. -/
def Verdict (t : FileTree) (directory : Path) (chain : Ledger) (newest : Int)
    (r : Except StoreError Bool) :
    Prop :=
  ∃ registry chunk trace t', 1 ≤ chunk ∧ Runs (validate registry directory chunk).run trace r ∧
    OnFiles t trace t' ∧ ∀ e ∈ trace, Tells chain newest e

/-- Validation tells whether snapshots and chain have the same keys staked, with the same stake
each.

* It answers, and says yes exactly if the same keys were staked in both, with the same sum of staked
  less withdrawn amounts each.
* The order of events and withdrawals of keys that were never staked do not matter to it.
* The snapshots of a store run are valid on the chain that they were taken from, while they are the
  newest of their types. -/
theorem validate_iff_sameNet :
    (∀ {t : FileTree} {directory : Path} {chain : Ledger} {newest : Int}
        {staked withdrawn : List Event} {r : Except StoreError Bool},
        Holds t directory .staked staked →
      Holds t directory .withdraw withdrawn → Verdict t directory chain newest r →
      ∃ b, r = .ok b ∧ (b = true ↔ SameNet staked withdrawn (chain.events .staked 0 newest)
        (chain.events .withdraw 0 newest))) ∧
    (∀ {t t' : FileTree} {directory directory' : Path} {chain chain' : Ledger}
        {newest newest' : Int} {staked withdrawn staked' withdrawn' : List Event}
        {r r' : Except StoreError Bool},
      Holds t directory .staked staked → Holds t directory .withdraw withdrawn →
      Holds t' directory' .staked staked' → Holds t' directory' .withdraw withdrawn' →
      SameUpToOrder staked withdrawn staked' withdrawn' →
      SameUpToOrder (chain.events .staked 0 newest) (chain.events .withdraw 0 newest)
        (chain'.events .staked 0 newest') (chain'.events .withdraw 0 newest') →
      Verdict t directory chain newest r → Verdict t' directory' chain' newest' r' → r = r') ∧
    ∀ {registry : String} {directory : Path} {chain : Ledger} {t t' later : FileTree}
        {run : StoreRun} {r : Except StoreError Bool}, run.IsRun registry directory t t' →
      1 ≤ run.chunk → (∀ e ∈ run.events, Tells chain run.block e) →
      (∃ paths, run.result = .ok paths) →
      (∀ type path text, run.snapshot? type = some (path, text) →
        later.read path = t'.read path ∧ IsNewest later directory type path) →
      Verdict later directory chain run.block r → r = .ok true := by
  have answers {t directory chain newest staked withdrawn r}
      (heldStaked : Holds t directory .staked staked)
      (heldWithdrawn : Holds t directory .withdraw withdrawn)
      (verdict : Verdict t directory chain newest r) :
      ∃ b, r = .ok b ∧ (b = true ↔ SameNet staked withdrawn (chain.events .staked 0 newest)
        (chain.events .withdraw 0 newest)) := by
    obtain ⟨registry, chunk, trace, t', positive, run, files, tells⟩ := verdict
    exact runs_validate positive heldStaked heldWithdrawn run files tells
  refine ⟨answers, ?_, ?_⟩
  · intro t t' directory directory' chain chain' newest newest' staked withdrawn staked'
        withdrawn' r r'
      heldStaked heldWithdrawn heldStaked' heldWithdrawn' stored live verdict verdict'
    obtain ⟨b, rfl, same⟩ := answers heldStaked heldWithdrawn verdict
    obtain ⟨b', rfl, same'⟩ := answers heldStaked' heldWithdrawn' verdict'
    refine congrArg Except.ok (Bool.eq_iff_iff.2 ?_)
    rw [same, same']
    exact ⟨fun h => (stored.sameNet.symm.trans h).trans live.sameNet,
      fun h => (stored.sameNet.trans h).trans live.sameNet.symm⟩
  · intro registry directory chain t t' later run r isRun positive tells done still verdict
    have held (type : EventType) :
        ∃ es, Holds later directory type es ∧ es.Perm (chain.events type 0 run.block) := by
      obtain ⟨⟨path, text⟩, stored⟩ := (StoreRun.snapshot?_complete_iff isRun).2 done type
      obtain ⟨unchanged, isNewest⟩ := still type path text stored
      exact holds_of_stored isRun positive tells stored unchanged isNewest
    obtain ⟨staked, heldStaked, permStaked⟩ := held .staked
    obtain ⟨withdrawn, heldWithdrawn, permWithdrawn⟩ := held .withdraw
    obtain ⟨b, rfl, same⟩ := answers heldStaked heldWithdrawn verdict
    rw [same.2 (SameUpToOrder.of_perm permStaked permWithdrawn).sameNet]

/-- A log of a stake. -/
def stakeLog : ChainLog where
  log := ⟨"0x0000000000000000000000000000000000000000", [0xaa], .int 3, .int 2⟩
  event := ⟨addressOfBytes (List.replicate 20 0), "aa", 3, 2⟩
  reads := by
    rw [Event.ofLog_zeroAddress]
    rfl

/-- A log of a withdrawal of another key. -/
def strayLog : ChainLog where
  log := ⟨"0x0000000000000000000000000000000000000000", [0xbb], .int 1, .int 4⟩
  event := ⟨addressOfBytes (List.replicate 20 0), "bb", 1, 4⟩
  reads := by
    rw [Event.ofLog_zeroAddress]
    rfl

/-- A chain with one stake and some withdrawals. -/
def oneStake (withdrawals : List ChainLog) : Ledger
  | .staked => [stakeLog]
  | .unstaked => []
  | .withdraw => withdrawals

/-- What a validation in a directory tells while a node tells of a chain up to block 5. -/
def verdictOf (t : FileTree) (chain : Ledger) : Except StoreError Bool :=
  ((validate "r" (Path.ofText "a") 3).run.run (Host.onTree (chain.node 5)) t).1

lemma verdict_verdictOf (t : FileTree) (chain : Ledger) :
    Verdict t (Path.ofText "a") chain 5 (verdictOf t chain) :=
  ⟨"r", 3, _, _, by decide, runs_trace _ _ _, onFiles_trace _ _ _, tells_trace _ _ _ _⟩

/-- The snapshots of a chain with one stake are valid on it and on one with a withdrawal of another
key, and not on a chain without logs. -/
theorem validate_iff_sameNet_of_oneStake : ∃ run t',
    StoreRuns "r" (Path.ofText "a") emptyDirectory [run] t' ∧ run.block = 5 ∧
    verdictOf t' (oneStake []) = .ok true ∧ verdictOf t' (oneStake [strayLog]) = .ok true ∧
    verdictOf t' (fun _ => []) = .ok false := by
  have printable : ∀ type, ∀ e ∈ (oneStake []).events type 0 5, IsPrintable e := by
    have one : IsPrintable stakeLog.event := by
      constructor <;> unfold Numeral.IsReadable <;> decide +kernel
    rintro (_ | _ | _)
    · exact List.forall_mem_singleton.2 one
    all_goals exact List.forall_mem_nil _
  have place : ∀ type ∈ EventType.all, (emptyDirectory.atTime 1).locate
      ((Path.ofText "a").child (artifactName type.name 5 (Moment.ofSeconds 0))) =
        .ok (["a"] ++ [artifactName type.name 5 (Moment.ofSeconds 0)]) := by
    simp only [locate, Path.hasNul_eq]
    decide +kernel
  have free : ∀ type ∈ EventType.all, ((emptyDirectory.atTime 1).find?
      (["a"] ++ [artifactName type.name 5 (Moment.ofSeconds 0)])).isNone = true := by decide +kernel
  obtain ⟨run, t', isRun, block, chunk, done, tells⟩ :=
    exists_isRun "r" 5 2 (Moment.ofSeconds 0) (by decide)
    printable (Made.self emptyDirectory_located rfl).atTime place
    fun type mem => Option.isNone_iff_eq_none.1 (free type mem)
  have runs : StoreRuns "r" (Path.ofText "a") emptyDirectory [run] t' :=
    .cons (by decide) isRun (.nil _)
  have positive : 1 ≤ run.chunk := by rw [chunk]; decide
  rw [← block] at tells
  have newest (type : EventType) (path : Path) (text : String)
      (stored : run.snapshot? type = some (path, text)) : IsNewest t' (Path.ofText "a") type path :=
    (runs.isNewest (.self emptyDirectory_located rfl) (fun _ => datedBy_emptyDirectory) (by decide)
      (by simpa [lastSnapshot?] using stored)).1
  -- the stored snapshots are the newest
  have held (type : EventType) : ∃ es, Holds t' (Path.ofText "a") type es ∧
      es.Perm ((oneStake []).events type 0 5) := by
    obtain ⟨⟨path, text⟩, stored⟩ := (StoreRun.snapshot?_complete_iff isRun).2 done type
    have held := holds_of_stored isRun positive tells stored rfl (newest type path text stored)
    rwa [block] at held
  obtain ⟨staked, heldStaked, permStaked⟩ := held .staked
  obtain ⟨withdrawn, heldWithdrawn, permWithdrawn⟩ := held .withdraw
  have valid : verdictOf t' (oneStake []) = .ok true :=
    validate_iff_sameNet.2.2 isRun positive tells done
      (fun type path text stored => ⟨rfl, newest type path text stored⟩)
      (block ▸ verdict_verdictOf t' (oneStake []))
  have stored : SameUpToOrder staked withdrawn staked withdrawn := ⟨.refl _, .refl _⟩
  have live : SameUpToOrder
      ((oneStake [strayLog]).events .staked 0 5) ((oneStake [strayLog]).events .withdraw 0 5)
      ((oneStake []).events .staked 0 5) ((oneStake []).events .withdraw 0 5) := by
    refine ⟨.refl _, ?_⟩
    have ignored : withdrawnOf ((oneStake [strayLog]).events .staked 0 5)
        ((oneStake [strayLog]).events .withdraw 0 5) = [] := by decide
    rw [ignored]
    exact .refl _
  have strayed : verdictOf t' (oneStake [strayLog]) = verdictOf t' (oneStake []) :=
    validate_iff_sameNet.2.1 heldStaked heldWithdrawn heldStaked heldWithdrawn stored live
      (verdict_verdictOf _ _) (verdict_verdictOf _ _)
  refine ⟨run, t', runs, block, valid, strayed.trans valid, ?_⟩
  obtain ⟨b, told, same⟩ :=
    validate_iff_sameNet.1 heldStaked heldWithdrawn (verdict_verdictOf t' fun _ => [])
  cases b
  · exact told
  · have keys := (same.1 rfl).keys "aa"
    rw [hasKey_perm permStaked] at keys
    exact absurd (keys.1 (by decide)) (by decide)

end StakeRegistry.Registry
