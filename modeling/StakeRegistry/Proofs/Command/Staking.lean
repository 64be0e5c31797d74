/-
Staking the keys of a file.

A run of the command reads the keys, divides them into batches, sees to it that the account has the
values of all batches, and sends one transaction for each batch:

* `ReadsKeys file es keys`: the events `es` read the keys of a file;
* `prepare o`: what is done before the balance is checked (`run_eq`);
* `Planned o p es`: the events `es` prepare a plan, and send nothing;
* `Sends o p es r registry first turns`: the batches of a plan are sent in turns, each with its
  value at the nonce after that of the turn before, up to the first that is not staked;
* `Staking o es r`: a whole run, in which the balance decides whether anything is sent.

The main statement is `stakes_in_order`: every run is one of these, whatever the host answers. The
turns come from the turns of the run of transactions (`sendsInTurns_of_runs`), and the two places
that compute amounts agree because the batches are the keys in pieces (`Planned.total_eq`). A run
that can pay its plan returns on a node that includes what is sent (`ok_of_obliges`).
-/
import StakeRegistry.Command.Stake
import StakeRegistry.Proofs.Command.KeyLines
import StakeRegistry.Proofs.Command.Setup
import StakeRegistry.Proofs.Host.Surroundings
import StakeRegistry.Proofs.Node.Progress
import StakeRegistry.Proofs.Registry.Batches
import StakeRegistry.Proofs.Registry.Migrating

namespace StakeRegistry.Command.Stake

open Node Program Registry Tx

/-- The events read the keys of a file: every line that is not blank is one key, in their order. -/
def ReadsKeys (file : String) (es : List (Program.Event Host)) (keys : List Bytes) : Prop :=
  ∃ (working : Path) (bytes : ByteArray) (text : String),
    es = [⟨.file .workingDirectory, working⟩,
      ⟨.file (.isThere ((Path.ofText file).resolve working)), Except.ok true⟩,
      ⟨.file (.read ((Path.ofText file).resolve working)), Except.ok bytes⟩] ∧
    textFile bytes = .ok text ∧
    List.Forall₂ (fun line key => readPubkey line = .ok key) (keyLines text) keys ∧ keys ≠ []

/-- What a run sends. -/
structure Plan where
  network : Config.Network
  account : Account
  chainId : Int
  keys : List Bytes
  batches : List (List Bytes)

/-- What is done before the balance is checked. -/
def prepare (o : Options) : Act Failure Plan := do
  let network ← setUp o.network
  let account ← signer network
  let keys ← readKeys o.keysFile
  match splitBatches keys o.batchSize with
  | none => throw .batchSizeNotPositive
  | some batches =>
    reach network
    let chainId ← chainIdOf network
    return { network, account, chainId, keys, batches }

/-- The value of a batch. -/
def Options.valueOf (o : Options) (batch : List Bytes) : Int :=
  o.stakePerValidator * batch.length

/-- The values of all batches. -/
def Plan.total (p : Plan) (o : Options) : Int :=
  (p.batches.map o.valueOf).foldr (· + ·) 0

/-- The call that stakes a batch, with its signer. -/
def Plan.payload (p : Plan) (registry : String) (batch : List Bytes) : Payload where
  call := { contract := registry, method := "stake", arguments := [.keys batch] }
  account := p.account.address
  chainId := p.chainId

/-- The transaction of a batch. -/
def Plan.intent (p : Plan) (o : Options) (registry : String) (batch : List Bytes) :
    Intent Payload where
  payload := p.payload registry batch
  sender := p.account.address
  value := o.valueOf batch
  gasLimit := o.gasLimit

/-- The keys of a plan are those of the file, and its batches are these keys in pieces. -/
structure Planned (o : Options) (p : Plan) (es : List (Program.Event Host)) : Prop where
  prepared : Runs (prepare o).run es (.ok p)
  reads : ∃ own, own <:+: es ∧ ReadsKeys o.keysFile own p.keys
  divides : Divides p.keys o.batchSize p.batches
  preliminary : ∀ e ∈ es, IsPreliminary e.1

/-- The batches of a plan are sent in turns, one after the other, up to the first that is not
staked. -/
structure SendsInTurns {ε α : Type} (o : Options) (p : Plan) (es : List (Program.Event Host))
    (r : Except ε α) (registry : String) (first : Int) (turns : List (List (Program.Event Host))) :
    Prop where
  /-- Nothing is sent before, between and after the turns. -/
  exists_rest : ∃ before after, es = before ++ (turns.flatten ++ after) ∧
    (∀ e ∈ before, isTransaction e.1 = false) ∧ ∀ e ∈ after, isTransaction e.1 = false
  /-- A turn broadcasts only its own batch, at the nonce after that of the turn before. -/
  broadcasts : ∀ {i : Nat} {own : List (Program.Event Host)} {batch : List Bytes},
    turns[i]? = some own → p.batches[i]? = some batch →
    BroadcastsAt (p.intent o registry batch) (first + i) own
  /-- Every turn has a batch. -/
  length_le : turns.length ≤ p.batches.length
  /-- A run that returns has staked every batch. -/
  complete : ∀ a, r = .ok a → turns.length = p.batches.length ∧ ∀ own ∈ turns, Included own
  /-- A run that fails has staked the batches of all turns but perhaps the last, which are not all
  batches; the last one has no receipt of success, unless its block cannot be told. -/
  stopped : ∀ e, r = .error e → ∃ staked rest, turns = staked ++ rest ∧ rest.length ≤ 1 ∧
    staked.length < p.batches.length ∧ (∀ own ∈ staked, Included own) ∧
    ∀ own ∈ rest, ∀ told ∈ receiptsIn own, told.2.status = 1 →
      Numeral.isWritable told.2.blockNumber = false

/-- The batches of a plan are sent to the registry of the network, which was opened before, and it
is told at last if all of them are staked. -/
structure Sends (o : Options) (p : Plan) (es : List (Program.Event Host)) (r : Except Failure Unit)
    (registry : String) (first : Int) (turns : List (List (Program.Event Host))) : Prop
    extends SendsInTurns o p es r registry first turns where
  opened : turns ≠ [] → checkedAddress p.network.registryAddress = .ok registry ∧
    ⟨.node (.contract registry interfaceValue), ()⟩ ∈ es
  told : r = .ok () → es.getLast? = some ⟨.say "All staking batches completed!", ()⟩

/-- A run of the command. -/
inductive Staking (o : Options) : List (Program.Event Host) → Except Failure Unit → Prop where
  /-- The preparation fails, and nothing is sent. -/
  | unprepared {es : List (Program.Event Host)} {e : Failure}
      (failed : Runs (prepare o).run es (.error e)) (preliminary : ∀ x ∈ es, IsPreliminary x.1) :
      Staking o es (.error e)
  /-- The account has no address that a balance can be asked for, and nothing is sent. -/
  | unchecked {p : Plan} {es : List (Program.Event Host)} {e : Failure} (planned : Planned o p es)
      (unchecked : ∀ address, checkedAddress p.account.address ≠ .ok address) :
      Staking o es (.error e)
  /-- The balance is not told or below the values of all batches, and nothing is sent. -/
  | unfunded {p : Plan} {es : List (Program.Event Host)} {address : String}
      {answer : Except Fault Int} {e : Failure} (planned : Planned o p es)
      (checked : checkedAddress p.account.address = .ok address)
      (short : ∀ balance, answer = .ok balance → balance < p.total o) :
      Staking o (es ++ [⟨.node (.balance address), answer⟩]) (.error e)
  /-- The balance covers the values of all batches, and the batches are sent. -/
  | funded {p : Plan} {es after : List (Program.Event Host)} {address : String} {balance : Int}
      {r : Except Failure Unit} {registry : String} {first : Int}
      {turns : List (List (Program.Event Host))} (planned : Planned o p es)
      (checked : checkedAddress p.account.address = .ok address) (enough : p.total o ≤ balance)
      (sends : Sends o p after r registry first turns) :
      Staking o (es ++ ⟨.node (.balance address), Except.ok balance⟩ :: after) r

/-! ### The plan -/

variable {o : Options} {p : Plan} {own es : List (Program.Event Host)} {r : Except Failure Unit}

lemma preliminary_readKeys (file : String) : Uses IsPreliminary (readKeys file).run := by
  refine uses_run_bind (Act.uses_ask ⟨rfl, rfl⟩) fun working => uses_run_guard ?_
  refine uses_run_bind (Act.uses_ask ⟨rfl, rfl⟩) fun x =>
    uses_run_bind Act.uses_orElse fun there => ?_
  refine uses_run_guard (uses_run_bind (Act.uses_ask ⟨rfl, rfl⟩) fun x => ?_)
  refine uses_run_bind Act.uses_orElse fun bytes => uses_run_bind Act.uses_orElse fun text => ?_
  exact uses_run_bind Act.uses_orElse fun keys => uses_run_guard uses_run_pure

lemma preliminary_prepare (o : Options) : Uses IsPreliminary (prepare o).run := by
  refine uses_run_bind (preliminary_setUp _) fun network => ?_
  refine uses_run_bind (preliminary_signer _) fun account => ?_
  refine uses_run_bind (preliminary_readKeys _) fun keys => ?_
  split
  · exact uses_run_throw
  · refine uses_run_bind (preliminary_reach _) fun _ => ?_
    exact uses_run_bind (preliminary_chainIdOf _) fun chainId => uses_run_pure

/-- Keys are read exactly if the file is there, its text can be read, and each of its lines that is
not blank is a key. -/
lemma runs_readKeys_ok_iff {file : String} {keys : List Bytes} :
    Runs (readKeys file).run es (.ok keys) ↔
      (Path.ofText file).hasNul = false ∧ ReadsKeys file es keys := by
  constructor
  · intro run
    unfold readKeys at run
    obtain ⟨working, es₁, rfl, run₁⟩ := Act.runs_ask_bind_iff.1 run
    obtain ⟨noNul, run₂⟩ := runs_run_guard_ok_iff.1 run₁
    obtain ⟨there, es₂, rfl, run₃⟩ := Act.runs_ask_bind_iff.1 run₂
    obtain ⟨isThere, rfl, run₄⟩ := Act.runs_orElse_bind_ok_iff.1 run₃
    obtain ⟨present, run₅⟩ := runs_run_guard_ok_iff.1 run₄
    obtain ⟨content, es₃, rfl, run₆⟩ := Act.runs_ask_bind_iff.1 run₅
    obtain ⟨bytes, rfl, run₇⟩ := Act.runs_orElse_bind_ok_iff.1 run₆
    obtain ⟨text, htext, run₈⟩ := Act.runs_orElse_bind_ok_iff.1 run₇
    obtain ⟨keys', hkeys, run₉⟩ := Act.runs_orElse_bind_ok_iff.1 run₈
    obtain ⟨nonempty, run₁₀⟩ := runs_run_guard_ok_iff.1 run₉
    obtain ⟨rfl, ended⟩ := runs_run_pure_iff.1 run₁₀
    obtain rfl : keys = keys' := Except.ok.inj ended
    obtain rfl : isThere = true := by simpa using present
    exact ⟨by simpa using noNul, working, bytes, text, rfl, htext, mapM_eq_ok_iff.1 hkeys,
      by simpa using nonempty⟩
  · rintro ⟨noNul, working, bytes, text, rfl, decoded, read, nonempty⟩
    unfold readKeys
    refine Act.runs_ask_bind_iff.2 ⟨working, _, rfl, ?_⟩
    refine runs_run_guard_ok_iff.2 ⟨by simpa using noNul, ?_⟩
    refine Act.runs_ask_bind_iff.2 ⟨.ok true, _, rfl, ?_⟩
    refine Act.runs_orElse_bind_ok_iff.2 ⟨true, rfl, ?_⟩
    refine runs_run_guard_ok_iff.2 ⟨by decide, ?_⟩
    refine Act.runs_ask_bind_iff.2 ⟨.ok bytes, _, rfl, ?_⟩
    refine Act.runs_orElse_bind_ok_iff.2 ⟨bytes, rfl, ?_⟩
    refine Act.runs_orElse_bind_ok_iff.2 ⟨text, decoded, ?_⟩
    refine Act.runs_orElse_bind_ok_iff.2 ⟨keys, mapM_eq_ok_iff.2 read, ?_⟩
    exact runs_run_guard_ok_iff.2 ⟨by simpa using nonempty, runs_run_pure_iff.2 ⟨rfl, rfl⟩⟩

/-- A plan has an account that signs, the keys of the file and their batches. -/
lemma parts_of_runs (run : Runs (prepare o).run es (.ok p)) :
    (∃ network own, Runs (signer network).run own (.ok p.account)) ∧
      (∃ own, own <:+: es ∧ ReadsKeys o.keysFile own p.keys) ∧
      splitBatches p.keys o.batchSize = some p.batches := by
  unfold prepare at run
  obtain ⟨own₁, es₁, network, rfl, -, run₁⟩ := runs_run_bind_ok_iff.1 run
  obtain ⟨own₂, es₂, account, rfl, signs, run₂⟩ := runs_run_bind_ok_iff.1 run₁
  obtain ⟨own, es₃, keys, rfl, reading, run₃⟩ := runs_run_bind_ok_iff.1 run₂
  cases split : splitBatches keys o.batchSize with
  | none =>
    rw [split] at run₃
    obtain ⟨-, ended⟩ := runs_run_throw_iff.1 run₃
    cases ended
  | some batches =>
    rw [split] at run₃
    obtain ⟨own₄, es₄, ⟨⟩, rfl, -, run₄⟩ := runs_run_bind_ok_iff.1 run₃
    obtain ⟨own₅, es₅, chainId, rfl, -, run₅⟩ := runs_run_bind_ok_iff.1 run₄
    obtain ⟨rfl, ended⟩ := runs_run_pure_iff.1 run₅
    obtain rfl := Except.ok.inj ended
    have within : own <:+: own₁ ++ (own₂ ++ (own ++ (own₄ ++ (own₅ ++ [])))) :=
      ⟨own₁ ++ own₂, own₄ ++ (own₅ ++ []), by simp⟩
    exact ⟨⟨network, own₂, signs⟩, ⟨own, within, (runs_readKeys_ok_iff.1 reading).2⟩, split⟩

lemma planned_of_runs (run : Runs (prepare o).run es (.ok p)) : Planned o p es := by
  obtain ⟨-, reads, split⟩ := parts_of_runs run
  exact ⟨run, reads, divides_of_splitBatches split, allowed_of_runs (preliminary_prepare o) run⟩

/-- There is a key in the file, and so there is a batch. -/
lemma Planned.batches_pos (h : Planned o p es) : 0 < p.batches.length := by
  obtain ⟨own, -, working, bytes, text, -, -, -, nonempty⟩ := h.reads
  refine List.length_pos_iff.2 fun none => nonempty ?_
  rw [← h.divides.flatten_eq, none, List.flatten_nil]

/-- The values of the batches are together the stake of every key. -/
lemma Options.sum_valueOf (o : Options) (batches : List (List Bytes)) :
    (batches.map o.valueOf).foldr (· + ·) 0 = o.stakePerValidator * batches.flatten.length := by
  induction batches with
  | nil => simp
  | cons batch batches ih =>
    rw [List.map_cons, List.foldr_cons, ih, valueOf, List.flatten_cons, List.length_append]
    push_cast
    rw [Int.mul_add]

lemma Planned.total_eq (h : Planned o p es) : p.total o = o.stakePerValidator * p.keys.length := by
  rw [Plan.total, o.sum_valueOf, h.divides.flatten_eq]

/-! ### The turns -/

lemma of_asks_sayCompleted {ω : Type} {what : String} {xs : List (Exchange ω)}
    {x : Except Fault Unit} (h : Asks (sayCompleted what) xs x) : xs = [] ∧ x = .ok () := by
  obtain ⟨es, run, rfl⟩ := h
  obtain ⟨rfl, rfl⟩ := runs_sayCompleted run
  exact ⟨rfl, rfl⟩

/-- The report of a batch asks nothing and does not fail. -/
lemma silent_of_reports {ω : Type} {place : Nat} {t : Turn ω}
    (h : t.Reports (fun place _ => sayCompleted ("Batch " ++ toString place)) place) :
    t.exchanges = t.own ∧ ∀ f, t.reported ≠ some (.error f) := by
  cases h with
  | silent outcome reported told => simp [Turn.exchanges, told, reported]
  | made outcome writable status reported told =>
    obtain ⟨none, rfl⟩ := of_asks_sayCompleted told
    simp [Turn.exchanges, none, reported]

/-- The run that sends the batches of a plan. -/
abbrev batchRun (o : Options) (p : Plan) (registry : String) : BatchRun Payload (List Receipt) :=
  stakeBatches { sender := p.account.address, gasLimit := o.gasLimit }
      (p.payload registry) p.batches o.stakePerValidator

lemma intent_eq {s : Submitter} {report : Tx.Report Payload} {registry : String} {place : Nat}
    {a a' : Allocator} {ts : List (Turn Payload)} {x : Except BatchError (List Receipt)} {i : Nat}
    {t : Turn Payload} {batch : List Bytes}
    (h : Batch s report place (p.batches.mapIdx fun i batch =>
      stakeIntent { sender := p.account.address, gasLimit := o.gasLimit } (p.payload registry)
        o.stakePerValidator (i + 1) batch) a ts x a')
    (ht : ts[i]? = some t) (hbatch : p.batches[i]? = some batch) :
    t.intent =
      { p.intent o registry batch with description := "Stake batch " ++ toString (i + 1) } := by
  have hi : i < ts.length := (List.getElem?_eq_some_iff.1 ht).1
  have entry := congrArg (·[i]?) h.intents_eq
  simp only [List.getElem?_map, ht, List.getElem?_take_of_lt hi, List.getElem?_mapIdx, hbatch,
    Option.map_some] at entry
  exact Option.some.inj entry

/-- The events of a place are those of the turn there, and its report does not stop the run. -/
lemma exists_turn {s : Submitter} {intents : List (Intent Payload)} {a a' : Allocator}
    {ts : List (Turn Payload)} {x : Except BatchError (List Receipt)}
    {turns : List (List (Program.Event Host))} {i : Nat}
    (batch : Batch s (fun place _ => sayCompleted ("Batch " ++ toString place)) 1 intents a ts x a')
    (each : List.Forall₂ (fun t own => Shows t.exchanges own) ts turns)
    (hown : turns[i]? = some own) :
    ∃ t : Turn Payload, ts[i]? = some t ∧ Shows t.own own ∧ (∀ f, t.reported ≠ some (.error f)) ∧
      ∃ a₀ a₁, Takes s t.intent a₀ t.own t.outcome a₁ := by
  obtain ⟨t, ht, shows⟩ := exists_getElem?_of_forall₂ each hown
  obtain ⟨exchanges_eq, reported⟩ := silent_of_reports (batch.reports i t ht)
  obtain ⟨a₀, a₁, asks⟩ := batch.own t (List.mem_of_getElem? ht)
  exact ⟨t, ht, exchanges_eq ▸ shows, reported, a₀, a₁, takes_of_asks asks⟩

lemma sendsInTurns_of_runs {registry : String} {x : Except BatchError (List Receipt)}
    (run : Runs (runBatch p.account.address (batchRun o p registry)).run es x) :
    ∃ first turns, SendsInTurns o p es x registry first turns := by
  obtain ⟨ts, turns, after, a', hes, quiet, each, batch⟩ := turns_of_runs run
  obtain ⟨first, submits, -, -⟩ := batch.exists_first
  have length_eq : ts.length = turns.length := each.length_eq
  have length_le : ts.length ≤ p.batches.length := by
    have := congrArg List.length batch.intents_eq
    simp only [List.length_map, List.length_take, List.length_mapIdx] at this
    omega
  refine ⟨first, turns, ?_⟩
  constructor
  case exists_rest => exact ⟨[], after, hes, by simp, quiet⟩
  case broadcasts =>
    intro i own b hown hbatch
    obtain ⟨t, ht, shows, -, -⟩ := exists_turn batch each hown
    have submitsAt := submits i t ht
    rw [intent_eq batch ht hbatch] at submitsAt
    exact shows.broadcastsAt submitsAt
  case length_le => exact length_eq ▸ length_le
  case complete =>
    intro receipts hx
    obtain ⟨-, length, completed⟩ := batch.of_ok hx
    refine ⟨by simpa [← length_eq] using length, fun own hown => ?_⟩
    obtain ⟨i, hi⟩ := List.mem_iff_getElem?.1 hown
    obtain ⟨t, ht, shows, -, a₀, a₁, takes⟩ := exists_turn batch each hi
    exact shows.included takes (completed t (List.mem_of_getElem? ht))
  case stopped =>
    intro e hx
    obtain ⟨earlier, t, hts, stops⟩ := batch.of_error hx
    obtain rfl | ⟨staked, last, rfl⟩ := List.eq_nil_or_concat' turns
    · simp [hts] at length_eq
    have staked_length : staked.length = earlier.length := by simpa [hts] using length_eq.symm
    have lt : staked.length < p.batches.length := by
      simp only [hts, List.length_append, List.length_singleton] at length_le
      omega
    refine ⟨staked, [last], rfl, by simp, lt, fun own hown => ?_, fun own hown => ?_⟩
    · obtain ⟨i, hi⟩ := List.mem_iff_getElem?.1 hown
      have lt : i < staked.length := (List.getElem?_eq_some_iff.1 hi).1
      have hi' : (staked ++ [last])[i]? = some own := List.getElem?_append_left lt ▸ hi
      obtain ⟨u, hu, shows, -, a₀, a₁, takes⟩ := exists_turn batch each hi'
      exact shows.included takes (batch.completed_of_lt i u hu (by simp [hts]; omega))
    · obtain rfl : own = last := by simpa using hown
      have hi : (staked ++ [own])[staked.length]? = some own := by simp
      obtain ⟨u, hu, shows, reported, a₀, a₁, takes⟩ := exists_turn batch each hi
      obtain rfl : t = u := by simpa [hts, staked_length] using hu
      exact shows.not_told takes stops reported

/-- What asks nothing about transactions may stand before and after the turns, and the result may
be told in another way. -/
lemma SendsInTurns.surrounded {ε ε' α α' : Type} {x : Except ε α} {y : Except ε' α'}
    {registry : String} {first : Int} {turns : List (List (Program.Event Host))}
    {before after : List (Program.Event Host)} (h : SendsInTurns o p es x registry first turns)
    (hbefore : ∀ e ∈ before, isTransaction e.1 = false)
    (hafter : ∀ e ∈ after, isTransaction e.1 = false)
    (returns : ∀ b, y = .ok b → ∃ a, x = .ok a) (fails : ∀ e, y = .error e → ∃ e', x = .error e') :
    SendsInTurns o p (before ++ (es ++ after)) y registry first turns := by
  constructor
  case exists_rest =>
    obtain ⟨before', after', rfl, hbefore', hafter'⟩ := h.exists_rest
    exact ⟨before ++ before', after' ++ after, by simp,
      List.forall_mem_append.2 ⟨hbefore, hbefore'⟩, List.forall_mem_append.2 ⟨hafter', hafter⟩⟩
  case broadcasts => exact h.broadcasts
  case length_le => exact h.length_le
  case complete =>
    intro b hy
    obtain ⟨a, hx⟩ := returns b hy
    exact h.complete a hx
  case stopped =>
    intro e hy
    obtain ⟨e', hx⟩ := fails e hy
    exact h.stopped e' hx

/-- What follows once the balance is known to cover the values of all batches. -/
def sendPlan (o : Options) (p : Plan) : Act Failure Unit := do
  let registry ← openRegistry p.network.registryAddress
  sayLines (heading p.network o p.chainId p.account p.keys.length p.batches.length)
  sendAll p.account (batchRun o p registry)
  Act.say "All staking batches completed!"

/-- Nothing is sent. -/
lemma Sends.nothing {e : Failure} (pos : 0 < p.batches.length)
    (quiet : ∀ x ∈ es, isTransaction x.1 = false) :
    Sends o p es (.error e) "" 0 [] where
  exists_rest := ⟨es, [], by simp, quiet, by simp⟩
  broadcasts := by simp
  length_le := Nat.zero_le _
  complete := nofun
  stopped := fun _ _ => ⟨[], [], rfl, by simp, pos, by simp, by simp⟩
  opened := absurd rfl
  told := nofun

lemma sends_of_runs (pos : 0 < p.batches.length) (run : Runs (sendPlan o p).run es r) :
    ∃ registry first turns, Sends o p es r registry first turns := by
  unfold sendPlan at run
  rcases runs_run_bind_iff.1 run with ⟨e, rfl, failed⟩ | ⟨opening, es₁, registry, rfl, opens, run₁⟩
  · have quiet := allowed_of_runs (preliminary_openRegistry _) failed
    exact ⟨"", 0, [], .nothing pos fun x hx => (quiet x hx).2⟩
  obtain ⟨checked, rfl⟩ := contract_of_runs opens
  rcases run_bind_cases_of_uses (preliminary_sayLines _) run₁ with
    ⟨e, rfl, quiet⟩ | ⟨lines, es₂, ⟨⟩, rfl, quiet, -, run₂⟩
  · exact ⟨"", 0, [], .nothing pos (List.forall_mem_cons.2 ⟨rfl, fun x hx => (quiet x hx).2⟩)⟩
  have hbefore :
    ∀ e ∈ ⟨.node (.contract registry interfaceValue), ()⟩ :: lines, isTransaction e.1 = false :=
    List.forall_mem_cons.2 ⟨rfl, fun x hx => (quiet x hx).2⟩
  rcases runs_run_bind_iff.1 run₂ with ⟨e, rfl, sent⟩ | ⟨own, es₃, ⟨⟩, rfl, sent, run₃⟩
  · -- the command ends with the run of transactions
    obtain ⟨x, batches, -, fails⟩ := runBatch_of_runs sent
    obtain ⟨first, turns, inTurns⟩ := sendsInTurns_of_runs batches
    have hafter : ∀ e ∈ ([] : List (Program.Event Host)), isTransaction e.1 = false := by simp
    refine ⟨registry, first, turns, ?_, fun _ => ⟨checked, List.mem_cons_self⟩, nofun⟩
    simpa using inTurns.surrounded hbefore hafter nofun fails
  · -- all batches are staked, and nothing but the last line is left
    obtain ⟨x, batches, returns, -⟩ := runBatch_of_runs sent
    obtain ⟨first, turns, inTurns⟩ := sendsInTurns_of_runs batches
    obtain ⟨⟨⟩, rfl, rfl⟩ := Act.runs_ask_iff.1 run₃
    refine ⟨registry, first, turns, ?_, fun _ => ⟨checked, List.mem_cons_self⟩, fun _ => ?_⟩
    · exact inTurns.surrounded hbefore (by simp [isTransaction]) (fun _ _ => returns () rfl) nofun
    · rw [← List.append_assoc, ← List.append_assoc]
      exact List.getLast?_concat

/-- The command prepares a plan, sees to it that the account has the stake of every key, and sends
the batches. -/
lemma run_eq (o : Options) : Stake.run o = (prepare o >>= fun p =>
    ensureBalance p.account (o.stakePerValidator * p.keys.length) >>= fun _ => sendPlan o p) := by
  unfold Stake.run prepare
  rw [LawfulMonad.bind_assoc]
  refine bind_congr fun network => ?_
  rw [LawfulMonad.bind_assoc]
  refine bind_congr fun account => ?_
  rw [LawfulMonad.bind_assoc]
  refine bind_congr fun keys => ?_
  cases splitBatches keys o.batchSize with
  | none => rfl
  | some batches =>
    change _ = (reach network >>= fun _ => chainIdOf network >>= fun chainId => pure _) >>= _
    rw [LawfulMonad.bind_assoc]
    refine bind_congr fun _ => ?_
    rw [LawfulMonad.bind_assoc]
    exact bind_congr fun chainId => (pure_bind _ _).symm

lemma staking_of_runs (run : Runs (Stake.run o).run es r) : Staking o es r := by
  rw [run_eq] at run
  rcases runs_run_bind_iff.1 run with ⟨e, rfl, failed⟩ | ⟨own, es₁, p, rfl, prepared, run₁⟩
  · exact .unprepared failed (allowed_of_runs (preliminary_prepare o) failed)
  have planned := planned_of_runs prepared
  rcases runs_run_bind_iff.1 run₁ with ⟨e, rfl, failed⟩ | ⟨own₁, es₂, ⟨⟩, rfl, passed, run₂⟩
  · cases checksBalance_of_runs failed with
    | unasked unchecked => exact .unchecked (by simpa using planned) unchecked
    | short checked short =>
      exact .unfunded planned checked fun b hb => planned.total_eq ▸ short b hb
  · cases checksBalance_of_runs passed with
    | enough checked enough =>
      obtain ⟨registry, first, turns, sends⟩ := sends_of_runs planned.batches_pos run₂
      exact .funded planned checked (planned.total_eq ▸ enough) sends

/-! ### Runs that stake every key -/

/-- The run of a plan comes to its end, if the node obliges. -/
lemma ok_of_runs_sendPlan {registry : String} {price : Int}
    (run : Runs (sendPlan o p).run es r)
    (opened : checkedAddress p.network.registryAddress = .ok registry)
    (checked : checkedAddress p.account.address = .ok p.account.address)
    (gasLimit_pos : 0 < o.gasLimit) (obliges : ∀ q ∈ nodeEvents es, Obliges price q) :
    r = .ok () := by
  unfold sendPlan at run
  rcases runs_run_bind_iff.1 run with ⟨e, rfl, failed⟩ | ⟨own₁, es₁, registry', rfl, opens, run₁⟩
  · cases ok_of_runs_openRegistry opened failed
  obtain rfl := Except.ok.inj (ok_of_runs_openRegistry opened opens).symm
  rcases runs_run_bind_iff.1 run₁ with ⟨e, rfl, failed⟩ | ⟨own₂, es₂, ⟨⟩, rfl, -, run₂⟩
  · cases Act.ok_of_runs_say failed
  rcases runs_run_bind_iff.1 run₂ with ⟨e, rfl, failed⟩ | ⟨own₃, es₃, ⟨⟩, rfl, -, run₃⟩
  · obtain ⟨x, batches, -, fails⟩ := runBatch_of_runs failed
    obtain ⟨e', rfl⟩ := fails e rfl
    rw [nodeEvents_append, nodeEvents_append] at obliges
    have pos : ∀ intent ∈ p.batches.mapIdx fun i batch =>
        stakeIntent { sender := p.account.address, gasLimit := o.gasLimit } (p.payload registry)
          o.stakePerValidator (i + 1) batch, 0 < intent.gasLimit := by
      intro intent mem
      obtain ⟨i, batch, rfl⟩ := List.mem_mapIdx.1 mem
      exact gasLimit_pos
    obtain ⟨receipts, ok⟩ := exists_receipts_of_runs batches checked pos
      (fun _ _ _ _ told _ => (of_asks_sayCompleted told).2) (forall_mem_last obliges)
    cases ok
  · obtain ⟨⟨⟩, -, rfl⟩ := Act.runs_ask_iff.1 run₃
    rfl

/-- A run that comes to a plan returns, if the address of the registry can be checked, the gas limit
is positive, the balance covers the stake of every key and the node obliges. -/
theorem ok_of_obliges {price : Int} (begins : Begins (prepare o).run es (.ok p))
    (run : Runs (Stake.run o).run es r)
    (opens : ∃ registry, checkedAddress p.network.registryAddress = .ok registry)
    (gasLimit_pos : 0 < o.gasLimit)
    (funded : ∀ address (answer : Except Fault Int), ⟨.node (.balance address), answer⟩ ∈ es →
      ∃ balance, answer = .ok balance ∧ p.total o ≤ balance)
    (obliges : ∀ q ∈ nodeEvents es, Obliges price q) : r = .ok () := by
  obtain ⟨registry, opened⟩ := opens
  rw [run_eq] at run
  rcases runs_run_bind_iff.1 run with ⟨e, rfl, failed⟩ | ⟨own, later, p', rfl, prepared, run₁⟩
  · cases begins.eq ⟨es, List.prefix_refl es, failed⟩
  obtain rfl := Except.ok.inj (begins.eq ⟨own, List.prefix_append own later, prepared⟩)
  obtain ⟨⟨network, signing, signs⟩, -, -⟩ := parts_of_runs prepared
  have checked := checkedAddress_of_runs signs
  rcases runs_run_bind_iff.1 run₁ with ⟨e, rfl, failed⟩ | ⟨own₁, rest, ⟨⟩, rfl, -, run₂⟩
  · cases checksBalance_of_runs failed with
    | unasked unchecked => exact absurd checked (unchecked _)
    | short _ short =>
      obtain ⟨balance, rfl, enough⟩ := funded _ _ List.mem_concat_self
      rw [(planned_of_runs prepared).total_eq] at enough
      exact absurd (short balance rfl) (Int.not_lt.2 enough)
  · rw [nodeEvents_append, nodeEvents_append] at obliges
    exact ok_of_runs_sendPlan run₂ opened checked gasLimit_pos (forall_mem_last obliges)

/-! ### Every run -/

/-- Whatever the host answers, the keys of the file are staked batch by batch in their order, with
the values that the balance was compared to; a run that fails has staked the batches before the one
at which it stopped, and no batch after it was sent. -/
theorem stakes_in_order {σ : Type} (host : (c : Host.Call) → σ → Host.Answer c × σ) (s : σ)
    (o : Options) :
    Staking o ((Stake.run o).run.trace host s) ((Stake.run o).run.run host s).1 :=
  staking_of_runs (runs_trace host (Stake.run o).run s)

/-! ### Three keys in two batches -/

/-- The keys that are staked. -/
def threeKeys : List Bytes :=
  List.replicate 3 (List.replicate 48 0xab)

/-- They are staked in batches of two, with a value of five each. -/
def inPairs : Options where
  keysFile := "keys"
  network := "mainnet"
  batchSize := 2
  stakePerValidator := 5
  gasLimit := 21000
  verbose := false

/-- The network that is set up for them. -/
def pairsNetwork : Config.Network where
  name := "mainnet"
  rpcUrl := "https://ethereum-rpc.publicnode.com"
  registryAddress := "0x47afdcB2B089C16CEe354811EA1Bbe0DB7c335E9"
  chainId := some 1
  privateKey := some "0000000000000000000000000000000000000000000000000000000000000001"

/-- A node that includes what is sent, and on which an account has 15. -/
def includingNode : (c : NodeCall) → c.Answer
  | .connect _ _ => true
  | .balance _ => Except.ok 15
  | .transactionCount _ => Except.ok 7
  | .priorityFee => Except.ok (.int 1)
  | .gasPrice => Except.ok (.int 10)
  | .build call params => Except.ok { call, params }
  | .sign account transaction => Except.ok { account, transaction }
  | .send _ => Except.ok [1]
  | .wait hash _ _ => Except.ok [("transactionHash", .plain (.text hash)),
      ("blockNumber", .plain (.int 5)), ("status", .plain (.int 1))]
  | c => c.offline

/-- A host that has a private key and a file of the keys, and reaches this node. -/
def includingHost : (c : Host.Call) → Unit → Host.Answer c × Unit
  | .environment, _ =>
    ([("PRIVATE_KEY", "0000000000000000000000000000000000000000000000000000000000000001")], ())
  | .file (.isThere path), _ => (Except.ok (path.parts = ["keys"]), ())
  | .file (.read _), _ => (Except.ok (Query.keyFileText (threeKeys.map Bytes.toHex)).toUTF8, ())
  | .node c, _ => (includingNode c, ())
  | c, _ => (Host.offline c, ())

lemma readKeys_includingHost :
    ((readKeys "keys").run.run includingHost ()).1 = .ok threeKeys := by
  have noNul : (Path.ofText "keys").hasNul = false := by
    rw [Path.hasNul_eq]
    decide +kernel
  have there : ((Path.ofText "keys").resolve (Path.ofText "/")).parts = ["keys"] := by
    decide +kernel
  have complete : readPubkeys (Query.keyFileText (threeKeys.map Bytes.toHex)) = .ok threeKeys :=
    Query.readPubkeys_keyFileText (by decide)
  have reads : ReadsKeys "keys" _ threeKeys :=
    ⟨Path.ofText "/", _, _, rfl, Query.textFile_keyFileText, mapM_eq_ok_iff.1 complete, by decide⟩
  refine ((runs_readKeys_ok_iff.2 ⟨noNul, reads⟩).eq_run ⟨rfl, ?_, rfl, trivial⟩).symm
  exact congrArg Except.ok (decide_eq_true there).symm

lemma prepare_includingHost : ∃ account, ((prepare inPairs).run.run includingHost ()).1 =
    .ok { network := pairsNetwork, account, chainId := 1, keys := threeKeys,
          batches := [threeKeys.take 2, threeKeys.drop 2] } := by
  have setsUp : ((setUp "mainnet").run.run includingHost ()).1 = .ok pairsNetwork := by
    decide +kernel
  -- the address of the account is a digest, which is not worked out here
  obtain ⟨account, signs⟩ :
      ∃ account, ((signer pairsNetwork).run.run includingHost ()).1 = .ok account :=
    exists_eq_ok_of_isOk (by decide +kernel)
  have split : splitBatches threeKeys 2 = some [threeKeys.take 2, threeKeys.drop 2] := by
    decide +kernel
  refine ⟨account, ?_⟩
  rw [prepare]
  refine (congrArg Prod.fst (run_run_bind_of_ok setsUp)).trans ?_
  refine (congrArg Prod.fst (run_run_bind_of_ok signs)).trans ?_
  refine (congrArg Prod.fst (run_run_bind_of_ok readKeys_includingHost)).trans ?_
  simp only [show inPairs.batchSize = 2 from rfl, split]
  rfl

variable {α : Type} {act : Act Failure α}

lemma balance_includingHost {address : String} {answer : Except Fault Int}
    (mem : ⟨.node (.balance address), answer⟩ ∈ act.run.trace includingHost ()) :
    answer = .ok 15 := by
  refine forall_mem_trace (P := fun e : Program.Event Host => ∀ address answer,
    e = ⟨.node (.balance address), answer⟩ → answer = .ok 15) ?_ _ _ _ mem address answer rfl
  rintro c u address answer same
  cases same
  rfl

lemma obliges_includingHost : ∀ q ∈ nodeEvents (act.run.trace includingHost ()), Obliges 10 q := by
  intro q mem
  obtain ⟨e, he, hq⟩ := List.mem_filterMap.1 mem
  refine forall_mem_trace (P := fun e => ∀ q ∈ nodeEvent? e, Obliges 10 q) ?_ _ _ e he q hq
  rintro c u q answered
  cases c with
  | node c =>
    obtain rfl := Option.some.inj answered
    cases c with
    | transactionCount => exact ⟨7, rfl, by decide⟩
    | priorityFee => exact ⟨1, rfl, by decide, by decide⟩
    | gasPrice => exact ⟨10, rfl, by decide⟩
    | build | sign | send => exact ⟨_, rfl⟩
    | wait =>
      have writable : Numeral.isWritable 5 = true := by decide +kernel
      exact ⟨_, _, rfl, rfl, rfl, writable⟩
    | _ => trivial
  | _ => cases answered

/-- The keys are staked with all that the account has. -/
theorem stakes_in_order_of_threeKeys :
    ((Stake.run inPairs).run.run includingHost ()).1 = .ok () ∧
      Staking inPairs ((Stake.run inPairs).run.trace includingHost ()) (.ok ()) := by
  obtain ⟨account, prepared⟩ := prepare_includingHost
  have begins : Begins (prepare inPairs).run ((Stake.run inPairs).run.trace includingHost ()) _ :=
    run_eq inPairs ▸ begins_run_bind prepared
  have opens : ∃ registry, checkedAddress pairsNetwork.registryAddress = .ok registry :=
    exists_eq_ok_of_isOk (by decide +kernel)
  have returns : ((Stake.run inPairs).run.run includingHost ()).1 = .ok () :=
    ok_of_obliges begins (runs_trace _ _ _) opens (by decide)
      (fun _ _ mem => ⟨15, balance_includingHost mem, Int.le_of_eq rfl⟩) obliges_includingHost
  exact ⟨returns, returns ▸ stakes_in_order includingHost () inPairs⟩

end StakeRegistry.Command.Stake
