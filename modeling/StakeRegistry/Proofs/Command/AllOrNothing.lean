/-
Nothing is sent if anything is wrong.

What can be wrong with the input of a command that sends transactions is a `Flaw`: in the lines of
the keys file, the size of the batches, the selected keys, the accounts of planned batches, the
credentials, the balance or the gas limit. Each is checked by another part of the preparation, at
another time; yet

* a preparation that ends with a job has found none of the flaws but perhaps the last one
  (`Checked`, with a lemma for each command);
* a gas limit that is not positive keeps the job from sending anything (`Job.unsent_of_gasLimit`).

The main statement is `all_or_nothing`, for every command and whatever the host answers.
-/
import StakeRegistry.Proofs.Command.Preparation
import StakeRegistry.Proofs.Registry.Planning

namespace StakeRegistry.Command.SendCommand

open Node Program Registry Tx

/-! ### Flaws of the input -/

/-- The name of the network. -/
def network : SendCommand → String
  | stake o => o.network
  | unstake o => o.network
  | migrate o => o.network

/-- The number of keys in a batch. -/
def batchSize : SendCommand → Int
  | stake o => o.batchSize
  | unstake o => o.batchSize
  | migrate o => o.batchSize

/-- The gas limit of every transaction. -/
def gasLimit : SendCommand → Int
  | stake o => o.gasLimit
  | unstake o => o.gasLimit
  | migrate o => o.gasLimit

/-- Is nothing to be sent? -/
def dryRun : SendCommand → Bool
  | stake _ => false
  | unstake o => o.dryRun
  | migrate o => o.dryRun

/-- The key is selected from the snapshots. -/
def Selects : SendCommand → List (Program.Event Host) → String → Prop
  | stake _, _, _ => False
  | unstake o, es, key => ∃ s, Begins (Unstake.selection o).run es (.ok s) ∧ key ∈ s.keys
  | migrate o, es, key =>
    ∃ s, Begins (Migrate.selection o).run es (.ok s) ∧ ∃ e ∈ s.events, e.pubkey = key

/-- The batches are planned for the selected stakes. -/
def Plans : SendCommand → List (Program.Event Host) → List PlannedBatch → Prop
  | stake _, _, _ => False
  | unstake _, _, _ => False
  | migrate o, es, plan => ∃ s, Begins (Migrate.selection o).run es (.ok s) ∧
      planBatches s.events o.batchSize = .ok plan

/-- The keys are sent in these batches. -/
def Batches : SendCommand → List (Program.Event Host) → List (List Bytes) → Prop
  | stake o, es, batches => ∃ p, Begins (Stake.prepare o).run es (.ok p) ∧ p.batches = batches
  | unstake o, es, batches => ∃ s keys, Begins (Unstake.selection o).run es (.ok s) ∧
      s.keys.mapM keyBytes = .ok keys ∧ splitBatches keys o.batchSize = some batches
  | migrate o, es, batches =>
    ∃ plan, Plans (migrate o) es plan ∧ plan.map PlannedBatch.pubkeys = batches

/-- Nothing is selected. The keys of a file are not selected: there has to be one. -/
def NothingToSend : SendCommand → List (Program.Event Host) → Prop
  | stake _, _ => False
  | unstake o, es => ∃ s, Begins (Unstake.selection o).run es (.ok s) ∧ s.keys = []
  | migrate o, es => Plans (migrate o) es []

/-- The balance that the account needs. -/
def Needs : SendCommand → List (Program.Event Host) → Int → Prop
  | stake o, es, amount => ∃ p, Begins (Stake.prepare o).run es (.ok p) ∧
      amount = o.stakePerValidator * p.keys.length
  | unstake _, _, amount => amount = Unstake.minBalance
  | migrate _, _, amount => amount = Migrate.minBalance

/-- What is wrong with the input of a command, as the events of its run tell it. -/
inductive Flaw (c : SendCommand) (es : List (Program.Event Host)) : Prop where
  /-- In what is read of the keys file, a line is no key, wherever it stands. -/
  | malformedLine {o : Stake.Options} (command : c = stake o)
      (malformed : ∀ (working : Path) (bytes : ByteArray) (text : String),
        ⟨.file .workingDirectory, working⟩ ∈ es →
        ⟨.file (.read ((Path.ofText o.keysFile).resolve working)), Except.ok bytes⟩ ∈ es →
        textFile bytes = .ok text → ∃ line ∈ Stake.keyLines text, ∀ key, readPubkey line ≠ .ok key)
  | batchSize (not_pos : c.batchSize ≤ 0)
  | notHex {key : String} (selected : c.Selects es key)
    (rejected : ∀ bytes, keyBytes key ≠ .ok bytes)
  /-- The account of a planned batch has no address. -/
  | originator {plan : List PlannedBatch} {batch : PlannedBatch} (planned : c.Plans es plan)
      (mem : batch ∈ plan) (invalid : ∀ address, checkedAddress batch.originator ≠ .ok address)
  /-- The credentials of the network give no account. -/
  | credentials (unsigned : ∀ n account own, Begins (setUp c.network).run es (.ok n) → own <:+: es →
      ¬ Runs (signer n).run own (.ok account))
  | balance {amount : Int} (needs : c.Needs es amount)
      (short : ∀ (address : String) (balance : Int),
        ⟨.node (.balance address), Except.ok balance⟩ ∈ es → balance < amount)
  | gasLimit (not_pos : c.gasLimit ≤ 0)

/-- What a preparation has found before it ends with a job. -/
structure Checked (c : SendCommand) (es : List (Program.Event Host)) : Prop where
  reads : ∀ o, c = stake o → ∃ own keys, own <:+: es ∧ Stake.ReadsKeys o.keysFile own keys
  batchSize_pos : 0 < c.batchSize
  hex : ∀ key, c.Selects es key → ∃ bytes, keyBytes key = .ok bytes
  addressed : ∀ plan, c.Plans es plan → ∀ batch ∈ plan,
    ∃ address, checkedAddress batch.originator = .ok address
  signed : ∃ n account own, Begins (setUp c.network).run es (.ok n) ∧ own <:+: es ∧
    Runs (signer n).run own (.ok account)
  funded : ∃ (address : String) (balance : Int),
    ⟨.node (.balance address), Except.ok balance⟩ ∈ es ∧ ∀ amount, c.Needs es amount →
    amount ≤ balance

variable {c : SendCommand} {es own : List (Program.Event Host)} {job : Job}

/-- Of all flaws only the gas limit is not found by a preparation. -/
lemma Checked.gasLimit_of_flaw (h : Checked c es) (flaw : Flaw c es) : c.gasLimit ≤ 0 := by
  cases flaw with
  | malformedLine command malformed =>
    obtain ⟨own, keys, within, working, bytes, text, rfl, decoded, each, -⟩ := h.reads _ command
    obtain ⟨line, hline, bad⟩ := malformed working bytes text (within.subset (by simp))
      (within.subset (by simp)) decoded
    obtain ⟨key, -, hkey⟩ := exists_of_mapM_eq_ok (mapM_eq_ok_iff.2 each) hline
    exact absurd hkey (bad key)
  | batchSize not_pos =>
    have pos := h.batchSize_pos
    omega
  | notHex selected rejected =>
    obtain ⟨bytes, hbytes⟩ := h.hex _ selected
    exact absurd hbytes (rejected bytes)
  | originator planned mem invalid =>
    obtain ⟨address, haddress⟩ := h.addressed _ planned _ mem
    exact absurd haddress (invalid address)
  | credentials unsigned =>
    obtain ⟨n, account, own, begins, within, run⟩ := h.signed
    exact absurd run (unsigned n account own begins within)
  | balance needs short =>
    obtain ⟨address, balance, asked, enough⟩ := h.funded
    have lt := short address balance asked
    have le := enough _ needs
    omega
  | gasLimit not_pos => exact not_pos

/-! ### Preparations that end with a job -/

/-- A job at the end of a preparation: everything was checked but the gas limit, and there is
something to send. -/
structure Ready (c : SendCommand) (es : List (Program.Event Host)) (job : Job) : Prop where
  checked : Checked c es
  silent : job.Silent
  batched : ∃ batches, c.Batches es batches ∧ job.keys = batches.map some
  intents_ne_nil : job.sends.intents ≠ []
  gasLimit_eq : ∀ intent ∈ job.sends.intents, intent.gasLimit = c.gasLimit

lemma map_mapIdx_eq {α β γ : Type} {f : Nat → α → β} {g : β → γ} {h : α → γ} {as : List α}
    (eq : ∀ i a, g (f i a) = h a) : (as.mapIdx f).map g = as.map h := by
  refine List.ext_getElem? fun i => ?_
  rw [List.getElem?_map, List.getElem?_mapIdx, List.getElem?_map, Option.map_map]
  refine congrArg (Option.map · as[i]?) (funext fun a => ?_)
  exact eq i a

/-- A balance that was found to be enough was told. -/
lemma exists_balance_of_runs {account : Account} {needed : Int}
    (run : Runs (ensureBalance account needed).run own (.ok ())) :
    ∃ (address : String) (balance : Int), ⟨.node (.balance address), Except.ok balance⟩ ∈ own ∧
      needed ≤ balance := by
  cases checksBalance_of_runs run with
  | enough checked enough => exact ⟨_, _, List.mem_singleton_self _, enough⟩

lemma signed_of_runs_prepare {o : Stake.Options} {p : Stake.Plan}
    (run : Runs (Stake.prepare o).run own (.ok p)) :
    ∃ n account signing, Begins (setUp o.network).run own (.ok n) ∧ signing <:+: own ∧
      Runs (signer n).run signing (.ok account) := by
  unfold Stake.prepare at run
  obtain ⟨es₁, rest₁, n, rfl, setting, run₁⟩ := runs_run_bind_ok_iff.1 run
  obtain ⟨es₂, rest₂, account, rfl, signing, -⟩ := runs_run_bind_ok_iff.1 run₁
  exact ⟨n, account, es₂, ⟨es₁, List.prefix_append _ _, setting⟩, ⟨es₁, rest₂, by simp⟩, signing⟩

lemma ready_of_runs_stake {o : Stake.Options} (run : Runs (Stake.prepareJob o).run own (.ok job))
    (begins : own <+: es) : Ready (stake o) es job := by
  unfold Stake.prepareJob at run
  obtain ⟨es₁, rest₁, p, rfl, prepared, run₁⟩ := runs_run_bind_ok_iff.1 run
  obtain ⟨es₂, rest₂, ⟨⟩, rfl, passed, run₂⟩ := runs_run_bind_ok_iff.1 run₁
  obtain ⟨es₃, rest₃, registry, rfl, opens, run₃⟩ := runs_run_bind_ok_iff.1 run₂
  obtain ⟨es₄, rest₄, ⟨⟩, rfl, told, run₄⟩ := runs_run_bind_ok_iff.1 run₃
  obtain ⟨rfl, ended⟩ := runs_run_pure_iff.1 run₄
  cases ended
  have planned := Stake.planned_of_runs prepared
  have first : es₁ <+: es := (List.prefix_append _ _).trans begins
  obtain ⟨n, account, signing, setting, within, signs⟩ := signed_of_runs_prepare prepared
  obtain ⟨address, balance, asked, enough⟩ := exists_balance_of_runs passed
  -- nothing is selected or planned: the keys are those of the file
  refine ⟨⟨?_, ?_, nofun, nofun, ?_, ?_⟩, ?_, ?_, ?_, ?_⟩
  · intro o' command
    cases command
    obtain ⟨reading, inside, reads⟩ := planned.reads
    exact ⟨reading, p.keys, inside.trans first.isInfix, reads⟩
  · obtain ⟨batch, hbatch⟩ := List.exists_mem_of_length_pos planned.batches_pos
    have length := planned.divides.length batch hbatch
    change 0 < o.batchSize
    omega
  · exact ⟨n, account, signing, setting.mono first, within.trans first.isInfix, signs⟩
  · refine ⟨address, balance, begins.subset (by simp [asked]), ?_⟩
    rintro amount ⟨p', prepares, rfl⟩
    obtain rfl : p = p' := Begins.ok_eq ⟨es₁, first, prepared⟩ prepares
    exact enough
  · exact fun h => (Stake.of_asks_sayCompleted h).1
  · exact ⟨p.batches, ⟨p, ⟨es₁, first, prepared⟩, rfl⟩, map_mapIdx_eq fun _ _ => rfl⟩
  · have pos := planned.batches_pos
    rw [Session.Sends.intents, Ne, List.mapIdx_eq_nil_iff]
    exact List.ne_nil_of_length_pos pos
  · intro intent hintent
    obtain ⟨i, hi, rfl⟩ := List.mem_mapIdx.1 hintent
    rfl

/-- The selection of keys begins with the network. -/
lemma begins_setUp_of_unstake {o : Unstake.Options} {s : Unstake.Selection}
    (run : Runs (Unstake.selection o).run own (.ok s)) :
    Begins (setUp o.network).run own (.ok s.network) := by
  unfold Unstake.selection at run
  obtain ⟨es₁, rest₁, n, rfl, setting, run₁⟩ := runs_run_bind_ok_iff.1 run
  obtain ⟨-, rest₂, staked, -, -, run₂⟩ := runs_run_bind_ok_iff.1 run₁
  obtain ⟨-, rest₃, unstaked, -, -, run₃⟩ := runs_run_bind_ok_iff.1 run₂
  obtain ⟨-, rest₄, withdrawn, -, -, run₄⟩ := runs_run_bind_ok_iff.1 run₃
  obtain ⟨-, rest₅, ⟨⟩, -, -, run₅⟩ := runs_run_bind_ok_iff.1 run₄
  obtain ⟨-, rest₆, registry, -, -, run₆⟩ := runs_run_bind_ok_iff.1 run₅
  obtain ⟨-, rest₇, onChain, -, -, run₇⟩ := runs_run_bind_ok_iff.1 run₆
  obtain ⟨-, ended⟩ := runs_run_pure_iff.1 run₇
  cases ended
  exact ⟨es₁, List.prefix_append _ _, setting⟩

lemma ready_of_runs_unstake {o : Unstake.Options} {s : Unstake.Selection}
    {selecting : List (Program.Event Host)}
    (selects : Runs (Unstake.selection o).run selecting (.ok s))
    (first : selecting <+: es) (some_keys : s.keys ≠ [])
    (run : Runs (Unstake.prepareJob o s).run own (.ok job)) (within : own <:+: es) :
    Ready (unstake o) es job := by
  unfold Unstake.prepareJob at run
  obtain ⟨es₁, rest₁, account, rfl, signs, run₁⟩ := runs_run_bind_ok_iff.1 run
  obtain ⟨es₂, rest₂, chainId, rfl, -, run₂⟩ := runs_run_bind_ok_iff.1 run₁
  obtain ⟨es₃, rest₃, ⟨⟩, rfl, passed, run₃⟩ := runs_run_bind_ok_iff.1 run₂
  obtain ⟨keys, hkeys, run₄⟩ := Act.runs_orElse_bind_ok_iff.1 run₃
  obtain ⟨address, balance, asked, enough⟩ := exists_balance_of_runs passed
  have selected : Begins (Unstake.selection o).run es (.ok s) := ⟨selecting, first, selects⟩
  cases split : splitBatches keys o.batchSize with
  | none =>
    rw [split] at run₄
    obtain ⟨-, ended⟩ := runs_run_throw_iff.1 run₄
    cases ended
  | some batches =>
    rw [split] at run₄
    obtain ⟨rfl, ended⟩ := runs_run_pure_iff.1 run₄
    cases ended
    refine ⟨⟨nofun, size_pos_of_splitBatches split, ?_, nofun, ?_, ?_⟩, ?_, ?_, ?_, ?_⟩
    · rintro key ⟨s', begins, hkey⟩
      rw [begins.ok_eq selected] at hkey
      obtain ⟨bytes, -, hbytes⟩ := exists_of_mapM_eq_ok hkeys hkey
      exact ⟨bytes, hbytes⟩
    · refine ⟨s.network, account, es₁, (begins_setUp_of_unstake selects).mono first, ?_, signs⟩
      exact (List.prefix_append _ _).isInfix.trans within
    · refine ⟨address, balance, within.subset (by simp [asked]), ?_⟩
      rintro amount rfl
      exact enough
    · exact eq_nil_of_asks_sayBatch
    · refine ⟨batches, ⟨s, keys, selected, hkeys, split⟩, ?_⟩
      exact map_mapIdx_eq fun _ _ => rfl
    · have length : s.keys.length = keys.length := (mapM_eq_ok_iff.1 hkeys).length_eq
      have pos : 0 < s.keys.length := List.length_pos_iff.2 some_keys
      rw [length] at pos
      rw [Session.Sends.intents, Ne, List.mapIdx_eq_nil_iff]
      exact (divides_of_splitBatches split).ne_nil (List.length_pos_iff.1 pos)
    · intro intent hintent
      obtain ⟨i, hi, rfl⟩ := List.mem_mapIdx.1 hintent
      rfl

/-- The selection of stakes begins with the network. -/
lemma begins_setUp_of_migrate {o : Migrate.Options} {s : Migrate.Selection}
    (run : Runs (Migrate.selection o).run own (.ok s)) :
    Begins (setUp o.network).run own (.ok s.network) := by
  unfold Migrate.selection at run
  obtain ⟨es₁, rest₁, n, rfl, setting, run₁⟩ := runs_run_bind_ok_iff.1 run
  obtain ⟨-, rest₂, staked, -, -, run₂⟩ := runs_run_bind_ok_iff.1 run₁
  obtain ⟨-, rest₃, unstaked, -, -, run₃⟩ := runs_run_bind_ok_iff.1 run₂
  obtain ⟨-, rest₄, withdrawn, -, -, run₄⟩ := runs_run_bind_ok_iff.1 run₃
  obtain ⟨-, rest₅, ⟨⟩, -, -, run₅⟩ := runs_run_bind_ok_iff.1 run₄
  obtain ⟨-, rest₆, events, -, -, run₆⟩ := runs_run_bind_ok_iff.1 run₅
  obtain ⟨-, ended⟩ := runs_run_pure_iff.1 run₆
  cases ended
  exact ⟨es₁, List.prefix_append _ _, setting⟩

/-- A batch has a payload only if its account has an address. -/
lemma address_of_withPayload {registry : String} {account : Account} {chainId : Int}
    {batch : PlannedBatch} {entry : PlannedBatch × Payload}
    (h : Migrate.withPayload registry account chainId batch = .ok entry) :
    ∃ address, checkedAddress batch.originator = .ok address := by
  obtain ⟨address, checked, -⟩ := bind_eq_ok_iff.1 h
  exact ⟨address, checked⟩

/-- The payloads of a plan hold the keys of its batches. -/
lemma keys_of_withPayload {registry : String} {account : Account} {chainId : Int}
    {plan : List PlannedBatch} {entries : List (PlannedBatch × Payload)}
    (h : plan.mapM (Migrate.withPayload registry account chainId) = .ok entries) :
    entries.map (fun entry => Job.keysOf entry.2.call) =
      (plan.map PlannedBatch.pubkeys).map some := by
  have each := mapM_eq_ok_iff.1 h
  clear h
  induction each with
  | nil => rfl
  | @cons batch entry plan entries made rest ih =>
    obtain ⟨address, -, ended⟩ := bind_eq_ok_iff.1 made
    cases ended
    rw [List.map_cons, List.map_cons, List.map_cons, ih]
    rfl

lemma ready_of_runs_migrate {o : Migrate.Options} {s : Migrate.Selection} {plan : List PlannedBatch}
    {selecting : List (Program.Event Host)}
    (selects : Runs (Migrate.selection o).run selecting (.ok s))
    (first : selecting <+: es) (plans : planBatches s.events o.batchSize = .ok plan)
    (some_batches : plan ≠ []) (run : Runs (Migrate.prepareJob o s.network plan).run own (.ok job))
    (within : own <:+: es) : Ready (migrate o) es job := by
  unfold Migrate.prepareJob at run
  obtain ⟨es₁, rest₁, account, rfl, signs, run₁⟩ := runs_run_bind_ok_iff.1 run
  obtain ⟨es₂, rest₂, ⟨⟩, rfl, -, run₂⟩ := runs_run_bind_ok_iff.1 run₁
  obtain ⟨es₃, rest₃, chainId, rfl, -, run₃⟩ := runs_run_bind_ok_iff.1 run₂
  obtain ⟨es₄, rest₄, ⟨⟩, rfl, passed, run₄⟩ := runs_run_bind_ok_iff.1 run₃
  obtain ⟨es₅, rest₅, registry, rfl, -, run₅⟩ := runs_run_bind_ok_iff.1 run₄
  obtain ⟨entries, hentries, run₆⟩ := Act.runs_orElse_bind_ok_iff.1 run₅
  obtain ⟨rfl, ended⟩ := runs_run_pure_iff.1 run₆
  cases ended
  obtain ⟨address, balance, asked, enough⟩ := exists_balance_of_runs passed
  have selected : Begins (Migrate.selection o).run es (.ok s) := ⟨selecting, first, selects⟩
  refine ⟨⟨nofun, size_pos_of_planBatches_eq_ok plans some_batches, ?_, ?_, ?_, ?_⟩, ?_, ?_, ?_, ?_⟩
  · rintro key ⟨s', begins, e, he, rfl⟩
    rw [begins.ok_eq selected] at he
    exact hex_of_planBatches_eq_ok plans e he
  · rintro plan' ⟨s', begins, plans'⟩ batch hbatch
    rw [begins.ok_eq selected, plans] at plans'
    cases plans'
    obtain ⟨entry, -, hentry⟩ := exists_of_mapM_eq_ok hentries hbatch
    exact address_of_withPayload hentry
  · refine ⟨s.network, account, es₁, (begins_setUp_of_migrate selects).mono first, ?_, signs⟩
    exact (List.prefix_append _ _).isInfix.trans within
  · refine ⟨address, balance, within.subset (by simp [asked]), ?_⟩
    rintro amount rfl
    exact enough
  · exact fun h => (Stake.of_asks_sayCompleted h).1
  · refine ⟨plan.map PlannedBatch.pubkeys, ⟨plan, ⟨s, selected, plans⟩, rfl⟩, ?_⟩
    rw [← keys_of_withPayload hentries]
    refine map_mapIdx_eq fun i entry => ?_
    obtain ⟨batch, payload⟩ := entry
    rfl
  · have length : plan.length = entries.length := (mapM_eq_ok_iff.1 hentries).length_eq
    have pos : 0 < plan.length := List.length_pos_iff.2 some_batches
    rw [length] at pos
    rw [Session.Sends.intents, Ne, List.mapIdx_eq_nil_iff]
    exact List.length_pos_iff.1 pos
  · intro intent hintent
    obtain ⟨i, hi, rfl⟩ := List.mem_mapIdx.1 hintent
    rfl

/-! ### Whole preparations -/

/-- A preparation that ends without a job has nothing to send or is a dry run, and one that ends
with a job has checked everything but the gas limit. -/
lemma cases_of_runs_prepare {job? : Option Job} (run : Runs c.prepare.run own (.ok job?))
    (begins : own <+: es) :
    (job? = none ∧ (c.dryRun = true ∨ c.NothingToSend es)) ∨ ∃ job, job? = some job ∧
    Ready c es job := by
  cases c with
  | stake o =>
    obtain ⟨job, prepares, rfl⟩ := runs_run_map_ok_iff.1 run
    exact .inr ⟨job, rfl, ready_of_runs_stake prepares begins⟩
  | unstake o =>
    obtain ⟨es₁, rest₁, s, rfl, selects, run₁⟩ := runs_run_bind_ok_iff.1 run
    obtain ⟨es₂, rest₂, ⟨⟩, rfl, -, run₂⟩ := runs_run_bind_ok_iff.1 run₁
    have first : es₁ <+: es := (List.prefix_append _ _).trans begins
    by_cases ends : (o.dryRun || s.keys.isEmpty) = true
    · rw [if_pos ends] at run₂
      obtain ⟨-, rest₃, ⟨⟩, -, -, run₃⟩ := runs_run_bind_ok_iff.1 run₂
      obtain ⟨-, ended⟩ := runs_run_pure_iff.1 run₃
      cases ended
      refine .inl ⟨rfl, ?_⟩
      rcases Bool.or_eq_true_iff.1 ends with dry | none
      · exact .inl dry
      · exact .inr ⟨s, ⟨es₁, first, selects⟩, List.isEmpty_iff.1 none⟩
    · rw [if_neg ends] at run₂
      have some_keys : s.keys ≠ [] := by
        intro none
        rw [none] at ends
        simp at ends
      obtain ⟨job, prepares, rfl⟩ := runs_run_map_ok_iff.1 run₂
      have within : rest₂ <:+: es :=
        List.IsInfix.trans ⟨es₁ ++ es₂, [], by simp⟩ begins.isInfix
      exact .inr ⟨job, rfl, ready_of_runs_unstake selects first some_keys prepares within⟩
  | migrate o =>
    obtain ⟨es₁, rest₁, s, rfl, selects, run₁⟩ := runs_run_bind_ok_iff.1 run
    obtain ⟨plan, plans, run₂⟩ := Act.runs_orElse_bind_ok_iff.1 run₁
    obtain ⟨es₂, rest₂, ⟨⟩, rfl, -, run₃⟩ := runs_run_bind_ok_iff.1 run₂
    have first : es₁ <+: es := (List.prefix_append _ _).trans begins
    by_cases sends : (!o.dryRun && !plan.isEmpty) = true
    · rw [if_pos sends] at run₃
      have some_batches : plan ≠ [] := by
        rintro rfl
        simp at sends
      obtain ⟨job, prepares, rfl⟩ := runs_run_map_ok_iff.1 run₃
      have within : rest₂ <:+: es :=
        List.IsInfix.trans ⟨es₁ ++ es₂, [], by simp⟩ begins.isInfix
      exact .inr ⟨job, rfl, ready_of_runs_migrate selects first plans some_batches prepares within⟩
    · rw [if_neg sends] at run₃
      obtain ⟨-, ended⟩ := runs_run_pure_iff.1 run₃
      cases ended
      refine .inl ⟨rfl, ?_⟩
      cases dry : o.dryRun with
      | true => exact .inl dry
      | false =>
        have none : plan = [] := by simpa [dry] using sends
        rw [none] at plans
        exact .inr ⟨s, ⟨es₁, first, selects⟩, plans⟩

/-! ### All or nothing -/

/-- What holds of a run of a command that sends transactions. -/
structure AllOrNothing (c : SendCommand) (es : List (Program.Event Host))
    (r : Except Failure Unit) :
    Prop where
  /-- If anything is wrong, no transaction is built, signed or sent, awaited or looked up. -/
  unsent : Flaw c es → ∀ e ∈ es, isTransaction e.1 = false
  /-- If anything is wrong, the command fails, unless nothing was to be sent. -/
  fails : Flaw c es → c.dryRun = true ∨ c.NothingToSend es ∨ ∃ e, r = .error e
  /-- Before any event of a transaction, the whole job was prepared, with a payload for each batch:
  all that follows is that the job is sent, and every transaction that is built is for a payload of
  it. -/
  prepared : ∀ before e after, es = before ++ e :: after → isTransaction e.1 = true →
    ∃ own told job batches, before = own ++ told ∧ Runs c.prepare.run own (.ok (some job)) ∧
      c.Batches es batches ∧ job.keys = batches.map some ∧
      Runs job.send.run (told ++ e :: after) r ∧
      ∀ call ∈ builtCalls es, ∃ intent ∈ job.sends.intents, intent.payload.call = call

/-- An event of a transaction is none of the events of a preparation. -/
lemma notMem_of_quiet {e : Program.Event Host} (quiet : ∀ e ∈ own, isTransaction e.1 = false)
    (sent : isTransaction e.1 = true) : e ∉ own := by
  intro mem
  have unsent := quiet e mem
  rw [sent] at unsent
  cases unsent

lemma allOrNothing_of_runs {r : Except Failure Unit} (run : Runs c.run.run es r) :
    AllOrNothing c es r := by
  rw [run_eq] at run
  rcases runs_run_bind_iff.1 run with ⟨e, rfl, failed⟩ | ⟨own, rest, job?, rfl, prepares, sends⟩
  · -- the preparation failed
    have quiet := allowed_of_runs (quiet_prepare c) failed
    refine ⟨fun _ => quiet, fun _ => .inr (.inr ⟨e, rfl⟩), ?_⟩
    rintro before x after rfl sent
    exact absurd List.mem_append_cons_self (notMem_of_quiet quiet sent)
  have quiet := allowed_of_runs (quiet_prepare c) prepares
  rcases cases_of_runs_prepare prepares (List.prefix_append own rest) with
    ⟨rfl, nothing⟩ | ⟨job, rfl, ready⟩
  · -- there is no job
    obtain ⟨rfl, rfl⟩ := runs_run_pure_iff.1 sends
    rw [List.append_nil] at nothing ⊢
    refine ⟨fun _ => quiet, fun _ => or_assoc.1 (.inl nothing), ?_⟩
    rintro before x after rfl sent
    exact absurd List.mem_append_cons_self (notMem_of_quiet quiet sent)
  · -- there is a job: the gas limit is the only flaw left, and every event of a transaction is one
    -- of sending the job
    have unsent : Flaw c (own ++ rest) →
        (∀ e ∈ rest, isTransaction e.1 = false) ∧ ∃ e, r = .error e := by
      intro flaw
      have limit := ready.checked.gasLimit_of_flaw flaw
      refine Job.unsent_of_gasLimit sends ready.intents_ne_nil fun intent hintent => ?_
      rw [ready.gasLimit_eq intent hintent]
      exact limit
    refine ⟨fun flaw => List.forall_mem_append.2 ⟨quiet, (unsent flaw).1⟩,
      fun flaw => .inr (.inr (unsent flaw).2), ?_⟩
    intro before x after hes sent
    obtain ⟨told, rfl, rfl⟩ := split_of_notMem hes.symm (notMem_of_quiet quiet sent)
    obtain ⟨batches, batched, keys⟩ := ready.batched
    refine ⟨own, told, job, batches, rfl, prepares, batched, keys, sends, fun call built => ?_⟩
    rw [builtCalls_append, builtCalls_eq_nil quiet, List.nil_append] at built
    exact Job.exists_intent_of_built ready.silent sends built

/-- Whatever the host answers, a command sends nothing if any part of its input is wrong, and has
prepared all transactions before it sends the first of them. -/
theorem all_or_nothing {σ : Type} (host : (c : Host.Call) → σ → Host.Answer c × σ) (s : σ)
    (c : SendCommand) : AllOrNothing c (c.run.run.trace host s) (c.run.run.run host s).1 :=
  allOrNothing_of_runs (runs_trace host c.run.run s)

end StakeRegistry.Command.SendCommand
