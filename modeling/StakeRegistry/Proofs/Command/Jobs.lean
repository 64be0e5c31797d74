/-
What a command has prepared before it sends anything.

A `Job` is a value: an account, all transactions with their payloads, and the line that is told when
all of them are sent. Sending it (`Job.send`) builds transactions only for the calls of its payloads
(`Job.exists_intent_of_built`), and none at all without a positive gas limit
(`Job.unsent_of_gasLimit`).
-/
import StakeRegistry.Proofs.Command.Setup
import StakeRegistry.Proofs.Node.Turns
import StakeRegistry.Proofs.Registry.Sessions
import StakeRegistry.Proofs.Tx.Unsent

namespace StakeRegistry.Command

open Node Program Registry Session Tx

/-- What a command sends, with what it tells at last. -/
structure Job where
  account : Account
  sends : Sends Payload
  closing : String

namespace Job

/-- Send all transactions. -/
def send (job : Job) : Act Failure Unit := do
  sendAll job.account job.sends.run
  Act.say job.closing

/-- The keys in a call of a contract. -/
def keysOf (call : ContractCall) : Option (List Bytes) :=
  call.arguments.head?.bind fun
    | .keys ks => some ks
    | .address _ => none

/-- The keys that each transaction is for. -/
def keys (job : Job) : List (Option (List Bytes)) :=
  job.sends.intents.map fun intent => keysOf intent.payload.call

/-- The reports of transactions ask nothing. -/
def Silent (job : Job) : Prop :=
  ∀ {place receipt xs x}, Asks (job.sends.report place receipt) xs x → xs = []

variable {job : Job} {es : List (Program.Event Host)} {r : Except Failure Unit}

/-- The transactions that are sent for an account are a run of turns. -/
lemma exists_batch_of_runs {account : Account} {b : Sends Payload}
    (run : Runs (sendAll account b.run).run es r) :
    ∃ ts x a', Shows (ts.flatMap Turn.exchanges) es ∧
      Batch b.submitter b.report 1 b.intents { address := account.address } ts x a' ∧
      ((∃ e, x = .error e) → ∃ e, r = .error e) := by
  obtain ⟨x, batches, returns, fails⟩ := runBatch_of_runs run
  obtain ⟨inner, a', hinner, shows⟩ := exists_shows_of_runs batches
  obtain ⟨ts, hts, batch⟩ := batch_of_asks (Sends.asks_submitAll (asks_of_runs hinner))
  rw [hts] at shows
  refine ⟨ts, x, a', shows, batch, ?_⟩
  rintro ⟨e, rfl⟩
  cases r with
  | error e' => exact ⟨e', rfl⟩
  | ok u =>
    obtain ⟨receipts, ended⟩ := returns u rfl
    cases ended

/-- Sending a job is a run of turns, followed at most by a line. -/
lemma exists_batch_of_send (run : Runs job.send.run es r) :
    ∃ own after ts x a', es = own ++ after ∧ (∀ e ∈ after, isTransaction e.1 = false) ∧
      Shows (ts.flatMap Turn.exchanges) own ∧
      Batch job.sends.submitter job.sends.report 1 job.sends.intents
        { address := job.account.address } ts x a' ∧
      ((∃ e, x = .error e) → ∃ e, r = .error e) := by
  rcases runs_run_bind_iff.1 run with ⟨e, rfl, sent⟩ | ⟨own, after, u, rfl, sent, told⟩
  · obtain ⟨ts, x, a', shows, batch, fails⟩ := exists_batch_of_runs sent
    exact ⟨es, [], ts, x, a', (List.append_nil es).symm, by simp, shows, batch, fun _ => ⟨e, rfl⟩⟩
  · obtain ⟨ts, x, a', shows, batch, fails⟩ := exists_batch_of_runs sent
    obtain ⟨⟨⟩, rfl, rfl⟩ := Act.runs_ask_iff.1 told
    refine ⟨own, _, ts, x, a', rfl, by simp [isTransaction], shows, batch, fun failed => ?_⟩
    obtain ⟨e, ended⟩ := fails failed
    cases ended

/-- A job without a positive gas limit fails, and nothing is sent. -/
lemma unsent_of_gasLimit (run : Runs job.send.run es r) (ne_nil : job.sends.intents ≠ [])
    (limit : ∀ intent ∈ job.sends.intents, intent.gasLimit ≤ 0) :
    (∀ e ∈ es, isTransaction e.1 = false) ∧ ∃ e, r = .error e := by
  obtain ⟨own, after, ts, x, a', rfl, quiet, ⟨inner, hinner, carries⟩, batch, fails⟩ :=
    exists_batch_of_send run
  -- already the first transaction is refused
  obtain ⟨intent, intents, hintents⟩ := List.exists_cons_of_ne_nil ne_nil
  have first : intent.gasLimit ≤ 0 := limit intent (hintents ▸ List.mem_cons_self)
  rw [hintents] at batch
  obtain ⟨failed, unsent⟩ := batch.of_gasLimit first
  rw [← hinner] at unsent
  exact ⟨List.forall_mem_append.2 ⟨quiet_of_carries carries unsent, quiet⟩, fails failed⟩

/-- Every transaction that is built is for the call of a payload of the job. -/
lemma exists_intent_of_built {call : ContractCall} (silent : job.Silent)
    (run : Runs job.send.run es r) (built : call ∈ builtCalls es) :
    ∃ intent ∈ job.sends.intents, intent.payload.call = call := by
  obtain ⟨own, after, ts, x, a', rfl, quiet, ⟨inner, hinner, carries⟩, batch, -⟩ :=
    exists_batch_of_send run
  rw [builtCalls_append, builtCalls_eq_nil quiet, List.append_nil] at built
  obtain ⟨payload, params, y, submitted, hcall⟩ := built_of_carries carries built
  rw [hinner] at submitted
  obtain ⟨intent, mem, hpayload⟩ := batch.exists_intent_of_submit silent submitted
  rw [← hpayload] at hcall
  exact ⟨intent, mem, hcall⟩

end Job

/-! ### Reports -/

/-- A batch is reported with a line only. -/
lemma eq_nil_of_asks_sayBatch {ω : Type} {batches : List (List Bytes)} {place : Nat}
    {xs : List (Exchange ω)} {x : Except Fault Unit} (h : Asks (sayBatch batches place) xs x) :
    xs = [] := by
  obtain ⟨xs₁, rest, _, rfl, said, ends⟩ := asks_bind_iff.1 h
  obtain ⟨rfl, rfl⟩ := asks_done_iff.1 ends
  rw [asks_say_iff.1 said]
  rfl

end StakeRegistry.Command
