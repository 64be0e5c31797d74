/-
The turns of a run of transactions on a node.

The exchanges of a run fall into turns (`Tx.Batch`), and so do the events on the host that carry it
(`exists_turns`). What a turn is for can be read off its events alone:

* `BroadcastsAt intent nonce own`: everything that is broadcast is the transaction of the turn,
  built and signed just before;
* `Included own`: a receipt of success was obtained for a hash that was broadcast.
-/
import StakeRegistry.Proofs.Node.Broadcast

namespace StakeRegistry.Node

open Tx

/-- Everything that is broadcast is the transaction of the intent at the nonce. -/
def BroadcastsAt (intent : Intent Payload) (nonce : Int) (own : List (Program.Event Host)) : Prop :=
  ∀ pre signed y post, own = pre ++ ⟨.node (.send signed), y⟩ :: post →
    ∃ params transaction earlier,
      pre = earlier ++ preparation intent.payload params transaction signed ∧
        params.sender = intent.sender ∧ params.value = intent.value ∧ params.gas = intent.gasLimit ∧
        params.nonce = nonce

/-- A receipt of success was obtained, for a hash that was broadcast. -/
def Included (own : List (Program.Event Host)) : Prop :=
  ∃ hash receipt, (hash, receipt) ∈ receiptsIn own ∧ receipt.status = 1 ∧ hash ∈ hashesIn own

/-- The events carry a run over a chain with these exchanges. -/
def Shows (xs : List (Exchange Payload)) (es : List (Program.Event Host)) : Prop :=
  ∃ inner, exchanges inner = xs ∧ Program.Carries (answer defaultPoll) inner es

variable {xs ys : List (Exchange Payload)} {es own : List (Program.Event Host)}

lemma Shows.split (h : Shows (xs ++ ys) es) :
    ∃ own own', es = own ++ own' ∧ Shows xs own ∧ Shows ys own' := by
  obtain ⟨inner, hinner, carries⟩ := h
  obtain ⟨first, rest, rfl, hxs, hys⟩ := List.filterMap_eq_append_iff.1 hinner
  obtain ⟨own, own', rfl, carries, carries'⟩ := carries.split
  exact ⟨own, own', rfl, ⟨first, hxs, carries⟩, ⟨rest, hys, carries'⟩⟩

/-- The events of a run of turns are those of one turn after the other, and some that ask nothing
about transactions. -/
lemma exists_turns {ts : List (Turn Payload)} (h : Shows (ts.flatMap Turn.exchanges) es) :
    ∃ turns after, es = turns.flatten ++ after ∧ (∀ e ∈ after, isTransaction e.1 = false) ∧
      List.Forall₂ (fun t own => Shows t.exchanges own) ts turns := by
  induction ts generalizing es with
  | nil =>
    obtain ⟨inner, none, carries⟩ := h
    exact ⟨[], es, rfl, quiet_of_carries carries (by simp [none]), .nil⟩
  | cons t ts ih =>
    obtain ⟨own, rest, rfl, shows, others⟩ := h.split
    obtain ⟨turns, after, rfl, quiet, each⟩ := ih others
    exact ⟨own :: turns, after, by simp, quiet, .cons shows each⟩

/-- A run of transactions on a node is one over the chain that the node answers for. -/
lemma exists_shows_of_runs {α : Type} {address : String} {p : BatchRun Payload α}
    {r : Except BatchError α} (run : Program.Runs (runBatch address p).run es r) :
    ∃ inner a', (p.run.run { address }).Runs inner (r, a') ∧ Shows (exchanges inner) es := by
  obtain ⟨es₁, es₂, ⟨x, a'⟩, rfl, expanded, ends⟩ := Program.runs_bind_iff.1 run
  obtain ⟨rfl, rfl⟩ := Program.Runs.done_iff.1 ends
  obtain ⟨inner, hinner, carries⟩ := Program.exists_carries_of_runs expanded
  exact ⟨inner, a', hinner, inner, rfl, by simpa using carries⟩

/-- A run of transactions on a node is a run of turns, each with events of its own. -/
lemma turns_of_runs {s : Submitter} {report : Report Payload} {intents : List (Intent Payload)}
    {address : String} {r : Except BatchError (List Receipt)}
    (run : Program.Runs (runBatch address (submitAll s report intents)).run es r) :
    ∃ ts turns after a', es = turns.flatten ++ after ∧ (∀ e ∈ after, isTransaction e.1 = false) ∧
      List.Forall₂ (fun t own => Shows t.exchanges own) ts turns ∧
      Batch s report 1 intents { address } ts r a' := by
  obtain ⟨inner, a', hinner, shows⟩ := exists_shows_of_runs run
  obtain ⟨ts, hts, batch⟩ := batch_of_runs hinner
  rw [hts] at shows
  obtain ⟨turns, after, hes, quiet, each⟩ := exists_turns shows
  exact ⟨ts, turns, after, a', hes, quiet, each, batch⟩

lemma exists_getElem?_of_forall₂ {α β : Type} {R : α → β → Prop} {as : List α}
    {bs : List β} {i : Nat} {b : β} (h : List.Forall₂ R as bs) (hb : bs[i]? = some b) :
    ∃ a, as[i]? = some a ∧ R a b := by
  induction h generalizing i with
  | nil => simp at hb
  | @cons a b' as bs hab rest ih =>
    cases i with
    | zero =>
      obtain rfl : b' = b := by simpa using hb
      exact ⟨a, rfl, hab⟩
    | succ i => exact ih (by simpa using hb)

/-! ### One turn -/

lemma Shows.broadcastsAt {intent : Intent Payload} {nonce : Int} (h : Shows xs own)
    (submits : SubmitsAt intent nonce xs) : BroadcastsAt intent nonce own := by
  intro pre signed y post hown
  obtain ⟨inner, rfl, carries⟩ := h
  obtain ⟨payload, params, transaction, x, earlier, hx, hpre⟩ := sends_of_carries carries hown
  obtain ⟨rfl, sender, value, gas, nonce⟩ := submits _ _ _ hx
  exact ⟨params, transaction, earlier, hpre, sender, value, gas, nonce⟩

/-- The events of a turn tell at most one receipt, for a hash that the turn broadcast, and the turn
ends with it. -/
lemma Shows.receipt_cases {s : Submitter} {intent : Intent Payload} {a a' : Allocator}
    {r : Except BatchError Receipt} (h : Shows xs own) (takes : Takes s intent a xs r a') :
    ((∃ e, r = .error e) ∧ receiptsIn own = []) ∨
      ∃ receipt hash, r = .ok receipt ∧ receiptsIn own = [(hash, receipt)] ∧
        hash ∈ hashesIn own := by
  obtain ⟨inner, rfl, carries⟩ := h
  obtain ⟨receipts, hashes⟩ := told_of_carries carries
  rw [receipts, hashes]
  rcases takes.obtained_cases with failed | ⟨receipt, hash, payload, params, hr, one, sent⟩
  · exact .inl failed
  · have submitted : (params, .ok hash) ∈ submissions (exchanges inner) :=
      mem_submissions.2 ⟨payload, sent⟩
    exact .inr ⟨receipt, hash, hr, one, List.mem_filterMap.2 ⟨_, submitted, rfl⟩⟩

section Turn

variable {s : Submitter} {t : Turn Payload} {a a' : Allocator}

lemma Shows.included (h : Shows t.own own) (takes : Takes s t.intent a t.own t.outcome a')
    (completed : t.Completed) : Included own := by
  obtain ⟨receipt, outcome, status, -⟩ := completed
  rcases h.receipt_cases takes with ⟨⟨e, failed⟩, -⟩ | ⟨receipt', hash, ended, one, sent⟩
  · simp [outcome] at failed
  · obtain rfl : receipt = receipt' := by simpa [outcome] using ended
    exact ⟨hash, receipt, by simp [one], status, sent⟩

/-- A turn with which a run ends, and not because of a report, has no receipt of success whose block
can be told. -/
lemma Shows.not_told {place : Nat} {e : BatchError} (h : Shows t.own own)
    (takes : Takes s t.intent a t.own t.outcome a') (stops : t.Stops place e)
    (reported : ∀ f, t.reported ≠ some (.error f)) :
    ∀ told ∈ receiptsIn own, told.2.status = 1 → Numeral.isWritable told.2.blockNumber = false := by
  intro told htold status
  rcases h.receipt_cases takes with ⟨-, none⟩ | ⟨receipt, hash, ended, one, -⟩
  · simp [none] at htold
  · obtain rfl : told = (hash, receipt) := by simpa [one] using htold
    cases stops with
    | failed outcome notReverted => simp [outcome] at ended
    | @unwritable receipt' outcome unwritable =>
      obtain rfl : receipt' = receipt := by simpa [outcome] using ended
      exact unwritable
    | @reverted receipt' outcome writable failed =>
      obtain rfl : receipt' = receipt := by simpa [outcome] using ended
      exact absurd status failed
    | notReported outcome writable succeeded failed => exact absurd failed (reported _)

end Turn

end StakeRegistry.Node
