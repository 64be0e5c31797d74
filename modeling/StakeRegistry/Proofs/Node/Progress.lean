/-
Transactions on a node that includes what is sent.

A node obliges if it tells the nonce, suggests a tip and a fee cap to the two sides of a price,
takes every transaction and tells a receipt of success for it (`Obliges`). A run of transactions of
an account on such a node is one over a chain that obliges the account (`Shows.obliges`), and so all
of its transactions are included (`exists_receipts_of_runs`).
-/
import StakeRegistry.Proofs.Node.Questions
import StakeRegistry.Proofs.Node.Turns
import StakeRegistry.Proofs.Tx.Progress

namespace StakeRegistry.Node

open Tx

/-- The node answers the question, if it belongs to a run of transactions, with what lets a
transaction be included at its first attempt. -/
def Obliges (price : Int) : NodeEvent → Prop
  | ⟨.transactionCount _, x⟩ => ∃ n, x = (.ok n : Except Fault Int) ∧ 0 ≤ n
  | ⟨.priorityFee, x⟩ => ∃ tip, integerOf x = .ok tip ∧ 0 ≤ tip ∧ tip ≤ price
  | ⟨.gasPrice, x⟩ => ∃ feeCap, integerOf x = .ok feeCap ∧ price ≤ feeCap
  | ⟨.build _ _, x⟩ => ∃ transaction, x = (.ok transaction : Except Fault Transaction)
  | ⟨.sign _ _, x⟩ => ∃ signed, x = (.ok signed : Except Fault Signed)
  | ⟨.send _, x⟩ => ∃ hash, x = (.ok hash : Except Fault Bytes)
  | ⟨.wait _ _ _, x⟩ => ∃ raw receipt, x = (.ok raw : Except Fault RawReceipt) ∧
      Receipt.ofRaw raw = .ok receipt ∧ receipt.status = 1 ∧
      Numeral.isWritable receipt.blockNumber = true
  | _ => True

variable {poll : Seconds} {address : String} {price : Int} {es own : List (Program.Event Host)}

lemma Conveys.obliges {x : Exchange Payload} {qs : List NodeEvent} (h : Conveys poll x qs)
    (all : ∀ q ∈ qs, Obliges price q) : x.Obliges address price := by
  cases h with
  | tip =>
    obtain ⟨tip, told, fits⟩ := all _ List.mem_cons_self
    exact ⟨tip, by rw [told]; rfl, fits⟩
  | cap =>
    obtain ⟨feeCap, told, fits⟩ := all _ List.mem_cons_self
    exact ⟨feeCap, by rw [told]; rfl, fits⟩
  | notBuilt =>
    obtain ⟨_, told⟩ := all _ List.mem_cons_self
    cases told
  | notSigned =>
    obtain ⟨_, told⟩ := all _ (List.mem_cons_of_mem _ List.mem_cons_self)
    cases told
  | @sent payload params parameters transaction signed y =>
    obtain ⟨hash, rfl⟩ :=
      all ⟨.send signed, y⟩ (List.mem_cons_of_mem _ (List.mem_cons_of_mem _ List.mem_cons_self))
    exact ⟨_, rfl⟩
  | @wait hash timeout y =>
    obtain ⟨raw, receipt, rfl, read, included⟩ :=
      all ⟨.wait hash timeout poll, y⟩ List.mem_cons_self
    exact ⟨receipt, by rw [awaited_ok, read]; rfl, included⟩
  | lookup => trivial

/-- What the answers of a node lead to obliges an account whose address can be checked. -/
lemma obliges_of_runs {c : Chain.Call Payload} {x : Chain.Answer c} {e : Exchange Payload}
    {checked : String} (addressed : checkedAddress address = .ok checked)
    (run : Program.Runs (answer poll c) own x) (he : Exchange.ofAnswer? c x = some e)
    (all : ∀ q ∈ nodeEvents own, Obliges price q) : e.Obliges address price := by
  cases c with
  | pendingNonce address' =>
    cases he
    rintro rfl
    rw [answer, pendingNonce, addressed] at run
    obtain rfl := Program.Runs.call_iff.1 run
    exact all _ List.mem_cons_self
  | included index receipt =>
    cases he
    exact (Program.Runs.done_iff.1 run).2
  | say | log => cases he
  | priorityFee | feeCap | submit | wait | receipt =>
    cases he
    exact (conveys_of_runs run rfl trivial).obliges all

lemma Shows.obliges {xs : List (Exchange Payload)} {checked : String} (h : Shows xs es)
    (addressed : checkedAddress address = .ok checked)
    (all : ∀ q ∈ nodeEvents es, Obliges price q) : ∀ x ∈ xs, x.Obliges address price := by
  obtain ⟨inner, rfl, carries⟩ := h
  induction carries with
  | nil => exact List.forall_mem_nil _
  | @cons e inner own es run rest ih =>
    rw [nodeEvents_append] at all
    obtain ⟨first, later⟩ := List.forall_mem_append.1 all
    rw [exchanges_cons]
    refine List.forall_mem_append.2 ⟨fun x mem => ?_, ih later⟩
    have he : Exchange.ofAnswer? e.1 e.2 = some x := by simpa [exchanges] using mem
    exact obliges_of_runs addressed run he first

/-- On a node that obliges, all transactions of an account are included. -/
theorem exists_receipts_of_runs {s : Submitter} {report : Report Payload}
    {intents : List (Intent Payload)} {checked : String} {r : Except BatchError (List Receipt)}
    (run : Program.Runs (runBatch address (submitAll s report intents)).run es r)
    (addressed : checkedAddress address = .ok checked)
    (gasLimit_pos : ∀ intent ∈ intents, 0 < intent.gasLimit)
    (reports : ∀ place receipt xs x, Asks (report place receipt) xs x →
      (∀ e ∈ xs, e.Obliges address price) → x = .ok ())
    (all : ∀ q ∈ nodeEvents es, Obliges price q) : ∃ receipts, r = .ok receipts := by
  obtain ⟨inner, a', hinner, shows⟩ := exists_shows_of_runs run
  obtain ⟨ts, hts, batch⟩ := batch_of_runs hinner
  rw [hts] at shows
  exact batch.exists_receipts gasLimit_pos nofun reports (shows.obliges addressed all)

end StakeRegistry.Node
