/-
Transactions on a chain that includes what is sent.

A chain obliges an account if it tells the account a nonce, suggests a tip and a fee cap to the two
sides of a price, and includes what is submitted, with success and in a block that can be told
(`Exchange.Obliges`). On such a chain nothing stands in the way of a transaction:

* `Suggests.exists_ok`, `Allocates.exists_ok`, `Prepares.exists_ok`: its nonce and its fees are
  found;
* `Settled.exists_receipt`: the first attempt is included, since none fails before it
  (`Unsettled.past_eq_nil`);
* `Batch.exists_receipts`: all transactions of a run are included. This is an induction on the
  turns; what each of them keeps is that the next nonce is not negative.
-/
import StakeRegistry.Proofs.Tx.Turns

namespace StakeRegistry.Tx

variable {ω : Type}

/-- The answer lets the transactions of an account be included at their first attempts, with fees to
both sides of a price. -/
def Exchange.Obliges (address : String) (price : Int) : Exchange ω → Prop
  | .pendingNonce address' x => address' = address → ∃ n, x = .ok n ∧ 0 ≤ n
  | .priorityFee x => ∃ tip, answeredInteger x = .ok tip ∧ 0 ≤ tip ∧ tip ≤ price
  | .feeCap x => ∃ feeCap, answeredInteger x = .ok feeCap ∧ price ≤ feeCap
  | .submit _ _ x => ∃ hash, x = .ok hash
  | .wait _ _ x => ∃ receipt, x = .ok receipt ∧ receipt.status = 1 ∧
      Numeral.isWritable receipt.blockNumber = true
  | .receipt _ _ => True
  | .included _ _ x => x = .ok ()

/-- The next nonce that an allocator knows is not negative. -/
def Allocator.NonNegative (a : Allocator) : Prop :=
  ∀ n, a.next = some n → 0 ≤ n

lemma forall_mem_last {α : Type} {P : α → Prop} {as bs cs : List α}
    (h : ∀ a ∈ as ++ (bs ++ cs), P a) : ∀ a ∈ cs, P a :=
  (List.forall_mem_append.1 (List.forall_mem_append.1 h).2).2

section Submission

variable {address : String} {price : Int} {s : Submitter} {intent : Intent ω} {a a' : Allocator}
  {xs : List (Exchange ω)}

lemma Suggests.exists_ok {r : Except TxError Suggestion} (h : Suggests xs r)
    (obliges : ∀ x ∈ xs, x.Obliges address price) :
    ∃ suggestion, r = .ok suggestion ∧ 0 ≤ suggestion.tip ∧ suggestion.tip ≤ suggestion.feeCap := by
  obtain ⟨x, rest, rfl⟩ : ∃ x rest, xs = .priorityFee x :: rest := by
    cases h <;> exact ⟨_, _, rfl⟩
  obtain ⟨⟨tip, told, nonneg, le⟩, later⟩ := List.forall_mem_cons.1 obliges
  cases h with
  | noTip tip' => simp [told] at tip'
  | noCap tip' cap =>
    obtain ⟨feeCap, told', -⟩ := later _ (List.mem_singleton_self _)
    simp [told'] at cap
  | invalid tip' cap invalid =>
    obtain ⟨feeCap, told', ge⟩ := later _ (List.mem_singleton_self _)
    obtain rfl := Except.ok.inj (told.symm.trans tip')
    obtain rfl := Except.ok.inj (told'.symm.trans cap)
    -- the tip is not above the cap, since the price lies between them
    have passes : Suggestion.check { tip, feeCap } = .ok { tip, feeCap } :=
      Suggestion.check_eq_ok_iff.2 ⟨nonneg, Int.le_trans le ge, rfl⟩
    simp [passes] at invalid
  | fees tip' cap nonneg' le' => exact ⟨_, rfl, nonneg', le'⟩

lemma Allocates.exists_ok {r : Except BatchError Int} (h : Allocates a xs r a')
    (nonneg : a.NonNegative) (obliges : ∀ x ∈ xs, x.Obliges a.address price) :
    ∃ n, r = .ok n ∧ 0 ≤ n ∧ a'.NonNegative ∧ a'.address = a.address := by
  have next {n : Int} (hn : 0 ≤ n) :
      { a with next := some (n + 1) : Allocator }.NonNegative := by
    rintro m ⟨⟩
    omega
  cases h with
  | known known => exact ⟨_, rfl, nonneg _ known, next (nonneg _ known), rfl⟩
  | asked unknown =>
    obtain ⟨n, told, hn⟩ := obliges _ (List.mem_singleton_self _) rfl
    obtain rfl := Except.ok.inj told
    exact ⟨_, rfl, hn, next hn, rfl⟩
  | failed unknown =>
    obtain ⟨n, told, -⟩ := obliges _ (List.mem_singleton_self _) rfl
    cases told

lemma Prepares.exists_ok {gasLimit nonce : Int} {r : Except BatchError Fees}
    (h : Prepares gasLimit nonce xs r) (gasLimit_pos : 0 < gasLimit) (nonce_nonneg : 0 ≤ nonce)
    (obliges : ∀ x ∈ xs, x.Obliges address price) : ∃ fees, r = .ok fees := by
  cases h with
  | noSuggestion asked =>
    obtain ⟨_, told, -⟩ := asked.exists_ok obliges
    cases told
  | invalid asked check =>
    obtain ⟨_, told, nonneg, le⟩ := asked.exists_ok obliges
    obtain rfl := Except.ok.inj told
    rw [Fees.check_eq_ok_iff.2 ⟨⟨nonneg, le, gasLimit_pos, nonce_nonneg⟩, rfl⟩] at check
    cases check
  | fees asked valid => exact ⟨_, rfl⟩

/-- No attempt fails. -/
lemma Unsettled.past_eq_nil {fees last : Fees} {past : List Attempt}
    (h : Unsettled s intent fees past last xs) (obliges : ∀ x ∈ xs, x.Obliges address price) :
    past = [] := by
  cases h with
  | start => rfl
  | again before offer failed =>
    cases failed with
    | refused refusal =>
      obtain ⟨_, told⟩ := forall_mem_last obliges _ List.mem_cons_self
      cases told
    | timedOut timeout =>
      obtain ⟨_, told, -⟩ :=
        forall_mem_last obliges _ (List.mem_cons_of_mem _ List.mem_cons_self)
      cases told

lemma Settled.exists_receipt {fees : Fees} {r : Except TxError Receipt}
    (h : Settled s intent fees xs r) (obliges : ∀ x ∈ xs, x.Obliges address price) :
    ∃ receipt, r = .ok receipt ∧ receipt.status = 1 ∧
      Numeral.isWritable receipt.blockNumber = true := by
  cases h with
  | noOffer before left retry offer =>
    exact absurd (before.past_eq_nil (List.forall_mem_append.1 obliges).1) retry
  | submissionFailed | nonceUsed =>
    obtain ⟨_, told⟩ := forall_mem_last obliges _ List.mem_cons_self
    cases told
  | included =>
    obtain ⟨receipt, told, included⟩ :=
      forall_mem_last obliges _ (List.mem_cons_of_mem _ List.mem_cons_self)
    obtain rfl := Except.ok.inj told
    exact ⟨_, rfl, included⟩
  | waitFailed =>
    obtain ⟨_, told, -⟩ := forall_mem_last obliges _ (List.mem_cons_of_mem _ List.mem_cons_self)
    cases told
  | exhausted before left search =>
    -- all attempts would have failed, and there is at least one
    rw [before.past_eq_nil (List.forall_mem_append.1 obliges).1] at left
    exact absurd left (Nat.ne_of_lt s.attempts_pos)

lemma Takes.exists_receipt {r : Except BatchError Receipt} (h : Takes s intent a xs r a')
    (gasLimit_pos : 0 < intent.gasLimit) (nonneg : a.NonNegative)
    (obliges : ∀ x ∈ xs, x.Obliges a.address price) :
    (∃ receipt, r = .ok receipt ∧ receipt.status = 1 ∧
      Numeral.isWritable receipt.blockNumber = true) ∧
      a'.NonNegative ∧ a'.address = a.address := by
  cases h with
  | noNonce allocates =>
    obtain ⟨_, told, -⟩ := allocates.exists_ok nonneg obliges
    cases told
  | noFees allocates prepares =>
    obtain ⟨first, later⟩ := List.forall_mem_append.1 obliges
    obtain ⟨n, told, hn, -⟩ := allocates.exists_ok nonneg first
    obtain rfl := Except.ok.inj told
    obtain ⟨_, told⟩ := prepares.exists_ok gasLimit_pos hn later
    cases told
  | submitted allocates prepares settled =>
    obtain ⟨first, later⟩ := List.forall_mem_append.1 obliges
    obtain ⟨-, -, -, kept⟩ := allocates.exists_ok nonneg first
    obtain ⟨receipt, rfl, included⟩ :=
      settled.exists_receipt (List.forall_mem_append.1 later).2
    exact ⟨⟨receipt, rfl, included⟩, kept⟩

end Submission

/-- All transactions of a run are included, if their gas limits are positive and the reports of them
do not fail. -/
theorem Batch.exists_receipts {price : Int} {s : Submitter} {report : Report ω} {index : Nat}
    {intents : List (Intent ω)} {a a' : Allocator} {ts : List (Turn ω)}
    {r : Except BatchError (List Receipt)} (h : Batch s report index intents a ts r a')
    (gasLimit_pos : ∀ intent ∈ intents, 0 < intent.gasLimit) (nonneg : a.NonNegative)
    (reports : ∀ place receipt xs x, Asks (report place receipt) xs x →
      (∀ e ∈ xs, e.Obliges a.address price) → x = .ok ())
    (obliges : ∀ x ∈ ts.flatMap Turn.exchanges, x.Obliges a.address price) :
    ∃ receipts, r = .ok receipts := by
  induction h with
  | nil => exact ⟨[], rfl⟩
  | @stopped index t rest a a' e turn told stops =>
    simp only [List.flatMap_cons, List.flatMap_nil, List.append_nil, Turn.exchanges] at obliges
    obtain ⟨own, later⟩ := List.forall_mem_append.1 obliges
    obtain ⟨⟨receipt, outcome, status, writable⟩, -⟩ :=
      (takes_of_asks turn).exists_receipt (gasLimit_pos _ List.mem_cons_self) nonneg own
    cases stops with
    | failed failed => simp [outcome] at failed
    | unwritable outcome' unwritable =>
      obtain rfl := Except.ok.inj (outcome.symm.trans outcome')
      simp [writable] at unwritable
    | reverted outcome' _ failed =>
      obtain rfl := Except.ok.inj (outcome.symm.trans outcome')
      exact absurd status failed
    | notReported _ _ _ failed =>
      cases told with
      | silent _ none => simp [none] at failed
      | made _ _ _ reported asks =>
        obtain rfl := reports _ _ _ _ asks later
        simp [reported] at failed
  | @completed index t rest a a' a'' receipt ts r turn told completed outcome others ih =>
    rw [List.flatMap_cons] at obliges
    obtain ⟨first, later⟩ := List.forall_mem_append.1 obliges
    obtain ⟨-, nonneg', address⟩ := (takes_of_asks turn).exists_receipt
      (gasLimit_pos _ List.mem_cons_self) nonneg (List.forall_mem_append.1 first).1
    rw [← address] at reports later
    obtain ⟨receipts, rfl⟩ :=
      ih (fun intent mem => gasLimit_pos _ (List.mem_cons_of_mem _ mem)) nonneg' reports later
    exact ⟨receipt :: receipts, rfl⟩

end StakeRegistry.Tx
