/-
Which nonces a run of several transactions uses.

The run takes one turn for each transaction that it begins, and each turn submits at the nonce after
that of the turn before, however often it submits and whatever the chain answers. A turn follows
only after one that was `Completed`: its transaction was included and succeeded, and the report of
it did not fail. `BatchDisciplined` collects what holds of the turns and of the result, and the main
statement is `batch_disciplined`. The nonces are an induction on the transactions, in which the
allocator knows the next nonce from the first turn on (`Batch.atNonce`).
-/
import StakeRegistry.Proofs.Tx.Outbidding
import StakeRegistry.Proofs.Tx.Turns

namespace StakeRegistry.Tx

variable {ω : Type} {s : Submitter} {intent : Intent ω} {fees : Fees}
  {xs ys : List (Exchange ω)} {r : Except TxError Receipt}

/-- The node is asked for a nonce. -/
def AsksNonce (xs : List (Exchange ω)) : Prop :=
  ∃ address answer, .pendingNonce address answer ∈ xs

/-- Everything that is submitted is the transaction itself at the given nonce. -/
def SubmitsAt (intent : Intent ω) (nonce : Int) (xs : List (Exchange ω)) : Prop :=
  ∀ payload params answer, .submit payload params answer ∈ xs →
    payload = intent.payload ∧ params.sender = intent.sender ∧ params.value = intent.value ∧
      params.gas = intent.gasLimit ∧ params.nonce = nonce

/-- How the first nonce is asked for: the first turn begins with the question for it, there is no
other one, and nothing follows if it is not answered. -/
structure AskedFirst (a : Allocator) (first : Int) (t : Turn ω) (rest : List (Turn ω))
    (r : Except BatchError (List Receipt)) : Prop where
  exists_answer : ∃ answer more, t.own = .pendingNonce a.address answer :: more ∧
    (∀ n, answer = .ok n → n = first) ∧
    (∀ f, answer = .error f → more = [] ∧ rest = [] ∧ r = .error (.fault f)) ∧ ¬ AsksNonce more
  once : ∀ t' ∈ rest, ¬ AsksNonce t'.own

/-- What holds of the turns of a run of transactions, its first nonce and its result. -/
structure BatchDisciplined (s : Submitter) (report : Report ω) (intents : List (Intent ω))
    (a : Allocator) (xs : List (Exchange ω)) (r : Except BatchError (List Receipt))
    (ts : List (Turn ω)) (first : Int) : Prop where
  /-- The exchanges are those of one turn after the other. -/
  exchanges_eq : xs = ts.flatMap Turn.exchanges
  /-- The turns are those of the first transactions, in their order. -/
  intents_eq : ts.map Turn.intent = intents.take ts.length
  /-- The own part of a turn is a run of the submission of its transaction. -/
  own : ∀ {t}, t ∈ ts → ∃ a₀ a₁, Asks ((submitNext s t.intent).run.run a₀) t.own (t.outcome, a₁)
  /-- The receipt of a turn is the last answer of the chain in its own part. -/
  received : ∀ {t receipt}, t ∈ ts → t.outcome = .ok receipt →
    (∃ earlier hash, t.own = earlier ++ [.wait hash s.timeout (.ok receipt)]) ∨
    ∃ earlier hash, t.own = earlier ++ [.receipt hash (.ok (some receipt))]
  /-- What was included and succeeded is reported with its place. -/
  reports : ∀ {i : Nat} {t : Turn ω}, ts[i]? = some t → t.Reports report (i + 1)
  /-- If the next nonce is known, it is the first one, and no turn asks for a nonce. -/
  known : ∀ {m}, a.next = some m → first = m ∧ ∀ t ∈ ts, ¬ AsksNonce t.own
  /-- If the next nonce is not known, the first turn asks for it. -/
  asked : a.next = none → ∀ {t rest}, ts = t :: rest → AskedFirst a first t rest r
  /-- Every turn submits its own transaction, at the nonce of its place. -/
  submits : ∀ {i : Nat} {t : Turn ω}, ts[i]? = some t → SubmitsAt t.intent (first + i) t.own
  /-- Two submissions share a nonce exactly if they belong to the same turn. -/
  shared_iff : ∀ {i j : Nat} {t t' : Turn ω} {payload payload' params params' answer answer'},
    ts[i]? = some t → ts[j]? = some t' → .submit payload params answer ∈ t.own →
    .submit payload' params' answer' ∈ t'.own → (params.nonce = params'.nonce ↔ i = j)
  /-- A turn is followed by another one only if it was completed. -/
  completed : ∀ {i : Nat} {t : Turn ω}, ts[i]? = some t → i + 1 < ts.length → t.Completed
  /-- The run returns receipts exactly if every transaction had its turn and every turn was
  completed. -/
  ok_iff : (∃ receipts, r = .ok receipts) ↔ ts.length = intents.length ∧ ∀ t ∈ ts, t.Completed
  /-- If all blocks can be told, the run returns receipts exactly if every transaction was included
  and succeeded and no report failed. -/
  ok_iff_of_tellable : (∀ t ∈ ts, t.Tellable) → ((∃ receipts, r = .ok receipts) ↔
    ts.length = intents.length ∧ ∀ t ∈ ts, t.Succeeded ∧ ∀ f, t.reported ≠ some (.error f))
  /-- The receipts are one for each transaction, in their order, and each of them succeeded. -/
  receipts : ∀ {receipts}, r = .ok receipts → ts.map Turn.outcome = receipts.map .ok ∧
    receipts.length = intents.length ∧ ∀ receipt ∈ receipts, receipt.status = 1
  /-- An error is that of the last turn. -/
  stops : ∀ {e}, r = .error e → ∃ earlier t, ts = earlier ++ [t] ∧ t.Stops ts.length e
  /-- The run names a transaction as reverted exactly if it is the last one that had its turn, was
  included in a block that can be told, and failed. -/
  reverted_iff : ∀ {i description receipt}, r = .error (.reverted i description receipt) ↔
    ∃ earlier t, ts = earlier ++ [t] ∧ i = ts.length ∧ description = t.intent.description ∧
      t.outcome = .ok receipt ∧ Numeral.isWritable receipt.blockNumber = true ∧
      receipt.status ≠ 1

/-! ### One turn -/

namespace Turn.Stops

variable {t : Turn ω} {place : Nat} {e : BatchError}

lemma of_error {e' : BatchError} (h : t.Stops place e) (outcome : t.outcome = .error e') :
    e = e' := by
  cases h <;> simp_all

lemma not_completed (h : t.Stops place e) : ¬ t.Completed := by
  rintro ⟨receipt, outcome, status, reported⟩
  cases h <;> simp_all

lemma reverted_iff {i : Nat} {description : String} {receipt : Receipt} (h : t.Stops place e) :
    e = .reverted i description receipt ↔ i = place ∧ description = t.intent.description ∧
      t.outcome = .ok receipt ∧ Numeral.isWritable receipt.blockNumber = true ∧
      receipt.status ≠ 1 := by
  cases h with
  | failed outcome notReverted => simp [outcome, notReverted]
  | @unwritable receipt' outcome unwritable reported =>
    constructor
    · simp
    · rintro ⟨-, -, ho, hw, -⟩
      obtain rfl : receipt' = receipt := by simpa [outcome] using ho
      rw [unwritable] at hw
      cases hw
  | reverted outcome writable status =>
    simp only [outcome, BatchError.reverted.injEq, Except.ok.injEq]
    constructor
    · rintro ⟨rfl, rfl, rfl⟩
      exact ⟨rfl, rfl, rfl, writable, status⟩
    · rintro ⟨rfl, rfl, rfl, -⟩
      exact ⟨rfl, rfl, rfl⟩
  | @notReported receipt' f outcome writable status reported =>
    constructor
    · simp
    · rintro ⟨-, -, ho, -, hs⟩
      obtain rfl : receipt' = receipt := by simpa [outcome] using ho
      exact absurd status hs

end Turn.Stops

lemma Suggests.not_asksNonce {r : Except TxError Suggestion} (h : Suggests xs r) :
    ¬ AsksNonce xs := by
  rintro ⟨address, answer, hx⟩
  cases h <;> simp at hx

lemma Settled.not_asksNonce (h : Settled s intent fees xs r) : ¬ AsksNonce xs := by
  rintro ⟨address, answer, hx⟩
  obtain ⟨before, after, rfl⟩ := List.append_of_mem hx
  by_cases hb : before = []
  · obtain ⟨answer', rest, hopen⟩ := h.opens
    subst hb
    simp at hopen
  · obtain ⟨earlier, x, -, hy⟩ := exists_of_isChain h.isChain hb
    cases hy

/-- A submission keeps the nonce and the gas limit of its first fees. -/
lemma Settled.submitsAt (h : Settled s intent fees xs r) (valid : fees.Valid)
    (gasLimit_eq : fees.gasLimit = intent.gasLimit) : SubmitsAt intent fees.nonce xs := by
  intro payload params answer hx
  obtain ⟨before, after, rfl⟩ := List.append_of_mem hx
  obtain ⟨past, last, next, ys, zs, -, unsettled, offer, rfl, rfl⟩ := h.offered rfl
  obtain ⟨-, hn, hg⟩ := valid.of_replaces (unsettled.replaces.trans offer.replaces)
  exact ⟨rfl, rfl, rfl, hg.trans gasLimit_eq, hn⟩

lemma Prepares.submissions_eq_nil {gasLimit nonce : Int} {r : Except BatchError Fees}
    (h : Prepares gasLimit nonce xs r) : submissions xs = [] := by
  cases h with
  | noSuggestion asked => exact asked.submissions_eq_nil
  | invalid asked check => exact asked.submissions_eq_nil
  | fees asked valid hg hn => exact asked.submissions_eq_nil

lemma Prepares.not_asksNonce {gasLimit nonce : Int} {r : Except BatchError Fees}
    (h : Prepares gasLimit nonce xs r) : ¬ AsksNonce xs := by
  cases h with
  | noSuggestion asked => exact asked.not_asksNonce
  | invalid asked check => exact asked.not_asksNonce
  | fees asked valid hg hn => exact asked.not_asksNonce

lemma asksNonce_append_iff : AsksNonce (xs ++ ys) ↔ AsksNonce xs ∨ AsksNonce ys := by
  simp only [AsksNonce, List.mem_append]
  constructor
  · rintro ⟨address, answer, h | h⟩
    · exact .inl ⟨address, answer, h⟩
    · exact .inr ⟨address, answer, h⟩
  · rintro (⟨address, answer, h⟩ | ⟨address, answer, h⟩)
    · exact ⟨address, answer, .inl h⟩
    · exact ⟨address, answer, .inr h⟩

lemma submitsAt_of_submissions_eq_nil {nonce : Int} (h : submissions xs = []) :
    SubmitsAt intent nonce xs :=
  fun _ _ _ hx => absurd hx (submit_notMem_of_submissions_eq_nil h)

lemma SubmitsAt.append {nonce : Int} (hxs : SubmitsAt intent nonce xs)
    (hys : SubmitsAt intent nonce ys) : SubmitsAt intent nonce (xs ++ ys) :=
  fun payload params answer hx =>
    (List.mem_append.1 hx).elim (hxs payload params answer) (hys payload params answer)

/-- A turn finds a nonce and submits its transaction at it, or it does nothing else. -/
lemma Takes.exists_allocates {a a' : Allocator} {r : Except BatchError Receipt}
    (h : Takes s intent a xs r a') :
    (∃ e, r = .error e ∧ Allocates a xs (.error e) a') ∨
    ∃ ys zs n, xs = ys ++ zs ∧ Allocates a ys (.ok n) a' ∧ SubmitsAt intent n zs ∧
      ¬ AsksNonce zs := by
  cases h with
  | noNonce allocates => exact .inl ⟨_, rfl, allocates⟩
  | @noFees ys zs n e a' allocates prepares =>
    exact .inr ⟨ys, zs, n, rfl, allocates,
      submitsAt_of_submissions_eq_nil prepares.submissions_eq_nil, prepares.not_asksNonce⟩
  | @submitted ws ys zs n fees r a' allocates prepares settled =>
    refine .inr ⟨ws, ys ++ zs, n, rfl, allocates, ?_, ?_⟩
    · refine (submitsAt_of_submissions_eq_nil prepares.submissions_eq_nil).append ?_
      cases prepares with
      | fees asked valid hg hn => exact hn ▸ settled.submitsAt valid hg
    · rw [asksNonce_append_iff]
      exact fun h => h.elim prepares.not_asksNonce settled.not_asksNonce

/-- A turn of an allocator that knows the next nonce. -/
lemma Takes.atNonce {a a' : Allocator} {n : Int} {r : Except BatchError Receipt}
    (h : Takes s intent a xs r a') (next : a.next = some n) :
    SubmitsAt intent n xs ∧ ¬ AsksNonce xs ∧ a'.next = some (n + 1) := by
  rcases h.exists_allocates with ⟨e, rfl, allocates⟩ | ⟨ys, zs, m, rfl, allocates, submits, none⟩
  · cases allocates with
    | failed unknown => simp [next] at unknown
  · cases allocates with
    | known known =>
      obtain rfl : n = m := by simpa [next] using known
      exact ⟨submits, none, rfl⟩
    | asked unknown => simp [next] at unknown

/-- A turn of an allocator that does not know the next nonce. -/
lemma Takes.asksFirst {a a' : Allocator} {r : Except BatchError Receipt}
    (h : Takes s intent a xs r a') (next : a.next = none) :
    (∃ f, xs = [.pendingNonce a.address (.error f)] ∧ r = .error (.fault f)) ∨
    ∃ n more, xs = .pendingNonce a.address (.ok n) :: more ∧ SubmitsAt intent n xs ∧
      ¬ AsksNonce more ∧ a'.next = some (n + 1) := by
  rcases h.exists_allocates with ⟨e, rfl, allocates⟩ | ⟨ys, zs, n, rfl, allocates, submits, none⟩
  · cases allocates with
    | failed unknown => exact .inl ⟨_, rfl, rfl⟩
  · cases allocates with
    | known known => simp [next] at known
    | asked unknown =>
      have question : SubmitsAt intent n [.pendingNonce a.address (.ok n)] :=
        submitsAt_of_submissions_eq_nil rfl
      exact .inr ⟨n, zs, rfl, question.append submits, none, rfl⟩

lemma Takes.received {a a' : Allocator} {receipt : Receipt}
    (h : Takes s intent a xs (.ok receipt) a') :
    (∃ earlier hash, xs = earlier ++ [.wait hash s.timeout (.ok receipt)]) ∨
    ∃ earlier hash, xs = earlier ++ [.receipt hash (.ok (some receipt))] := by
  generalize hr : Except.ok receipt = r at h
  cases h with
  | noNonce allocates => cases hr
  | noFees allocates prepares => cases hr
  | @submitted ws ys zs n fees r a' allocates prepares settled =>
    obtain rfl := mapError_eq_ok_iff.1 hr.symm
    rcases settled.answered with ⟨earlier, payload, params, hash, rfl⟩ |
      ⟨earlier, hash, payload, params, rfl, -⟩
    · exact .inl ⟨ws ++ (ys ++ (earlier ++ [.submit payload params (.ok hash)])), hash, by simp⟩
    · exact .inr ⟨ws ++ (ys ++ earlier), hash, by simp⟩

/-! ### All turns -/

section Batch

variable {s : Submitter} {report : Report ω} {index : Nat} {intents : List (Intent ω)}
  {a a' : Allocator} {ts : List (Turn ω)} {r : Except BatchError (List Receipt)}

/-- Each turn submits at the nonce after that of the turn before. -/
def SubmitsFrom (first : Int) (ts : List (Turn ω)) : Prop :=
  ∀ (i : Nat) (t : Turn ω), ts[i]? = some t → SubmitsAt t.intent (first + i) t.own

lemma submitsFrom_nil {first : Int} : SubmitsFrom first ([] : List (Turn ω)) := by
  simp [SubmitsFrom]

lemma SubmitsFrom.cons {first : Int} {t : Turn ω} (submits : SubmitsAt t.intent first t.own)
    (later : SubmitsFrom (first + 1) ts) : SubmitsFrom first (t :: ts) := by
  intro i u hu
  cases i with
  | zero =>
    obtain rfl : t = u := by simpa using hu
    simpa using submits
  | succ i =>
    have hi : first + 1 + (i : Int) = first + (i + 1 : Nat) := by
      push_cast
      omega
    exact hi ▸ later i u (by simpa using hu)

/-- From a known nonce on, every turn submits at the nonce after that of the turn before. -/
lemma Batch.submitsFrom (h : Batch s report index intents a ts r a') {n : Int}
    (next : a.next = some n) : SubmitsFrom n ts ∧ ∀ t ∈ ts, ¬ AsksNonce t.own := by
  induction h generalizing n with
  | nil => exact ⟨submitsFrom_nil, by simp⟩
  | stopped turn reports stops =>
    obtain ⟨submits, none, -⟩ := (takes_of_asks turn).atNonce next
    exact ⟨.cons submits submitsFrom_nil, by simpa using none⟩
  | completed turn reports completed outcome others ih =>
    -- the allocator has counted on to the nonce of the next turn
    obtain ⟨submits, none, next'⟩ := (takes_of_asks turn).atNonce next
    obtain ⟨later, none'⟩ := ih next'
    exact ⟨.cons submits later, by simpa using ⟨none, none'⟩⟩

lemma Batch.askedFirst {t : Turn ω} {rest : List (Turn ω)}
    (h : Batch s report index intents a (t :: rest) r a') (next : a.next = none) :
    ∃ first, SubmitsFrom first (t :: rest) ∧ AskedFirst a first t rest r := by
  cases h with
  | @stopped index t intents a a' e turn reports stops =>
    rcases (takes_of_asks turn).asksFirst next with
      ⟨f, hown, he⟩ | ⟨n, more, hown, submits, none, -⟩
    · -- no nonce was told, and nothing is submitted: any first nonce will do
      have submits : SubmitsAt t.intent 0 t.own := by
        rw [hown]
        exact submitsAt_of_submissions_eq_nil rfl
      obtain rfl := stops.of_error he
      refine ⟨0, .cons submits submitsFrom_nil, ⟨.error f, [], hown, by simp, ?_, ?_⟩, by simp⟩
      · simp
      · simp [AsksNonce]
    · exact ⟨n, .cons submits submitsFrom_nil,
        ⟨.ok n, more, hown, by simp, by simp, none⟩, by simp⟩
  | completed turn reports completed outcome others =>
    rcases (takes_of_asks turn).asksFirst next with
      ⟨f, hown, he⟩ | ⟨n, more, hown, submits, none, next'⟩
    · -- a turn that was completed has a nonce
      simp [outcome] at he
    · obtain ⟨later, none'⟩ := others.submitsFrom next'
      exact ⟨n, .cons submits later, ⟨.ok n, more, hown, by simp, by simp, none⟩, none'⟩

/-- The first nonce of a run is the one that the allocator knows, or the one that the node tells. -/
lemma Batch.exists_first (h : Batch s report index intents a ts r a') :
    ∃ first, SubmitsFrom first ts ∧
      (∀ m, a.next = some m → first = m ∧ ∀ t ∈ ts, ¬ AsksNonce t.own) ∧
      (a.next = none → ∀ t rest, ts = t :: rest → AskedFirst a first t rest r) := by
  cases next : a.next with
  | some n =>
    obtain ⟨submits, none⟩ := h.submitsFrom next
    refine ⟨n, submits, fun m hm => ?_, by simp⟩
    obtain rfl : n = m := by simpa using hm
    exact ⟨rfl, none⟩
  | none =>
    cases ts with
    | nil => exact ⟨0, submitsFrom_nil, by simp, by simp⟩
    | cons t rest =>
      obtain ⟨first, submits, asked⟩ := h.askedFirst next
      refine ⟨first, submits, by simp, fun _ u rest' hts => ?_⟩
      obtain ⟨rfl, rfl⟩ := List.cons.inj hts
      exact asked

lemma Batch.intents_eq (h : Batch s report index intents a ts r a') :
    ts.map Turn.intent = intents.take ts.length := by
  induction h with
  | nil => rfl
  | stopped turn reports stops => simp
  | completed turn reports completed outcome others ih => simp [ih]

lemma Batch.own (h : Batch s report index intents a ts r a') :
    ∀ t ∈ ts, ∃ a₀ a₁, Asks ((submitNext s t.intent).run.run a₀) t.own (t.outcome, a₁) := by
  induction h with
  | nil => simp
  | stopped turn reports stops => simpa using ⟨_, _, turn⟩
  | completed turn reports completed outcome others ih =>
    exact List.forall_mem_cons.2 ⟨⟨_, _, turn⟩, ih⟩

lemma Batch.reports (h : Batch s report index intents a ts r a') :
    ∀ (i : Nat) (t : Turn ω), ts[i]? = some t → t.Reports report (index + i) := by
  induction h with
  | nil => simp
  | @stopped index t rest a a' e turn reports stops =>
    intro i u hu
    obtain ⟨rfl, rfl⟩ : i = 0 ∧ t = u := by simpa [List.getElem?_singleton] using hu
    exact reports
  | @completed index t rest a a' a'' receipt ts r turn reports completed outcome others ih =>
    intro i u hu
    cases i with
    | zero =>
      obtain rfl : t = u := by simpa using hu
      exact reports
    | succ i => exact Nat.add_right_comm index 1 i ▸ ih i u (by simpa using hu)

/-- Only the last turn of a run can be one that was not completed. -/
lemma Batch.completed_of_lt (h : Batch s report index intents a ts r a') :
    ∀ (i : Nat) (t : Turn ω), ts[i]? = some t → i + 1 < ts.length → t.Completed := by
  induction h with
  | nil => simp
  | stopped turn reports stops => simp
  | @completed index t rest a a' a'' receipt ts r turn reports completed outcome others ih =>
    intro i u hu hi
    cases i with
    | zero =>
      obtain rfl : t = u := by simpa using hu
      exact completed
    | succ i => exact ih i u (by simpa using hu) (by simpa using hi)

/-- A run that returns receipts has completed the turns of all transactions. -/
lemma Batch.of_ok {receipts : List Receipt} (h : Batch s report index intents a ts r a')
    (hr : r = .ok receipts) : ts.map Turn.outcome = receipts.map .ok ∧
      ts.length = intents.length ∧ ∀ t ∈ ts, t.Completed := by
  induction h generalizing receipts with
  | nil =>
    cases hr
    simp
  | stopped turn reports stops => cases hr
  | @completed index t rest a a' a'' receipt ts r turn reports completed outcome others ih =>
    cases r with
    | error e => cases hr
    | ok later =>
      cases hr
      obtain ⟨outcomes, length, all⟩ := ih rfl
      exact ⟨by simp [outcome, outcomes], by simp [length], List.forall_mem_cons.2 ⟨completed, all⟩⟩

/-- A run that fails has stopped at its last turn. -/
lemma Batch.of_error {e : BatchError} (h : Batch s report index intents a ts r a')
    (hr : r = .error e) :
    ∃ earlier t, ts = earlier ++ [t] ∧ t.Stops (index + earlier.length) e := by
  induction h with
  | nil => cases hr
  | @stopped index t rest a a' e' turn reports stops =>
    cases hr
    exact ⟨[], t, rfl, stops⟩
  | @completed index t rest a a' a'' receipt ts r turn reports completed outcome others ih =>
    cases r with
    | ok later => cases hr
    | error e' =>
      cases hr
      obtain ⟨earlier, u, rfl, stops⟩ := ih rfl
      refine ⟨t :: earlier, u, rfl, ?_⟩
      have hp : index + 1 + earlier.length = index + (t :: earlier).length := by
        simp only [List.length_cons]
        omega
      exact hp ▸ stops

lemma Batch.ok_iff (h : Batch s report index intents a ts r a') :
    (∃ receipts, r = .ok receipts) ↔ ts.length = intents.length ∧ ∀ t ∈ ts, t.Completed := by
  constructor
  · rintro ⟨receipts, hr⟩
    exact (h.of_ok hr).2
  · rintro ⟨-, all⟩
    cases r with
    | ok receipts => exact ⟨receipts, rfl⟩
    | error e =>
      -- the last turn was not completed
      obtain ⟨earlier, t, rfl, stops⟩ := h.of_error rfl
      exact absurd (all t (by simp)) stops.not_completed

/-- A turn whose transaction succeeded was completed, if its block can be told and its report did
not fail. -/
lemma Turn.Reports.completed {place : Nat} {t : Turn ω} (h : t.Reports report place)
    (tellable : t.Tellable) (succeeded : t.Succeeded) (kept : ∀ f, t.reported ≠ some (.error f)) :
    t.Completed := by
  obtain ⟨receipt, outcome, status⟩ := succeeded
  cases h with
  | silent unwritable reported told =>
    have long := unwritable receipt outcome status
    rw [tellable receipt outcome] at long
    cases long
  | @made receipt' x outcome' writable status' reported told =>
    cases x with
    | error f => exact absurd reported (kept f)
    | ok u => exact ⟨receipt, outcome, status, reported⟩

/-- The block of a turn that was completed can be told. -/
lemma Turn.Reports.tellable {place : Nat} {t : Turn ω} (h : t.Reports report place)
    (completed : t.Completed) : t.Tellable := by
  obtain ⟨receipt, outcome, -, reported⟩ := completed
  intro receipt' outcome'
  obtain rfl : receipt = receipt' := by simpa [outcome] using outcome'
  cases h with
  | silent unwritable none told => simp [reported] at none
  | @made told x outcome'' writable status made asked =>
    obtain rfl : receipt = told := by simpa [outcome] using outcome''
    exact writable

lemma Batch.tellable {t : Turn ω} (h : Batch s report index intents a ts r a') (ht : t ∈ ts)
    (completed : t.Completed) : t.Tellable := by
  obtain ⟨i, hi⟩ := List.mem_iff_getElem?.1 ht
  exact (h.reports i t hi).tellable completed

lemma Turn.Completed.succeeded {t : Turn ω} (h : t.Completed) :
    t.Succeeded ∧ ∀ f, t.reported ≠ some (.error f) := by
  obtain ⟨receipt, outcome, status, reported⟩ := h
  exact ⟨⟨receipt, outcome, status⟩, by simp [reported]⟩

lemma Batch.ok_iff_of_tellable (h : Batch s report index intents a ts r a')
    (tellable : ∀ t ∈ ts, t.Tellable) : (∃ receipts, r = .ok receipts) ↔
      ts.length = intents.length ∧ ∀ t ∈ ts, t.Succeeded ∧ ∀ f, t.reported ≠ some (.error f) := by
  rw [h.ok_iff]
  refine and_congr_right fun _ => forall₂_congr fun t ht =>
    ⟨Turn.Completed.succeeded, fun kept => ?_⟩
  obtain ⟨i, hi⟩ := List.mem_iff_getElem?.1 ht
  exact (h.reports i t hi).completed (tellable t ht) kept.1 kept.2

lemma Batch.receipts_of_ok {receipts : List Receipt} (h : Batch s report index intents a ts r a')
    (hr : r = .ok receipts) : ts.map Turn.outcome = receipts.map .ok ∧
      receipts.length = intents.length ∧ ∀ receipt ∈ receipts, receipt.status = 1 := by
  obtain ⟨outcomes, length, all⟩ := h.of_ok hr
  have hl : ts.length = receipts.length := by simpa using congrArg List.length outcomes
  refine ⟨outcomes, hl ▸ length, fun receipt hmem => ?_⟩
  obtain ⟨t, ht, outcome⟩ : ∃ t ∈ ts, t.outcome = .ok receipt := by
    rw [← List.mem_map, outcomes]
    exact List.mem_map_of_mem hmem
  obtain ⟨receipt', outcome', status, -⟩ := all t ht
  obtain rfl : receipt = receipt' := by simpa [outcome] using outcome'
  exact status

/-- A transaction that is named as reverted is that of the last turn. -/
lemma Batch.reverted_iff {i : Nat} {description : String} {receipt : Receipt}
    (h : Batch s report index intents a ts r a') : r = .error (.reverted i description receipt) ↔
      ∃ earlier t, ts = earlier ++ [t] ∧ i = index + earlier.length ∧
        description = t.intent.description ∧ t.outcome = .ok receipt ∧
        Numeral.isWritable receipt.blockNumber = true ∧ receipt.status ≠ 1 := by
  constructor
  · intro hr
    obtain ⟨earlier, t, rfl, stops⟩ := h.of_error hr
    exact ⟨earlier, t, rfl, stops.reverted_iff.1 rfl⟩
  · rintro ⟨earlier, t, rfl, reverted⟩
    cases r with
    | ok receipts =>
      obtain ⟨-, -, outcome, -, status⟩ := reverted
      obtain ⟨receipt', outcome', status', -⟩ := (h.of_ok rfl).2.2 t (by simp)
      obtain rfl : receipt' = receipt := by simpa [outcome] using outcome'.symm
      exact absurd status' status
    | error e =>
      obtain ⟨earlier', t', hts, stops⟩ := h.of_error rfl
      obtain ⟨rfl, ht⟩ := List.append_inj' hts rfl
      obtain rfl : t = t' := by simpa using ht
      exact congrArg _ (stops.reverted_iff.2 reverted)

end Batch

/-- Every run of transactions keeps the discipline, whatever the chain answers and whatever the
report does. -/
theorem batch_disciplined {s : Submitter} {report : Report ω} {intents : List (Intent ω)}
    {a a' : Allocator} {es : List (Program.Event (Chain ω))} {r : Except BatchError (List Receipt)}
    (run : ((submitAll s report intents).run.run a).Runs es (r, a')) :
    ∃ ts first, BatchDisciplined s report intents a (exchanges es) r ts first := by
  obtain ⟨ts, exchanges_eq, batch⟩ := batch_of_runs run
  obtain ⟨first, submits, known, asked⟩ := batch.exists_first
  refine ⟨ts, first, ?_⟩
  constructor
  case exchanges_eq => exact exchanges_eq
  case intents_eq => exact batch.intents_eq
  case own => exact fun ht => batch.own _ ht
  case known => exact fun hm => known _ hm
  case asked => exact fun hn _ _ hts => asked hn _ _ hts
  case submits => exact fun ht => submits _ _ ht
  case completed => exact fun ht hi => batch.completed_of_lt _ _ ht hi
  case received =>
    intro t receipt ht outcome
    obtain ⟨a₀, a₁, turn⟩ := batch.own t ht
    rw [outcome] at turn
    exact (takes_of_asks turn).received
  case reports =>
    intro i t ht
    rw [Nat.add_comm]
    exact batch.reports i t ht
  case shared_iff =>
    intro i j t t' payload payload' params params' answer answer' ht ht' hx hx'
    obtain ⟨-, -, -, -, hn⟩ := submits i t ht _ _ _ hx
    obtain ⟨-, -, -, -, hn'⟩ := submits j t' ht' _ _ _ hx'
    omega
  case receipts => exact fun hr => batch.receipts_of_ok hr
  case ok_iff => exact batch.ok_iff
  case ok_iff_of_tellable => exact batch.ok_iff_of_tellable
  case stops =>
    intro e hr
    obtain ⟨earlier, t, rfl, stops⟩ := batch.of_error hr
    exact ⟨earlier, t, rfl, by simpa [Nat.add_comm] using stops⟩
  case reverted_iff =>
    intro i description receipt
    rw [batch.reverted_iff]
    -- the place of the last turn is the number of turns
    constructor
    · rintro ⟨earlier, t, rfl, hi, h⟩
      exact ⟨earlier, t, rfl, by simp [hi, Nat.add_comm], h⟩
    · rintro ⟨earlier, t, rfl, hi, h⟩
      exact ⟨earlier, t, rfl, by simpa [Nat.add_comm] using hi, h⟩

/-- A run of two transactions: the replacement of the first one keeps its nonce, and the second one
is included and fails. -/
theorem batch_disciplined_of_reverted_second :
    let s : Submitter := { maxAttempts := 2 }
    let intents : List (Intent String) := [
      { payload := "first", sender := "0xa", gasLimit := 21000 },
      { payload := "second", sender := "0xa", value := 5, description := "unstaking" }]
    let receipt (status : Int) : Receipt :=
      { hash := "0x2", blockNumber := 5, status, gasUsed := 0 }
    let script : List (Exchange String) := [
      .pendingNonce "0xa" (.ok 7), .priorityFee (.ok (.int 1)), .feeCap (.ok (.int 10)),
      .submit "first" ⟨"0xa", 0, 21000, 7, 10, 1⟩ (.error (.reported .value "already known")),
      .priorityFee (.ok (.int 1)), .feeCap (.ok (.int 10)),
      .submit "first" ⟨"0xa", 0, 21000, 7, 12, 2⟩ (.ok "0x1"),
      .wait "0x1" s.timeout (.ok (receipt 1)), .included 1 (receipt 1) (.ok ()),
      .priorityFee (.ok (.int 1)), .feeCap (.ok (.int 10)),
      .submit "second" ⟨"0xa", 5, 3000000, 8, 10, 1⟩ (.ok "0x2"),
      .wait "0x2" s.timeout (.ok (receipt 0))]
    let program := (submitAll s Chain.included intents).run.run { address := "0xa" }
    (submissions (exchanges (program.trace Chain.scripted script))).map (·.1.nonce) = [7, 7, 8] ∧
      (program.run Chain.scripted script).1 =
        (.error (.reverted 2 "unstaking" (receipt 0)), { address := "0xa", next := some 9 }) ∧
      ∃ ts first, BatchDisciplined s Chain.included intents { address := "0xa" }
        (exchanges (program.trace Chain.scripted script)) (program.run Chain.scripted script).1.1 ts
        first :=
  ⟨by decide +kernel, by decide +kernel, batch_disciplined (Program.runs_trace _ _ _)⟩

/-- A run need not ask for the first nonce that it does not know: without a transaction it asks
nothing. Nor does it return whenever its transactions succeeded and no report failed: the number of
a block may be too long to be told. -/
theorem neither_always_asked_nor_returned :
    (¬ ∀ (s : Submitter) (intents : List (Intent Unit)) (a a' : Allocator)
      (es : List (Program.Event (Chain Unit))) (r : Except BatchError (List Receipt)),
      ((submitAll s Chain.included intents).run.run a).Runs es (r, a') → a.next = none →
        AsksNonce (exchanges es)) ∧
    ¬ ∀ (s : Submitter) (intent : Intent Unit) (a a' : Allocator)
      (es : List (Program.Event (Chain Unit))) (r : Except BatchError (List Receipt)),
      ((submitAll s Chain.included [intent]).run.run a).Runs es (r, a') →
        (∃ hash receipt, obtained (exchanges es) = [(hash, receipt)] ∧ receipt.status = 1) →
        (∀ i receipt f, .included i receipt (.error f) ∉ exchanges es) →
        ∃ receipts, r = .ok receipts := by
  let a : Allocator := { address := "0xa" }
  refine ⟨fun asked => ?_, fun returned => ?_⟩
  · obtain ⟨address, answer, hx⟩ := asked .standard [] a a [] (.ok []) (.done _) rfl
    cases hx
  · let intent : Intent Unit := { payload := (), sender := "0xa", gasLimit := 21000 }
    let receipt : Receipt :=
      { hash := "0x1", blockNumber := Nat.pow 10 4300, status := 1, gasUsed := 0 }
    let script : List (Exchange Unit) := [
      .pendingNonce "0xa" (.ok 7), .priorityFee (.ok (.int 1)), .feeCap (.ok (.int 10)),
      .submit () ⟨"0xa", 0, 21000, 7, 10, 1⟩ (.ok "0x1"), .wait "0x1" (.whole 60) (.ok receipt)]
    let program := (submitAll .standard Chain.included [intent]).run.run a
    let es := program.trace Chain.scripted script
    have obtains : obtained (exchanges es) = [("0x1", receipt)] := by decide +kernel
    have unreported : (exchanges es).all (! ·.isReport) = true := by decide +kernel
    have ended :
      (program.run Chain.scripted script).1.1 = .error (.unwritable (Nat.pow 10 4300)) := by
      decide +kernel
    obtain ⟨receipts, ok⟩ := returned .standard intent a _ es _
      (Program.runs_trace Chain.scripted program script) ⟨"0x1", receipt, obtains, rfl⟩
      fun i receipt f hx => by simpa [Exchange.isReport] using List.all_eq_true.1 unreported _ hx
    rw [ended] at ok
    cases ok

end StakeRegistry.Tx
