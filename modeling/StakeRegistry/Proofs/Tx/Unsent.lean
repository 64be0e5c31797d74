/-
Runs of transactions that nothing can be sent in, and what is sent in all others.

No fees carry a gas limit that is not positive, and so the turn of such a transaction ends with the
questions for its nonce and its fees (`Takes.of_gasLimit`). A run that begins with such a
transaction sends nothing and fails (`Batch.of_gasLimit`). Whatever a run submits, it has the
payload of one of its transactions, if the reports ask nothing (`Batch.exists_intent_of_submit`).
-/
import StakeRegistry.Proofs.Tx.NonceDiscipline

namespace StakeRegistry.Tx

variable {ω : Type} {s : Submitter} {report : Report ω} {intent : Intent ω}
  {intents : List (Intent ω)} {a a' : Allocator} {xs : List (Exchange ω)}
  {ts : List (Turn ω)} {index : Nat}

/-! ### Questions before a submission -/

lemma Allocates.not_about {r : Except BatchError Int} (h : Allocates a xs r a') :
    ∀ x ∈ xs, x.isAboutTransaction = false := by
  intro x hx
  cases h with
  | known next => cases hx
  | asked next =>
    rw [List.mem_singleton.1 hx]
    rfl
  | failed next =>
    rw [List.mem_singleton.1 hx]
    rfl

lemma Suggests.not_about {r : Except TxError Suggestion} (h : Suggests xs r) :
    ∀ x ∈ xs, x.isAboutTransaction = false := by
  intro x hx
  have hprice : ∀ {y z}, x ∈ ([.priorityFee y, .feeCap z] : List (Exchange ω)) →
      x.isAboutTransaction = false := by
    intro y z hyz
    rcases List.mem_cons.1 hyz with rfl | hz
    · rfl
    · rw [List.mem_singleton.1 hz]
      rfl
  cases h with
  | noTip tip =>
    rw [List.mem_singleton.1 hx]
    rfl
  | noCap tip cap => exact hprice hx
  | invalid tip cap invalid => exact hprice hx
  | fees tip cap tip_nonneg tip_le => exact hprice hx

lemma Prepares.not_about {gasLimit nonce : Int} {r : Except BatchError Fees}
    (h : Prepares gasLimit nonce xs r) : ∀ x ∈ xs, x.isAboutTransaction = false := by
  cases h with
  | noSuggestion asked => exact asked.not_about
  | invalid asked check => exact asked.not_about
  | fees asked valid gasLimit_eq nonce_eq => exact asked.not_about

/-- Fees are found only for a positive gas limit. -/
lemma Prepares.gasLimit_pos {gasLimit nonce : Int} {fees : Fees}
    (h : Prepares gasLimit nonce xs (.ok fees)) : 0 < gasLimit := by
  cases h with
  | fees asked valid gasLimit_eq nonce_eq =>
    have pos := valid.gasLimit_pos
    omega

/-! ### A gas limit that is not positive -/

/-- The turn of a transaction without a gas limit fails before anything is submitted. -/
lemma Takes.of_gasLimit {r : Except BatchError Receipt} (h : Takes s intent a xs r a')
    (limit : intent.gasLimit ≤ 0) :
    (∃ e, r = .error e) ∧ ∀ x ∈ xs, x.isAboutTransaction = false := by
  cases h with
  | noNonce allocates => exact ⟨⟨_, rfl⟩, allocates.not_about⟩
  | noFees allocates prepares =>
    exact ⟨⟨_, rfl⟩, List.forall_mem_append.2 ⟨allocates.not_about, prepares.not_about⟩⟩
  | submitted allocates prepares settled =>
    have pos := prepares.gasLimit_pos
    omega

/-- A run that begins with a transaction without a gas limit fails before anything is submitted. -/
lemma Batch.of_gasLimit {r : Except BatchError (List Receipt)}
    (h : Batch s report index (intent :: intents) a ts r a') (limit : intent.gasLimit ≤ 0) :
    (∃ e, r = .error e) ∧ ∀ x ∈ ts.flatMap Turn.exchanges, x.isAboutTransaction = false := by
  cases h with
  | @stopped index t rest a a' e turn reports stops =>
    refine ⟨⟨_, rfl⟩, ?_⟩
    obtain ⟨⟨e', outcome⟩, quiet⟩ := (takes_of_asks turn).of_gasLimit limit
    -- a submission that failed is not reported
    have told : t.told = [] := by
      cases reports with
      | silent outcome' reported told => exact told
      | made outcome' writable status reported told =>
        rw [outcome] at outcome'
        cases outcome'
    rw [List.flatMap_singleton, Turn.exchanges, told, List.append_nil]
    exact quiet
  | @completed index t rest a a' a'' receipt ts r turn reports completed outcome others =>
    obtain ⟨⟨e', failed⟩, -⟩ := (takes_of_asks turn).of_gasLimit limit
    rw [outcome] at failed
    cases failed

/-! ### What is submitted -/

/-- Every submission of a run is that of one of its transactions, if its reports ask nothing. -/
lemma Batch.exists_intent_of_submit {r : Except BatchError (List Receipt)} {payload : ω}
    {params : Params} {x : Except Fault String} (h : Batch s report index intents a ts r a')
    (silent : ∀ {place receipt xs y}, Asks (report place receipt) xs y → xs = [])
    (submitted : .submit payload params x ∈ ts.flatMap Turn.exchanges) :
    ∃ intent ∈ intents, intent.payload = payload := by
  obtain ⟨t, ht, hx⟩ := List.mem_flatMap.1 submitted
  obtain ⟨i, hi⟩ := List.mem_iff_getElem?.1 ht
  obtain ⟨first, submits, -, -⟩ := h.exists_first
  have told : t.told = [] := by
    cases h.reports i t hi with
    | silent outcome reported told => exact told
    | made outcome writable status reported told => exact silent told
  rw [Turn.exchanges, told, List.append_nil] at hx
  have mem : t.intent ∈ intents.take ts.length := by
    rw [← h.intents_eq]
    exact List.mem_map.2 ⟨t, ht, rfl⟩
  exact ⟨t.intent, List.mem_of_mem_take mem, (submits i t hi payload params x hx).1.symm⟩

end StakeRegistry.Tx
