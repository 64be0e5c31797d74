/-
Which receipts a submission obtains.

A receipt is obtained by a wait or by a lookup. A submission that returns one has obtained exactly
this one, for a hash that it broadcast, and a submission that fails has obtained none
(`Settled.obtained_cases`, and `Takes.obtained_cases` for a turn of a run).
-/
import StakeRegistry.Proofs.Tx.NonceDiscipline

namespace StakeRegistry.Tx

variable {ω : Type}

section

variable {s : Submitter} {intent : Intent ω} {fees last next : Fees} {past : List Attempt}
  {xs : List (Exchange ω)} {bs : List (Nat × String)} {o : Except TxError (Option Receipt)}

lemma Suggests.obtained_eq_nil {r : Except TxError Suggestion} (h : Suggests xs r) :
    obtained xs = [] := by
  cases h <;> rfl

lemma Offer.obtained_eq_nil (h : Offer last past xs next) : obtained xs = [] := by
  cases h with
  | given => rfl
  | boosted asked boost => exact asked.obtained_eq_nil

lemma NoOffer.obtained_eq_nil {e : TxError} (h : NoOffer last xs e) : obtained xs = [] := by
  cases h with
  | suggestion asked => exact asked.obtained_eq_nil
  | boost asked invalid => exact asked.obtained_eq_nil

/-- Attempts that were not included in time have obtained no receipt. -/
lemma Unsettled.obtained_eq_nil (h : Unsettled s intent fees past last xs) : obtained xs = [] := by
  induction h with
  | start => rfl
  | again before offer failed ih =>
    have hy := offer.obtained_eq_nil
    cases failed <;> simp [ih, hy]

/-- A search obtains the receipt that it ends with. -/
lemma Search.obtained_cases (h : Search bs xs o) :
    ((∀ receipt, o ≠ .ok (some receipt)) ∧ obtained xs = []) ∨
      ∃ receipt b, o = .ok (some receipt) ∧ b ∈ bs ∧ obtained xs = [(b.2, receipt)] := by
  induction h with
  | nothing => exact .inl ⟨by simp, rfl⟩
  | failed => exact .inl ⟨by simp, rfl⟩
  | @found i hash bs r => exact .inr ⟨r, (i, hash), rfl, by simp, rfl⟩
  | missing rest ih =>
    rcases ih with ⟨none, hxs⟩ | ⟨receipt, b, rfl, hb, hxs⟩
    · exact .inl ⟨none, by simp [hxs]⟩
    · exact .inr ⟨receipt, b, rfl, List.mem_cons_of_mem _ hb, by simp [hxs]⟩

/-- The receipt that decides after a search was obtained for a hash that was broadcast. -/
lemma Unsettled.obtained_of_search {zs : List (Exchange ω)} (e : TxError)
    (h : Unsettled s intent fees past last xs) (search : Search (named past) zs o) :
    ((∃ e', foundOr e o = .error e') ∧ obtained zs = []) ∨
      ∃ receipt hash payload params, foundOr e o = .ok receipt ∧ obtained zs = [(hash, receipt)] ∧
        .submit payload params (.ok hash) ∈ xs := by
  rcases search.obtained_cases with ⟨none, hzs⟩ | ⟨receipt, b, rfl, hb, hzs⟩
  · refine .inl ⟨?_, hzs⟩
    rcases o with e' | _ | receipt
    · exact ⟨e', rfl⟩
    · exact ⟨e, rfl⟩
    · exact absurd rfl (none receipt)
  · obtain ⟨-, payload, params, sent⟩ := h.exists_submit hb
    exact .inr ⟨receipt, b.2, payload, params, rfl, hzs, sent⟩

/-- A submission obtains at most one receipt, for a hash that it broadcast, and returns it. -/
lemma Settled.obtained_cases {r : Except TxError Receipt} (h : Settled s intent fees xs r) :
    ((∃ e, r = .error e) ∧ obtained xs = []) ∨
      ∃ receipt hash payload params, r = .ok receipt ∧ obtained xs = [(hash, receipt)] ∧
        .submit payload params (.ok hash) ∈ xs := by
  cases h with
  | noOffer before left retry offer =>
    exact .inl ⟨⟨_, rfl⟩, by simp [before.obtained_eq_nil, offer.obtained_eq_nil]⟩
  | submissionFailed before left offer hr hn =>
    exact .inl ⟨⟨_, rfl⟩, by simp [before.obtained_eq_nil, offer.obtained_eq_nil]⟩
  | waitFailed before left offer ht =>
    exact .inl ⟨⟨_, rfl⟩, by simp [before.obtained_eq_nil, offer.obtained_eq_nil]⟩
  | @included past last next xs ys hash receipt before left offer =>
    exact .inr ⟨receipt, hash, intent.payload, intent.params next, rfl,
      by simp [before.obtained_eq_nil, offer.obtained_eq_nil], by simp⟩
  | @nonceUsed past last next xs ys zs f o before left offer hr hn search =>
    rcases before.obtained_of_search
      (.submissionFailed intent.description past.length f) search with
      ⟨failed, none⟩ | ⟨receipt, hash, payload, params, hr, one, sent⟩
    · exact .inl ⟨failed, by simp [before.obtained_eq_nil, offer.obtained_eq_nil, none]⟩
    · exact .inr ⟨receipt, hash, payload, params, hr,
        by simp [before.obtained_eq_nil, offer.obtained_eq_nil, one], by simp [sent]⟩
  | exhausted before left search =>
    rcases before.obtained_of_search _ search with
      ⟨failed, none⟩ | ⟨receipt, hash, payload, params, hr, one, sent⟩
    · exact .inl ⟨failed, by simp [before.obtained_eq_nil, none]⟩
    · exact .inr ⟨receipt, hash, payload, params, hr, by simp [before.obtained_eq_nil, one],
        by simp [sent]⟩

lemma Allocates.obtained_eq_nil {a a' : Allocator} {r : Except BatchError Int}
    (h : Allocates a xs r a') : obtained xs = [] := by
  cases h <;> rfl

lemma Prepares.obtained_eq_nil {gasLimit nonce : Int} {r : Except BatchError Fees}
    (h : Prepares gasLimit nonce xs r) : obtained xs = [] := by
  cases h with
  | noSuggestion asked => exact asked.obtained_eq_nil
  | invalid asked check => exact asked.obtained_eq_nil
  | fees asked valid hg hn => exact asked.obtained_eq_nil

/-- A turn obtains at most one receipt, for a hash that it broadcast, and ends with it. -/
lemma Takes.obtained_cases {a a' : Allocator} {r : Except BatchError Receipt}
    (h : Takes s intent a xs r a') :
    ((∃ e, r = .error e) ∧ obtained xs = []) ∨
      ∃ receipt hash payload params, r = .ok receipt ∧ obtained xs = [(hash, receipt)] ∧
        .submit payload params (.ok hash) ∈ xs := by
  cases h with
  | noNonce allocates => exact .inl ⟨⟨_, rfl⟩, allocates.obtained_eq_nil⟩
  | noFees allocates prepares =>
    exact .inl ⟨⟨_, rfl⟩, by simp [allocates.obtained_eq_nil, prepares.obtained_eq_nil]⟩
  | submitted allocates prepares settled =>
    rcases settled.obtained_cases with
      ⟨⟨e, rfl⟩, none⟩ | ⟨receipt, hash, payload, params, rfl, one, sent⟩
    · exact .inl ⟨⟨.tx e, rfl⟩,
        by simp [allocates.obtained_eq_nil, prepares.obtained_eq_nil, none]⟩
    · exact .inr ⟨receipt, hash, payload, params, rfl,
        by simp [allocates.obtained_eq_nil, prepares.obtained_eq_nil, one], by simp [sent]⟩

end

end StakeRegistry.Tx
