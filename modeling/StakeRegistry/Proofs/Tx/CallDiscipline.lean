/-
What a submission may ask next.

`MayFollow s x y` says that `y` may come right after `x`: a broadcast is waited for, another attempt
begins with the questions for fees, and lookups come last. The exchanges of a run are a chain of
this relation (`Settled.isChain`). From the chain follows the discipline `Disciplined`, which
describes the surroundings of each exchange of a run (`submission_disciplined`).
-/
import Mathlib.Data.List.Chain
import StakeRegistry.Proofs.Tx.Settlement

namespace StakeRegistry.Tx

variable {ω : Type} {s : Submitter} {intent : Intent ω} {fees last next : Fees}
  {past : List Attempt} {xs ys zs : List (Exchange ω)} {bs : List (Nat × String)}
  {o : Except TxError (Option Receipt)} {r : Except TxError Receipt}

/-- The node refused the attempt: the message contains one of the refusals, in whatever letter
case. -/
def Refused (f : Fault) : Prop :=
  ∃ text, f.text = .ok text ∧ ∃ m ∈ refusals, m.toList <:+: (Text.lower text).toList

/-- The message says that the nonce is used, in whatever letter case, and is no refusal. -/
def NonceUsed (f : Fault) : Prop :=
  ¬ Refused f ∧ ∃ text, f.text = .ok text ∧ "nonce too low".toList <:+: (Text.lower text).toList

lemma isRefusal_iff {f : Fault} : isRefusal f = true ↔ Refused f := by
  simp only [isRefusal, Refused, Fault.tells_iff, List.any_eq_true, Text.contains_iff]

lemma isNonceUsed_iff {f : Fault} (h : isRefusal f = false) :
    isNonceUsed f = true ↔ NonceUsed f := by
  have hr : ¬ Refused f := by
    rw [← isRefusal_iff, h]
    simp
  simp only [isNonceUsed, Fault.tells_iff, Text.contains_iff, NonceUsed]
  exact ⟨fun hn => ⟨hr, hn⟩, fun hn => hn.2⟩

namespace Exchange

/-- The exchange ends an attempt that was not included in time: it was refused, or the wait for it
was in vain. -/
def AllowsRetry : Exchange ω → Prop
  | submit _ _ (.error f) => Refused f
  | wait _ _ (.error f) => f.isTimeout = true
  | _ => False

/-- The exchange is a submission whose nonce is used. -/
def SaysNonceUsed : Exchange ω → Prop
  | submit _ _ (.error f) => NonceUsed f
  | _ => False

/-- The exchange is a lookup. -/
def IsLookup (x : Exchange ω) : Prop :=
  ∃ hash answer, x = receipt hash answer

/-- A run may end with the exchange: it is no broadcast, and no tip that can be read. -/
def MayEnd : Exchange ω → Prop
  | submit _ _ (.ok _) => False
  | priorityFee x => ∀ t, answeredInteger x ≠ .ok t
  | _ => True

end Exchange

/-- The second exchange may come right after the first. -/
inductive MayFollow (s : Submitter) : Exchange ω → Exchange ω → Prop where
  | wait {payload : ω} {params : Params} {hash : String} {answer : Except Fault Receipt} :
      MayFollow s (.submit payload params (.ok hash)) (.wait hash s.timeout answer)
  | tip {x : Exchange ω} {answer : Except Fault Json.Value} (retry : x.AllowsRetry) :
      MayFollow s x (.priorityFee answer)
  | cap {x answer : Except Fault Json.Value} {t : Int} (tip : answeredInteger x = .ok t) :
      MayFollow s (.priorityFee x) (.feeCap answer)
  | submit {y : Except Fault Json.Value} {c : Int} {payload : ω} {params : Params}
      {answer : Except Fault String} (cap : answeredInteger y = .ok c) :
      MayFollow s (.feeCap y) (.submit payload params answer)
  | lookup {x : Exchange ω} {hash : String} {answer : Except Fault (Option Receipt)}
      (last : x.AllowsRetry ∨ x.SaysNonceUsed) : MayFollow s x (.receipt hash answer)
  | lookupAgain {hash hash' : String} {answer : Except Fault (Option Receipt)} :
      MayFollow s (.receipt hash (.ok none)) (.receipt hash' answer)

/-- Only the wait for it may follow a broadcast. -/
lemma MayFollow.eq_wait {payload : ω} {params : Params} {hash : String} {y : Exchange ω}
    (h : MayFollow s (.submit payload params (.ok hash)) y) :
    ∃ answer, y = .wait hash s.timeout answer := by
  cases h with
  | wait => exact ⟨_, rfl⟩
  | tip retry => exact absurd retry (by simp [Exchange.AllowsRetry])
  | lookup last => exact absurd last (by simp [Exchange.AllowsRetry, Exchange.SaysNonceUsed])

/-- Only the question for a fee cap may follow the one for a tip, and only if the tip can be
read. -/
lemma MayFollow.eq_feeCap {x : Except Fault Json.Value} {y : Exchange ω}
    (h : MayFollow s (.priorityFee x) y) :
    (∃ t, answeredInteger x = .ok t) ∧ ∃ answer, y = .feeCap answer := by
  cases h with
  | cap tip => exact ⟨⟨_, tip⟩, _, rfl⟩
  | tip retry => exact absurd retry (by simp [Exchange.AllowsRetry])
  | lookup last => exact absurd last (by simp [Exchange.AllowsRetry, Exchange.SaysNonceUsed])

/-! ### The exchanges of a run are a chain -/

lemma Search.isChain (h : Search bs xs o) : xs.IsChain (MayFollow s) := by
  induction h with
  | nothing => exact .nil
  | found => exact .singleton _
  | failed => exact .singleton _
  | missing rest ih =>
    refine List.isChain_cons.2 ⟨?_, ih⟩
    cases rest <;> simp [MayFollow.lookupAgain]

lemma Search.isLookup (h : Search bs xs o) : ∀ x ∈ xs, x.IsLookup := by
  induction h with
  | nothing => simp
  | found => simp [Exchange.IsLookup]
  | failed => simp [Exchange.IsLookup]
  | missing rest ih => simpa [Exchange.IsLookup] using ih

/-- A search may begin after every exchange that allows it. -/
lemma Search.mayFollow {x : Exchange ω} (h : Search bs xs o)
    (hx : x.AllowsRetry ∨ x.SaysNonceUsed) :
    ∀ y ∈ xs.head?, MayFollow s x y := by
  cases h <;> simp [MayFollow.lookup hx]

/-- The attempts so far end with an exchange that allows another one. -/
lemma Unsettled.allowsRetry (h : Unsettled s intent fees past last xs) :
    ∀ x ∈ xs.getLast?, x.AllowsRetry := by
  cases h with
  | start => simp
  | again before offer failed =>
    cases failed with
    | refused hr => simp [Exchange.AllowsRetry, isRefusal_iff.1 hr]
    | timedOut ht => simp [Exchange.AllowsRetry, ht]

lemma Unsettled.eq_nil (h : Unsettled s intent fees [] last xs) : xs = [] := by
  cases h
  rfl

lemma Suggests.isChain {r : Except TxError Suggestion} (h : Suggests xs r) :
    xs.IsChain (MayFollow s) := by
  cases h with
  | noTip tip => exact .singleton _
  | noCap tip cap => exact .cons_cons (.cap tip) (.singleton _)
  | invalid tip cap invalid => exact .cons_cons (.cap tip) (.singleton _)
  | fees tip cap h₀ h₁ => exact .cons_cons (.cap tip) (.singleton _)

lemma Suggests.mayFollow {r : Except TxError Suggestion} {x : Exchange ω} (h : Suggests xs r)
    (hx : x.AllowsRetry) : ∀ y ∈ xs.head?, MayFollow s x y := by
  cases h <;> simp [MayFollow.tip hx]

/-- The questions for fees and the submission may follow after the attempts so far. -/
lemma Offer.isChain {payload : ω} {params : Params} {answer : Except Fault String}
    (offer : Offer last past ys next) (before : Unsettled s intent fees past last xs)
    (hxs : xs.IsChain (MayFollow s))
    (hzs : (.submit payload params answer :: zs).IsChain (MayFollow s)) :
    (xs ++ (ys ++ .submit payload params answer :: zs)).IsChain (MayFollow s) := by
  cases offer with
  | given =>
    rw [before.eq_nil]
    exact hzs
  | boosted asked boost =>
    rw [← List.append_assoc]
    refine (hxs.append asked.isChain ?_).append hzs ?_
    · exact fun x hx => asked.mayFollow (before.allowsRetry x hx)
    · cases asked with
      | fees tip cap h₀ h₁ => simp [MayFollow.submit cap]

lemma Unsettled.isChain (h : Unsettled s intent fees past last xs) : xs.IsChain (MayFollow s) := by
  induction h with
  | start => exact .nil
  | again before offer failed ih =>
    cases failed with
    | refused hr => exact offer.isChain before ih (.singleton _)
    | timedOut ht => exact offer.isChain before ih (.cons_cons .wait (.singleton _))

lemma Settled.isChain (h : Settled s intent fees xs r) : xs.IsChain (MayFollow s) := by
  cases h with
  | noOffer before left retry offer =>
    cases offer with
    | suggestion asked =>
      exact before.isChain.append asked.isChain fun x hx =>
        asked.mayFollow (before.allowsRetry x hx)
    | boost asked invalid =>
      exact before.isChain.append asked.isChain fun x hx =>
        asked.mayFollow (before.allowsRetry x hx)
  | submissionFailed before left offer hr hn =>
    exact offer.isChain before before.isChain (.singleton _)
  | nonceUsed before left offer hr hn search =>
    refine offer.isChain before before.isChain (List.isChain_cons.2 ⟨?_, search.isChain⟩)
    exact search.mayFollow (.inr ((isNonceUsed_iff hr).1 hn))
  | included before left offer =>
    exact offer.isChain before before.isChain (.cons_cons .wait (.singleton _))
  | waitFailed before left offer ht =>
    exact offer.isChain before before.isChain (.cons_cons .wait (.singleton _))
  | exhausted before left search =>
    refine before.isChain.append search.isChain fun x hx => ?_
    exact search.mayFollow (.inl (before.allowsRetry x hx))

/-! ### How a run begins and ends -/

lemma Unsettled.last_eq (h : Unsettled s intent fees [] last xs) : last = fees := by
  cases h
  rfl

lemma Unsettled.opens (h : Unsettled s intent fees past last xs) (hp : past ≠ []) :
    ∃ answer rest, xs = .submit intent.payload (intent.params fees) answer :: rest := by
  induction h with
  | start => exact absurd rfl hp
  | @again past last next ending xs ys zs before offer failed ih =>
    cases past with
    | nil =>
      cases offer
      rw [before.last_eq] at failed
      rw [before.eq_nil]
      cases failed <;> exact ⟨_, _, rfl⟩
    | cons a past =>
      obtain ⟨answer, rest, rfl⟩ := ih (by simp)
      exact ⟨answer, rest ++ (ys ++ zs), rfl⟩

/-- A submission after attempts that were not included in time is the first one, with the fees that
were given, or stands after the first one. -/
lemma Offer.opens {answer : Except Fault String} (offer : Offer last past ys next)
    (before : Unsettled s intent fees past last xs) :
    ∃ answer' rest, xs ++ (ys ++ .submit intent.payload (intent.params next) answer :: zs) =
      .submit intent.payload (intent.params fees) answer' :: rest := by
  cases offer with
  | given =>
    rw [before.eq_nil, before.last_eq]
    exact ⟨answer, zs, rfl⟩
  | boosted asked boost =>
    obtain ⟨answer', rest, rfl⟩ := before.opens (by simp)
    exact ⟨answer', _, rfl⟩

/-- A run begins with the submission of the given fees. -/
lemma Settled.opens (h : Settled s intent fees xs r) :
    ∃ answer rest, xs = .submit intent.payload (intent.params fees) answer :: rest := by
  cases h with
  | noOffer before left retry offer =>
    obtain ⟨answer, rest, rfl⟩ := before.opens retry
    exact ⟨answer, _, rfl⟩
  | submissionFailed before left offer hr hn => exact offer.opens before
  | nonceUsed before left offer hr hn search => exact offer.opens before
  | included before left offer => exact offer.opens before
  | waitFailed before left offer ht => exact offer.opens before
  | exhausted before left search =>
    have hp : _ ≠ [] := List.ne_nil_of_length_pos (left ▸ s.attempts_pos)
    obtain ⟨answer, rest, rfl⟩ := before.opens hp
    exact ⟨answer, _, rfl⟩

lemma Exchange.AllowsRetry.not_saysNonceUsed {x : Exchange ω} (h : x.AllowsRetry) :
    ¬ x.SaysNonceUsed := by
  cases x with
  | submit payload params answer =>
    cases answer with
    | error f => exact fun hn => hn.1 h
    | ok hash => exact id
  | _ => exact id

lemma Exchange.AllowsRetry.not_isLookup {x : Exchange ω} (h : x.AllowsRetry) : ¬ x.IsLookup := by
  rintro ⟨hash, answer, rfl⟩
  exact h

/-- What holds of lookups and of the last exchange before a search holds of the last exchange. -/
lemma Search.forall_getLast? {P : Exchange ω → Prop} (h : Search bs zs o)
    (lookup : ∀ hash answer, P (.receipt hash answer)) (hxs : ∀ x ∈ xs.getLast?, P x) :
    ∀ x ∈ (xs ++ zs).getLast?, P x := by
  intro x hx
  rcases List.eq_nil_or_concat' zs with rfl | ⟨zs, z, rfl⟩
  · exact hxs x (by simpa using hx)
  · obtain rfl : z = x := by simpa using hx
    obtain ⟨hash, answer, rfl⟩ := h.isLookup z (by simp)
    exact lookup hash answer

lemma Exchange.AllowsRetry.mayEnd {x : Exchange ω} (h : x.AllowsRetry) : x.MayEnd := by
  cases x with
  | submit payload params answer => cases answer <;> simp_all [AllowsRetry, MayEnd]
  | _ => simp_all [AllowsRetry, MayEnd]

/-- A run does not end with a broadcast, nor with a tip that can be read. -/
lemma Settled.mayEnd (h : Settled s intent fees xs r) : ∀ x ∈ xs.getLast?, x.MayEnd := by
  cases h with
  | noOffer before left retry offer =>
    cases offer with
    | suggestion asked =>
      cases asked with
      | noTip tip => simp [Exchange.MayEnd, tip]
      | noCap tip cap => simp [Exchange.MayEnd]
      | invalid tip cap invalid => simp [Exchange.MayEnd]
    | boost asked invalid =>
      cases asked with
      | fees tip cap h₀ h₁ => simp [Exchange.MayEnd]
  | submissionFailed before left offer hr hn => simp [Exchange.MayEnd]
  | @nonceUsed past last next xs ys zs f o before left offer hr hn search =>
    rw [← List.append_assoc, List.append_cons]
    exact search.forall_getLast? (fun _ _ => trivial) (by simp [Exchange.MayEnd])
  | included before left offer => simp [Exchange.MayEnd]
  | waitFailed before left offer ht => simp [Exchange.MayEnd]
  | exhausted before left search =>
    exact search.forall_getLast? (fun _ _ => trivial) fun x hx => (before.allowsRetry x hx).mayEnd

/-- A run ends with an attempt that was refused or waited for in vain only if no attempt is left. -/
lemma Settled.length_submissions_of_allowsRetry (h : Settled s intent fees xs r) :
    ∀ x ∈ xs.getLast?, x.AllowsRetry → (submissions xs).length = s.maxAttempts := by
  cases h with
  | noOffer before left retry offer =>
    cases offer with
    | suggestion asked => cases asked <;> simp [Exchange.AllowsRetry]
    | boost asked invalid =>
      cases asked
      simp [Exchange.AllowsRetry]
  | submissionFailed before left offer hr hn => simp [Exchange.AllowsRetry, ← isRefusal_iff, hr]
  | nonceUsed before left offer hr hn search =>
    rw [← List.append_assoc, List.append_cons]
    exact search.forall_getLast? (fun _ _ => False.elim)
      (by simp [Exchange.AllowsRetry, ← isRefusal_iff, hr])
  | included before left offer => simp [Exchange.AllowsRetry]
  | waitFailed before left offer ht => simp [Exchange.AllowsRetry, ht]
  | exhausted before left search =>
    simp [before.length_submissions, search.submissions_eq_nil, left]

/-- A run submits at most as often as attempts are allowed. -/
lemma Settled.length_submissions_le (h : Settled s intent fees xs r) :
    (submissions xs).length ≤ s.maxAttempts := by
  cases h with
  | noOffer before left retry offer =>
    simp only [submissions_append, List.length_append, before.length_submissions,
      offer.submissions_eq_nil, List.length_nil]
    omega
  | submissionFailed before left offer hr hn =>
    simp [before.length_submissions, offer.submissions_eq_nil]
    omega
  | nonceUsed before left offer hr hn search =>
    simp [before.length_submissions, offer.submissions_eq_nil, search.submissions_eq_nil]
    omega
  | included before left offer =>
    simp [before.length_submissions, offer.submissions_eq_nil]
    omega
  | waitFailed before left offer ht =>
    simp [before.length_submissions, offer.submissions_eq_nil]
    omega
  | exhausted before left search =>
    simp [before.length_submissions, search.submissions_eq_nil]
    omega

/-- The lookups stand at the end of a run, after a submission whose nonce is used or after the last
attempt that is allowed. -/
lemma Settled.exists_lookups (h : Settled s intent fees xs r) :
    ∃ ys zs, xs = ys ++ zs ∧ lookups ys = [] ∧ (∀ z ∈ zs, z.IsLookup) ∧
      (zs ≠ [] → ∃ earlier x, ys = earlier ++ [x] ∧
        (x.SaysNonceUsed ∨ x.AllowsRetry ∧ (submissions ys).length = s.maxAttempts)) := by
  cases h with
  | noOffer before left retry offer =>
    refine ⟨_, [], (List.append_nil _).symm, ?_, by simp, by simp⟩
    simp [before.lookups_eq_nil, offer.lookups_eq_nil]
  | submissionFailed before left offer hr hn =>
    refine ⟨_, [], (List.append_nil _).symm, ?_, by simp, by simp⟩
    simp [before.lookups_eq_nil, offer.lookups_eq_nil]
  | @nonceUsed past last next xs ys zs f o before left offer hr hn search =>
    refine ⟨xs ++ ys ++ [.submit intent.payload (intent.params next) (.error f)], zs, by simp, ?_,
      search.isLookup, fun _ => ?_⟩
    · simp [before.lookups_eq_nil, offer.lookups_eq_nil]
    · exact ⟨xs ++ ys, _, rfl, .inl ((isNonceUsed_iff hr).1 hn)⟩
  | included before left offer =>
    refine ⟨_, [], (List.append_nil _).symm, ?_, by simp, by simp⟩
    simp [before.lookups_eq_nil, offer.lookups_eq_nil]
  | waitFailed before left offer ht =>
    refine ⟨_, [], (List.append_nil _).symm, ?_, by simp, by simp⟩
    simp [before.lookups_eq_nil, offer.lookups_eq_nil]
  | @exhausted past last xs zs o before left search =>
    refine ⟨xs, zs, rfl, before.lookups_eq_nil, search.isLookup, fun _ => ?_⟩
    rcases List.eq_nil_or_concat' xs with rfl | ⟨earlier, x, rfl⟩
    · have hl : past.length = 0 := before.length_submissions.symm
      have hpos := s.attempts_pos
      omega
    · refine ⟨earlier, x, by simp, .inr ⟨before.allowsRetry x (by simp), ?_⟩⟩
      rw [before.length_submissions, left]

/-! ### The discipline -/

/-- What stands around each exchange of a submission. The last attempt in sight is over before
another one begins, so that no two attempts are ever under way. -/
structure Disciplined (s : Submitter) (intent : Intent ω) (fees : Fees) (xs : List (Exchange ω)) :
    Prop where
  /-- The run begins with the submission of the given fees. -/
  opens : ∃ answer rest, xs = .submit intent.payload (intent.params fees) answer :: rest
  /-- Every other submission comes right after one question for a tip and one for a fee cap, both of
  them answered, and these come right after an attempt that was refused or waited for in vain. -/
  resubmits : ∀ {before after payload params answer},
    xs = before ++ .submit payload params answer :: after → before ≠ [] →
    ∃ earlier x y z t c, before = earlier ++ [x, .priorityFee y, .feeCap z] ∧ x.AllowsRetry ∧
      answeredInteger y = .ok t ∧ answeredInteger z = .ok c
  /-- A broadcast is waited for at once, under its hash and for the time that is configured. -/
  awaited : ∀ {before after payload params hash},
    xs = before ++ .submit payload params (.ok hash) :: after →
    ∃ answer rest, after = .wait hash s.timeout answer :: rest
  /-- Nothing else is waited for. -/
  waits : ∀ {before after hash timeout answer}, xs = before ++ .wait hash timeout answer :: after →
    timeout = s.timeout ∧ ∃ earlier payload params,
      before = earlier ++ [.submit payload params (.ok hash)]
  /-- A tip is asked only after an attempt that was refused or waited for in vain; if it can be
  read, the fee cap is asked next, and if not, nothing. -/
  tips : ∀ {before after x}, xs = before ++ .priorityFee x :: after →
    (∃ earlier y, before = earlier ++ [y] ∧ y.AllowsRetry) ∧
    (∀ t, answeredInteger x = .ok t → ∃ answer rest, after = .feeCap answer :: rest) ∧
    (∀ f, answeredInteger x = .error f → after = [])
  /-- A fee cap is asked only after a tip that can be read. -/
  caps : ∀ {before after x}, xs = before ++ .feeCap x :: after →
    ∃ earlier y t, before = earlier ++ [.priorityFee y] ∧ answeredInteger y = .ok t
  /-- An attempt that was refused or waited for in vain is followed by the question for a tip as
  long as attempts are left. -/
  retries : ∀ {before after x}, xs = before ++ x :: after → x.AllowsRetry →
    (submissions (before ++ [x])).length < s.maxAttempts →
    ∃ answer rest, after = .priorityFee answer :: rest
  /-- There are no more submissions than attempts are allowed. -/
  bounded : (submissions xs).length ≤ s.maxAttempts
  /-- After a lookup there are only lookups, and before the first of them stands a submission whose
  nonce is used or the end of the last attempt that is allowed. -/
  looksUp : ∀ {before after hash answer}, xs = before ++ .receipt hash answer :: after →
    (∀ y ∈ after, y.IsLookup) ∧
    ∃ earlier x looked, before = earlier ++ x :: looked ∧ (∀ y ∈ looked, y.IsLookup) ∧
      (x.SaysNonceUsed ∨
        x.AllowsRetry ∧ (submissions (earlier ++ [x])).length = s.maxAttempts)

/-- In a chain, what stands before an element relates to it. -/
lemma exists_of_isChain {α : Type} {R : α → α → Prop} {before after : List α} {y : α}
    (h : (before ++ y :: after).IsChain R) (hb : before ≠ []) :
    ∃ earlier x, before = earlier ++ [x] ∧ R x y := by
  obtain rfl | ⟨earlier, x, rfl⟩ := List.eq_nil_or_concat' before
  · exact absurd rfl hb
  · rw [List.append_assoc, List.singleton_append, List.isChain_append_cons_cons] at h
    exact ⟨earlier, x, by simp, h.2.1⟩

/-- An element of two lists one after the other stands in the first or in the second. -/
lemma split_append {α : Type} {before after ys zs : List α} {x : α}
    (h : before ++ x :: after = ys ++ zs) :
    (∃ mid, ys = before ++ x :: mid ∧ after = mid ++ zs) ∨
      ∃ mid, before = ys ++ mid ∧ zs = mid ++ x :: after := by
  rcases List.append_eq_append_iff.1 h with ⟨mid, rfl, hmid⟩ | ⟨mid, rfl, rfl⟩
  · cases mid with
    | nil => exact .inr ⟨[], by simp, by simpa using hmid.symm⟩
    | cons m mid =>
      obtain ⟨rfl, rfl⟩ := List.cons.inj hmid
      exact .inl ⟨mid, rfl, rfl⟩
  · exact .inr ⟨mid, rfl, rfl⟩

/-- An element that the first part does not hold stands in the second. -/
lemma split_of_notMem {α : Type} {before after ys zs : List α} {x : α}
    (h : before ++ x :: after = ys ++ zs) (hx : x ∉ ys) :
    ∃ mid, before = ys ++ mid ∧ zs = mid ++ x :: after := by
  rcases split_append h with ⟨mid, rfl, -⟩ | hr
  · simp at hx
  · exact hr

lemma receipt_notMem_of_lookups_eq_nil {hash : String} {answer : Except Fault (Option Receipt)}
    (h : lookups xs = []) : .receipt hash answer ∉ xs := by
  intro hx
  have := List.filterMap_eq_nil_iff.1 h _ hx
  simp at this

/-- After a lookup there are only lookups, and before the first of them stands what caused them. -/
lemma Settled.cause_of_lookup {before after : List (Exchange ω)} {hash : String}
    {answer : Except Fault (Option Receipt)} (h : Settled s intent fees xs r)
    (hxs : xs = before ++ .receipt hash answer :: after) :
    (∀ y ∈ after, y.IsLookup) ∧
    ∃ earlier x looked, before = earlier ++ x :: looked ∧ (∀ y ∈ looked, y.IsLookup) ∧
      (x.SaysNonceUsed ∨
        x.AllowsRetry ∧ (submissions (earlier ++ [x])).length = s.maxAttempts) := by
  obtain ⟨ys, zs, rfl, hys, hzs, cause⟩ := h.exists_lookups
  obtain ⟨looked, rfl, rfl⟩ := split_of_notMem hxs.symm (receipt_notMem_of_lookups_eq_nil hys)
  obtain ⟨earlier, x, rfl, hx⟩ := cause (by simp)
  refine ⟨fun y hy => hzs y (by simp [hy]), earlier, x, looked, by simp, ?_, hx⟩
  exact fun y hy => hzs y (by simp [hy])

section Neighbours

variable {before after : List (Exchange ω)} {x : Exchange ω}

/-- Only a submission opens the run: everything else follows something. -/
lemma Settled.exists_previous (h : Settled s intent fees xs r) (hxs : xs = before ++ x :: after)
    (hx : ∀ payload params answer, x ≠ .submit payload params answer) :
    ∃ earlier y, before = earlier ++ [y] ∧ MayFollow s y x := by
  refine exists_of_isChain (hxs ▸ h.isChain) ?_
  rintro rfl
  obtain ⟨answer, rest, opens⟩ := h.opens
  rw [opens] at hxs
  exact hx _ _ _ (List.cons.inj hxs).1.symm

lemma Settled.mayFollow {y : Exchange ω} (h : Settled s intent fees xs r)
    (hxs : xs = before ++ x :: y :: after) : MayFollow s x y := by
  have chain := h.isChain
  rw [hxs, List.isChain_append_cons_cons] at chain
  exact chain.2.1

/-- What may not end the run is followed by something. -/
lemma Settled.exists_next (h : Settled s intent fees xs r) (hxs : xs = before ++ x :: after)
    (hx : ¬ x.MayEnd) : ∃ y tail, after = y :: tail ∧ MayFollow s x y := by
  cases after with
  | nil => exact absurd (h.mayEnd x (by simp [hxs])) hx
  | cons y tail => exact ⟨y, tail, rfl, h.mayFollow hxs⟩

/-- Before another submission stand, from the last on, a fee cap, a tip and an attempt that allows
it. -/
lemma Settled.resubmits {payload : ω} {params : Params} {answer : Except Fault String}
    (h : Settled s intent fees xs r) (hxs : xs = before ++ .submit payload params answer :: after)
    (hb : before ≠ []) : ∃ earlier x y z t c,
      before = earlier ++ [x, .priorityFee y, .feeCap z] ∧ x.AllowsRetry ∧
        answeredInteger y = .ok t ∧ answeredInteger z = .ok c := by
  obtain ⟨before, x, rfl, hx⟩ := exists_of_isChain (hxs ▸ h.isChain) hb
  cases hx with
  | @submit z c payload params answer cap =>
    obtain ⟨before, x, rfl, hx⟩ := h.exists_previous (by simpa using hxs) (by simp)
    cases hx with
    | @cap y answer t tip =>
      obtain ⟨earlier, x, rfl, hx⟩ := h.exists_previous (by simpa using hxs) (by simp)
      cases hx with
      | tip retry => exact ⟨earlier, x, y, z, t, c, by simp, retry, tip, cap⟩

/-- Lookups follow an attempt that allows another one only if it was the last one that is
allowed. -/
lemma Settled.length_submissions_of_lookup {hash : String} {answer : Except Fault (Option Receipt)}
    (h : Settled s intent fees xs r) (hxs : xs = before ++ x :: .receipt hash answer :: after)
    (hx : x.AllowsRetry) : (submissions (before ++ [x])).length = s.maxAttempts := by
  rw [List.append_cons] at hxs
  obtain ⟨-, earlier, y, looked, hb, hl, cause⟩ := h.cause_of_lookup hxs
  obtain rfl | ⟨looked, z, rfl⟩ := List.eq_nil_or_concat' looked
  · obtain ⟨rfl, rfl⟩ : before = earlier ∧ x = y := by simpa using hb
    exact (cause.resolve_left hx.not_saysNonceUsed).2
  · -- the attempt would be a lookup itself
    rw [← List.cons_append, ← List.append_assoc] at hb
    obtain rfl : x = z := by simpa using (List.append_inj' hb rfl).2
    exact absurd (hl x (by simp)) hx.not_isLookup

/-- As long as attempts are left, an attempt that allows another one is followed by it. -/
lemma Settled.retries (h : Settled s intent fees xs r) (hxs : xs = before ++ x :: after)
    (hx : x.AllowsRetry) (left : (submissions (before ++ [x])).length < s.maxAttempts) :
    ∃ answer rest, after = .priorityFee answer :: rest := by
  cases after with
  | nil =>
    have hlast := h.length_submissions_of_allowsRetry x (by simp [hxs]) hx
    rw [hxs] at hlast
    omega
  | cons y tail =>
    cases h.mayFollow hxs with
    | tip retry => exact ⟨_, tail, rfl⟩
    | lookup last =>
      have hmax := h.length_submissions_of_lookup hxs hx
      omega
    | wait => exact hx.elim
    | cap tip => exact hx.elim
    | submit cap => exact hx.elim
    | lookupAgain => exact hx.elim

end Neighbours

/-- Every run of a submission keeps the discipline. -/
theorem submission_disciplined {s : Submitter} {intent : Intent ω} {fees : Fees}
    {es : List (Program.Event (Chain ω))} {r : Except TxError Receipt}
    (run : (submit s intent fees).run.Runs es r) : Disciplined s intent fees (exchanges es) := by
  have settled := settled_of_runs run
  constructor
  case opens => exact settled.opens
  case resubmits => exact fun h hb => settled.resubmits h hb
  case retries => exact fun h hx left => settled.retries h hx left
  case bounded => exact settled.length_submissions_le
  case looksUp => exact fun h => settled.cause_of_lookup h
  case awaited =>
    intro before after payload params hash h
    obtain ⟨y, tail, rfl, hy⟩ := settled.exists_next h (by simp [Exchange.MayEnd])
    obtain ⟨answer, rfl⟩ := hy.eq_wait
    exact ⟨answer, tail, rfl⟩
  case waits =>
    intro before after hash timeout answer h
    obtain ⟨earlier, x, rfl, hx⟩ := settled.exists_previous h (by simp)
    cases hx with
    | wait => exact ⟨rfl, earlier, _, _, rfl⟩
  case caps =>
    intro before after x h
    obtain ⟨earlier, y, rfl, hy⟩ := settled.exists_previous h (by simp)
    cases hy with
    | cap tip => exact ⟨earlier, _, _, rfl, tip⟩
  case tips =>
    intro before after x h
    refine ⟨?_, fun t ht => ?_, fun f hf => ?_⟩
    · obtain ⟨earlier, y, rfl, hy⟩ := settled.exists_previous h (by simp)
      cases hy with
      | tip retry => exact ⟨earlier, y, rfl, retry⟩
    · obtain ⟨y, tail, rfl, hy⟩ := settled.exists_next h (by simp [Exchange.MayEnd, ht])
      obtain ⟨-, answer, rfl⟩ := hy.eq_feeCap
      exact ⟨answer, tail, rfl⟩
    · cases after with
      | nil => rfl
      | cons y tail =>
        obtain ⟨⟨t, ht⟩, -⟩ := (settled.mayFollow h).eq_feeCap
        simp [hf] at ht

/-- A run with a refusal, a wait in vain and a nonce that is used, which ends with a lookup. -/
theorem submission_disciplined_of_used_nonce :
    let s : Submitter := { maxAttempts := 3 }
    let intent : Intent Unit := { payload := (), sender := "0xa" }
    let fees : Fees := { tip := 1, feeCap := 10, gasLimit := 21000, nonce := 7 }
    let r : Receipt := { hash := "0x1", blockNumber := 5, status := 1, gasUsed := 0 }
    let script : List (Exchange Unit) := [
      .submit () (intent.params fees) (.error (.reported .value "Already Known")),
      .priorityFee (.ok (.int 2)), .feeCap (.ok (.int 20)),
      .submit () (intent.params { fees with tip := 3, feeCap := 23 }) (.ok "0x1"),
      .wait "0x1" s.timeout (.error (.notIncluded "0x1" "60")),
      .priorityFee (.ok (.int 0)), .feeCap (.ok (.int 5)),
      .submit () (intent.params { fees with tip := 4, feeCap := 27 })
        (.error (.reported .value "nonce too low")),
      .receipt "0x1" (.ok (some r))]
    let program := (submit s intent fees).run
    (program.run Chain.scripted script).1 = .ok r ∧
      (exchanges (program.trace Chain.scripted script)).length = 9 ∧
      Disciplined s intent fees (exchanges (program.trace Chain.scripted script)) :=
  ⟨by decide +kernel, by decide +kernel, submission_disciplined (Program.runs_trace _ _ _)⟩

/-- Lookups are made also when no nonce is used: after the last attempt that is allowed. -/
theorem lookups_not_only_after_used_nonce :
    ¬ ∀ (s : Submitter) (intent : Intent Unit) (fees : Fees)
      (es : List (Program.Event (Chain Unit))) (r : Except TxError Receipt), fees.Valid →
      (submit s intent fees).run.Runs es r →
      ∀ before after hash answer, exchanges es = before ++ .receipt hash answer :: after →
        ∃ x ∈ before, x.SaysNonceUsed := by
  intro h
  let intent : Intent Unit := { payload := (), sender := "0xa" }
  let fees : Fees := { tip := 1, feeCap := 10, gasLimit := 21000, nonce := 7 }
  let script : List (Exchange Unit) := [
    .submit () (intent.params fees) (.ok "0xhash1"),
    .wait "0xhash1" (.whole 60) (.error (.notIncluded "0xhash1" "60")),
    .receipt "0xhash1" (.ok none)]
  have valid : fees.Valid := ⟨by decide, by decide, by decide, by decide⟩
  obtain ⟨x, hx, hn⟩ := h { maxAttempts := 1 } intent fees _ _ valid
    (Program.runs_trace Chain.scripted _ script) (script.take 2) [] "0xhash1" (.ok none) rfl
  simp only [script, List.take, List.mem_cons, List.not_mem_nil, or_false] at hx
  rcases hx with rfl | rfl <;> exact hn

end StakeRegistry.Tx
