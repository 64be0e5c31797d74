/-
Which receipt a submission ends with.

A receipt that a submission returns was answered to its last wait or to its last lookup. When a
nonce is used, and when no attempt is left, the broadcasts are looked up, the newest first:
`NewestFirst` says that the first lookup that is not answered by nothing decides how the run ends,
and what happens if there is none. The main statement is `receipts_faithful`.
-/
import StakeRegistry.Proofs.Tx.CallDiscipline

namespace StakeRegistry.Tx

variable {ω : Type} {s : Submitter} {intent : Intent ω} {fees last next : Fees}
  {past : List Attempt} {xs ys zs : List (Exchange ω)} {bs : List (Nat × String)}
  {o : Except TxError (Option Receipt)} {r : Except TxError Receipt}

/-- The lookup of a broadcast that is answered by nothing. -/
def absent (b : Nat × String) : String × Except Fault (Option Receipt) :=
  (b.2, .ok none)

/-- The lookups `ls` of the broadcasts `bs`, the newest first, decide the result `r`, which is the
error `e` if nothing is found. -/
structure NewestFirst (bs : List (Nat × String))
    (ls : List (String × Except Fault (Option Receipt))) (r : Except TxError Receipt)
    (e : TxError) : Prop where
  /-- A receipt is returned if it belongs to the newest broadcast that is not answered by
  nothing. -/
  found : ∀ receipt, r = .ok receipt ↔ ∃ newer b older, bs = newer ++ b :: older ∧
    ls = newer.map absent ++ [(b.2, .ok (some receipt))]
  /-- A lookup that fails ends the search, and is named with the place of its attempt. -/
  failed : ∀ i hash f, r = .error (.lookupFailed hash i f) ↔ ∃ newer older,
    bs = newer ++ (i, hash) :: older ∧ ls = newer.map absent ++ [(hash, .error f)]
  /-- The error is raised exactly if every lookup is answered by nothing. -/
  nothing : r = .error e ↔ ls = bs.map absent
  /-- There are no other ends. -/
  decided : (∃ receipt, r = .ok receipt) ∨ (∃ i hash f, r = .error (.lookupFailed hash i f)) ∨
    r = .error e

/-- Everything that was submitted was refused or waited for in vain, as often as attempts are
allowed. -/
structure AllInVain (s : Submitter) (xs : List (Exchange ω)) : Prop where
  submitted : (submissions xs).length = s.maxAttempts
  refused : ∀ {payload params f}, .submit payload params (.error f) ∈ xs → Refused f
  timedOut : ∀ {hash timeout answer}, .wait hash timeout answer ∈ xs →
    ∃ f, answer = .error f ∧ f.isTimeout = true

/-- How the result of a submission depends on what was asked and answered. -/
structure ReceiptsFaithful (s : Submitter) (intent : Intent ω) (xs : List (Exchange ω))
    (r : Except TxError Receipt) : Prop where
  /-- A receipt that is returned is the last answer of the chain: to the wait for the hash that was
  just broadcast, or to the lookup of a hash that was broadcast earlier and is not empty. -/
  answered : ∀ {receipt}, r = .ok receipt →
    (∃ earlier payload params hash,
      xs = earlier ++ [.submit payload params (.ok hash), .wait hash s.timeout (.ok receipt)]) ∨
    ∃ earlier hash payload params, xs = earlier ++ [.receipt hash (.ok (some receipt))] ∧
      hash ≠ "" ∧ .submit payload params (.ok hash) ∈ earlier
  /-- The attempts are exhausted exactly if all of them were in vain and the lookups of all
  broadcasts are answered by nothing. -/
  exhausted_iff : (∃ description limit attempts,
      r = .error (.exhausted description limit attempts)) ↔
    AllInVain s xs ∧ lookups xs = (broadcasts xs).map absent
  /-- After a submission whose nonce is used, what was broadcast before it decides. -/
  nonceUsed : ∀ {before after payload params f},
    xs = before ++ .submit payload params (.error f) :: after → NonceUsed f →
    lookups before = [] ∧ NewestFirst (broadcasts before) (lookups after) r
      (.submissionFailed intent.description (submissions before).length f)
  /-- After attempts that were all in vain, everything that was broadcast decides. -/
  allInVain : AllInVain s xs → ∃ attempts, NewestFirst (broadcasts xs) (lookups xs) r
    (.exhausted intent.description s.maxAttempts attempts)

/-! ### Searching the newest first -/

/-- A search ends without a receipt, with one or with a failure, after lookups that were answered by
nothing. -/
lemma Search.cases (h : Search bs zs o) :
    (o = .ok none ∧ lookups zs = bs.map absent) ∨
    (∃ receipt newer b older, o = .ok (some receipt) ∧ bs = newer ++ b :: older ∧
      lookups zs = newer.map absent ++ [(b.2, .ok (some receipt))]) ∨
    (∃ i hash f newer older, o = .error (.lookupFailed hash i f) ∧
      bs = newer ++ (i, hash) :: older ∧ lookups zs = newer.map absent ++ [(hash, .error f)]) := by
  induction h with
  | nothing => exact .inl ⟨rfl, rfl⟩
  | @found i hash bs r => exact .inr (.inl ⟨r, [], (i, hash), bs, rfl, rfl, rfl⟩)
  | @failed i hash bs f => exact .inr (.inr ⟨i, hash, f, [], bs, rfl, rfl, rfl⟩)
  | @missing i hash bs xs o rest ih =>
    rcases ih with ⟨ho, hl⟩ | ⟨r, newer, b, older, ho, rfl, hl⟩ |
      ⟨j, hash', f, newer, older, ho, rfl, hl⟩
    · exact .inl ⟨ho, by simp [hl, absent]⟩
    · exact .inr (.inl ⟨r, (i, hash) :: newer, b, older, ho, rfl, by simp [hl, absent]⟩)
    · exact .inr (.inr ⟨j, hash', f, (i, hash) :: newer, older, ho, rfl, by simp [hl, absent]⟩)

/-- Lookups that are all answered by nothing do not end with another answer. -/
lemma map_absent_ne_append {newer : List (Nat × String)} {hash : String}
    {x : Except Fault (Option Receipt)} (hx : x ≠ .ok none) :
    bs.map absent ≠ newer.map absent ++ [(hash, x)] := by
  intro h
  have hmem : (hash, x) ∈ bs.map absent := by simp [h]
  obtain ⟨b, -, hb⟩ := List.mem_map.1 hmem
  exact hx (Prod.mk.inj hb).2.symm

/-- The lookup that decides is determined by all lookups. -/
lemma newest_unique {newer newer' : List (Nat × String)} {hash hash' : String}
    {x x' : Except Fault (Option Receipt)}
    (h : newer.map absent ++ [(hash, x)] = newer'.map absent ++ [(hash', x')]) :
    newer.length = newer'.length ∧ hash = hash' ∧ x = x' := by
  obtain ⟨hn, hx⟩ := List.append_inj' h rfl
  exact ⟨by simpa using congrArg List.length hn, by simpa using hx⟩

lemma Search.newestFirst {e : TxError} (h : Search bs zs o)
    (he : ∀ hash i f, e ≠ .lookupFailed hash i f) :
    NewestFirst bs (lookups zs) (foundOr e o) e := by
  rcases h.cases with ⟨rfl, hl⟩ | ⟨r, newer, b, older, rfl, hbs, hl⟩ |
    ⟨i, hash, f, newer, older, rfl, hbs, hl⟩ <;> rw [hl]
  · -- every lookup was answered by nothing
    refine ⟨fun receipt => ?_, fun i hash f => ?_, by simp [foundOr], .inr (.inr rfl)⟩
    · simp [foundOr, map_absent_ne_append]
    · simp [foundOr, map_absent_ne_append, he]
  · -- a receipt was found, and it is the only one that the lookups can show
    refine ⟨fun receipt => ⟨?_, ?_⟩, fun i hash f => ⟨by simp [foundOr], ?_⟩, ?_, .inl ⟨r, rfl⟩⟩
    · intro hr
      obtain rfl : r = receipt := by simpa [foundOr] using hr
      exact ⟨newer, b, older, hbs, rfl⟩
    · rintro ⟨newer', b', older', -, hl'⟩
      obtain ⟨-, -, hx⟩ := newest_unique hl'
      cases hx
      rfl
    · rintro ⟨newer', older', -, hl'⟩
      obtain ⟨-, -, hx⟩ := newest_unique hl'
      cases hx
    · simp [foundOr, (map_absent_ne_append _).symm]
  · -- a lookup failed, and the place of its attempt is determined by the lookups before it
    refine ⟨fun receipt => ⟨by simp [foundOr], ?_⟩, fun i' hash' f' => ⟨?_, ?_⟩, ?_,
      .inr (.inl ⟨i, hash, f, rfl⟩)⟩
    · rintro ⟨newer', b', older', -, hl'⟩
      obtain ⟨-, -, hx⟩ := newest_unique hl'
      cases hx
    · intro hr
      obtain ⟨rfl, rfl, rfl⟩ : hash = hash' ∧ i = i' ∧ f = f' := by simpa [foundOr] using hr
      exact ⟨newer, older, hbs, rfl⟩
    · rintro ⟨newer', older', hbs', hl'⟩
      obtain ⟨hn, rfl, hx⟩ := newest_unique hl'
      cases hx
      obtain ⟨-, hb⟩ := List.append_inj (hbs.symm.trans hbs') hn
      cases hb
      rfl
    · simp [foundOr, (map_absent_ne_append _).symm, (he hash i f).symm]

/-! ### The attempts -/

lemma submit_notMem_of_submissions_eq_nil {payload : ω} {params : Params}
    {answer : Except Fault String} (h : submissions xs = []) :
    .submit payload params answer ∉ xs := by
  intro hx
  have hm := mem_submissions.2 ⟨payload, hx⟩
  simp [h] at hm

lemma Suggests.wait_notMem {r : Except TxError Suggestion} {hash : String} {timeout : Seconds}
    {answer : Except Fault Receipt} (h : Suggests xs r) : .wait hash timeout answer ∉ xs := by
  cases h <;> simp

lemma Offer.wait_notMem {hash : String} {timeout : Seconds} {answer : Except Fault Receipt}
    (h : Offer last past xs next) : .wait hash timeout answer ∉ xs := by
  cases h with
  | given => simp
  | boosted asked boost => exact asked.wait_notMem

/-- What was refused or timed out among the attempts so far was refused or timed out. -/
lemma Unsettled.inVain (h : Unsettled s intent fees past last xs) :
    (∀ payload params f, .submit payload params (.error f) ∈ xs → Refused f) ∧
      ∀ hash timeout answer, .wait hash timeout answer ∈ xs →
        ∃ f, answer = .error f ∧ f.isTimeout = true := by
  induction h with
  | start => simp
  | again before offer failed ih =>
    refine ⟨fun payload params f hx => ?_, fun hash timeout answer hx => ?_⟩
    · rcases List.mem_append.1 hx with hx | hx
      · exact ih.1 _ _ _ hx
      rcases List.mem_append.1 hx with hx | hx
      · exact absurd hx (submit_notMem_of_submissions_eq_nil offer.submissions_eq_nil)
      cases failed with
      | @refused f' hr =>
        obtain ⟨-, -, rfl⟩ : _ ∧ _ ∧ f = f' := by simpa using hx
        exact isRefusal_iff.1 hr
      | timedOut ht => simp at hx
    · rcases List.mem_append.1 hx with hx | hx
      · exact ih.2 _ _ _ hx
      rcases List.mem_append.1 hx with hx | hx
      · exact absurd hx offer.wait_notMem
      cases failed with
      | refused hr => simp at hx
      | @timedOut f hash' ht =>
        obtain ⟨-, -, rfl⟩ : _ ∧ _ ∧ answer = .error f := by simpa using hx
        exact ⟨f, rfl, ht⟩

/-- The receipt that a search finds is the answer to its last lookup. -/
lemma Search.eq_append {receipt : Receipt} (h : Search bs zs (.ok (some receipt))) :
    ∃ looked i hash, zs = looked ++ [.receipt hash (.ok (some receipt))] ∧ (i, hash) ∈ bs := by
  generalize ho : (.ok (some receipt) : Except TxError (Option Receipt)) = o at h
  induction h with
  | nothing => simp at ho
  | failed => simp at ho
  | @found i hash bs r =>
    obtain rfl : receipt = r := by simpa using ho
    exact ⟨[], i, hash, rfl, by simp⟩
  | @missing i hash bs xs o rest ih =>
    obtain ⟨looked, j, hash', rfl, hmem⟩ := ih ho
    exact ⟨.receipt hash (.ok none) :: looked, j, hash', rfl, by simp [hmem]⟩

/-- A receipt that is found was broadcast by one of the attempts. -/
lemma Unsettled.exists_submit {i : Nat} {hash : String} (h : Unsettled s intent fees past last xs)
    (hb : (i, hash) ∈ named past) :
    hash ≠ "" ∧ ∃ payload params, .submit payload params (.ok hash) ∈ xs := by
  rw [← h.broadcasts_eq, mem_broadcasts] at hb
  obtain ⟨hne, params, hi⟩ := hb
  obtain ⟨payload, hx⟩ := mem_submissions.1 (List.mem_of_getElem? hi)
  exact ⟨hne, payload, params, hx⟩

lemma foundOr_eq_ok_iff {e : TxError} {receipt : Receipt} :
    foundOr e o = .ok receipt ↔ o = .ok (some receipt) := by
  rcases o with e' | _ | r <;> simp [foundOr]

lemma Settled.answered {receipt : Receipt} (h : Settled s intent fees xs (.ok receipt)) :
    (∃ earlier payload params hash,
      xs = earlier ++ [.submit payload params (.ok hash), .wait hash s.timeout (.ok receipt)]) ∨
    ∃ earlier hash payload params, xs = earlier ++ [.receipt hash (.ok (some receipt))] ∧
      hash ≠ "" ∧ .submit payload params (.ok hash) ∈ earlier := by
  generalize hr : (.ok receipt : Except TxError Receipt) = r at h
  cases h with
  | noOffer before left retry offer => cases hr
  | submissionFailed before left offer hr hn => cases hr
  | waitFailed before left offer ht => cases hr
  | @included past last next xs ys hash r before left offer =>
    cases hr
    exact .inl ⟨xs ++ ys, intent.payload, intent.params next, hash, by simp⟩
  | @nonceUsed past last next xs ys zs f o before left offer hf hn search =>
    obtain rfl := foundOr_eq_ok_iff.1 hr.symm
    obtain ⟨looked, i, hash, rfl, hmem⟩ := search.eq_append
    obtain ⟨hne, payload, params, hx⟩ := before.exists_submit hmem
    exact .inr ⟨xs ++ (ys ++ .submit intent.payload (intent.params next) (.error f) :: looked),
      hash, payload, params, by simp, hne, by simp [hx]⟩
  | @exhausted past last xs zs o before left search =>
    obtain rfl := foundOr_eq_ok_iff.1 hr.symm
    obtain ⟨looked, i, hash, rfl, hmem⟩ := search.eq_append
    obtain ⟨hne, payload, params, hx⟩ := before.exists_submit hmem
    exact .inr ⟨xs ++ looked, hash, payload, params, by simp, hne, by simp [hx]⟩

/-! ### The two places that search -/

/-- Attempts that are all in vain leave only the search. -/
lemma Settled.exists_search (h : Settled s intent fees xs r) (hv : AllInVain s xs) :
    ∃ past last ys zs o, xs = ys ++ zs ∧ Unsettled s intent fees past last ys ∧
      past.length = s.maxAttempts ∧ Search (named past) zs o ∧
      r = foundOr (.exhausted intent.description s.maxAttempts past.reverse) o := by
  cases h with
  | noOffer before left retry offer =>
    have hs := hv.submitted
    simp [before.length_submissions, offer.submissions_eq_nil] at hs
    omega
  | submissionFailed before left offer hr hn =>
    have hf := hv.refused (List.mem_append_right _ (List.mem_append_right _ List.mem_cons_self))
    simp [isRefusal_iff.2 hf] at hr
  | nonceUsed before left offer hr hn search =>
    have hf := hv.refused (List.mem_append_right _ (List.mem_append_right _ List.mem_cons_self))
    simp [isRefusal_iff.2 hf] at hr
  | included before left offer =>
    obtain ⟨f, hf, -⟩ := hv.timedOut (List.mem_append_right _ (List.mem_append_right _
      (List.mem_cons_of_mem _ List.mem_cons_self)))
    cases hf
  | waitFailed before left offer ht =>
    obtain ⟨f', hf, ht'⟩ := hv.timedOut (List.mem_append_right _ (List.mem_append_right _
      (List.mem_cons_of_mem _ List.mem_cons_self)))
    cases hf
    simp [ht] at ht'
  | exhausted before left search => exact ⟨_, _, _, _, _, rfl, before, left, search, rfl⟩

/-- A submission that is neither answered nor refused is none of the attempts so far. -/
lemma Unsettled.submit_notMem {payload : ω} {params : Params} {f : Fault}
    (h : Unsettled s intent fees past last xs) (hys : submissions ys = []) (hf : ¬ Refused f) :
    .submit payload params (.error f) ∉ xs ++ ys := by
  intro hx
  rcases List.mem_append.1 hx with hx | hx
  · exact hf (h.inVain.1 _ _ _ hx)
  · exact submit_notMem_of_submissions_eq_nil hys hx

/-- So it is made after the questions for its fees. -/
lemma Offer.submit_mem {payload : ω} {params : Params} {f : Fault} (offer : Offer last past ys next)
    (unsettled : Unsettled s intent fees past last xs) (hf : ¬ Refused f)
    (h : .submit payload params (.error f) ∈ xs ++ (ys ++ zs)) :
    .submit payload params (.error f) ∈ zs := by
  rw [← List.append_assoc] at h
  exact (List.mem_append.1 h).resolve_left (unsettled.submit_notMem offer.submissions_eq_nil hf)

/-- A submission whose nonce is used is the one that the search follows. -/
lemma Settled.newestFirst_of_nonceUsed {before after : List (Exchange ω)} {payload : ω}
    {params : Params} {f : Fault} (h : Settled s intent fees xs r)
    (hxs : xs = before ++ .submit payload params (.error f) :: after) (hf : NonceUsed f) :
    lookups before = [] ∧ NewestFirst (broadcasts before) (lookups after) r
      (.submissionFailed intent.description (submissions before).length f) := by
  have hmem : .submit payload params (.error f) ∈ xs := by simp [hxs]
  cases h with
  | noOffer unsettled left retry offer =>
    exact absurd hmem (unsettled.submit_notMem offer.submissions_eq_nil hf.1)
  | exhausted unsettled left search =>
    exact absurd hmem (unsettled.submit_notMem search.submissions_eq_nil hf.1)
  | included unsettled left offer =>
    have hx := offer.submit_mem unsettled hf.1 hmem
    simp at hx
  | waitFailed unsettled left offer ht =>
    have hx := offer.submit_mem unsettled hf.1 hmem
    simp at hx
  | submissionFailed unsettled left offer hr hn =>
    have hx := offer.submit_mem unsettled hf.1 hmem
    obtain ⟨-, -, rfl⟩ := by simpa using hx
    simp [(isNonceUsed_iff hr).2 hf] at hn
  | @nonceUsed past last next xs ys zs f' o unsettled left offer hr hn search =>
    rw [← List.append_assoc] at hxs
    obtain ⟨mid, rfl, hmid⟩ := split_of_notMem hxs.symm
      (unsettled.submit_notMem offer.submissions_eq_nil hf.1)
    cases mid with
    | cons m mid =>
      -- the submission would be one of the lookups
      rw [List.cons_append] at hmid
      have hzs : .submit payload params (.error f) ∈ zs := by simp [(List.cons.inj hmid).2]
      exact absurd hzs (submit_notMem_of_submissions_eq_nil search.submissions_eq_nil)
    | nil =>
      obtain ⟨⟨-, -, rfl⟩, rfl⟩ : (_ ∧ _ ∧ f' = f) ∧ zs = after := by simpa using hmid
      have hk : (submissions (xs ++ ys ++ [])).length = past.length := by
        simp [unsettled.length_submissions, offer.submissions_eq_nil]
      have hb : broadcasts (xs ++ ys ++ []) = named past := by
        rw [List.append_nil, broadcasts_append_of_submissions_eq_nil offer.submissions_eq_nil,
          unsettled.broadcasts_eq]
      rw [hk, hb]
      exact ⟨by simp [unsettled.lookups_eq_nil, offer.lookups_eq_nil], search.newestFirst (by simp)⟩

lemma Settled.newestFirst_of_inVain (h : Settled s intent fees xs r) (hv : AllInVain s xs) :
    ∃ attempts, NewestFirst (broadcasts xs) (lookups xs) r
      (.exhausted intent.description s.maxAttempts attempts) := by
  obtain ⟨past, last, ys, zs, o, rfl, before, left, search, rfl⟩ := h.exists_search hv
  refine ⟨past.reverse, ?_⟩
  rw [broadcasts_append_of_submissions_eq_nil search.submissions_eq_nil, before.broadcasts_eq,
    lookups_append, before.lookups_eq_nil]
  exact search.newestFirst (by simp)

/-- The search that ends a run ends it with the given error, or with one that names a lookup. -/
lemma Search.foundOr_eq_error {e e' : TxError} (search : Search bs zs o)
    (h : foundOr e o = .error e') : e' = e ∨ ∃ i hash f, e' = .lookupFailed hash i f := by
  rcases search.cases with
    ⟨rfl, -⟩ | ⟨r, newer, b, older, rfl, -⟩ | ⟨i, hash, f, newer, older, rfl, -⟩
  · exact .inl (Except.error.inj h).symm
  · cases h
  · exact .inr ⟨i, hash, f, (Except.error.inj h).symm⟩

lemma NoOffer.ne_exhausted {e : TxError} {description : String} {limit : Nat}
    {attempts : List Attempt} (h : NoOffer last xs e) :
    e ≠ .exhausted description limit attempts := by
  cases h with
  | suggestion asked => cases asked <;> simp
  | boost asked invalid => simp

/-- A search adds neither submissions nor waits to attempts that were not included in time. -/
lemma Unsettled.allInVain (h : Unsettled s intent fees past last xs)
    (left : past.length = s.maxAttempts) (search : Search bs zs o) : AllInVain s (xs ++ zs) where
  submitted := by simp [h.length_submissions, search.submissions_eq_nil, left]
  refused := by
    intro payload params f hx
    rcases List.mem_append.1 hx with hx | hx
    · exact h.inVain.1 _ _ _ hx
    · exact absurd hx (submit_notMem_of_submissions_eq_nil search.submissions_eq_nil)
  timedOut := by
    intro hash timeout answer hx
    rcases List.mem_append.1 hx with hx | hx
    · exact h.inVain.2 _ _ _ hx
    · obtain ⟨hash', answer', hx⟩ := search.isLookup _ hx
      cases hx

/-- Only attempts that are all in vain are exhausted. -/
lemma Settled.inVain_of_exhausted {description : String} {limit : Nat} {attempts : List Attempt}
    (h : Settled s intent fees xs (.error (.exhausted description limit attempts))) :
    AllInVain s xs := by
  generalize hr : Except.error (TxError.exhausted description limit attempts) = r at h
  cases h with
  | noOffer before left retry offer => exact absurd (Except.error.inj hr).symm offer.ne_exhausted
  | submissionFailed before left offer hf hn => cases hr
  | included before left offer => cases hr
  | waitFailed before left offer ht => cases hr
  | nonceUsed before left offer hf hn search =>
    rcases search.foundOr_eq_error hr.symm with he | ⟨i, hash, f', he⟩ <;> cases he
  | exhausted before left search => exact before.allInVain left search

end StakeRegistry.Tx
