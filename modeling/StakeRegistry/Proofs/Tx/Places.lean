/-
What one place in a run of a submission says about the rest of it.

* A question for a tip stands before the last attempt that is allowed (`Settled.left_of_tip`).
* A wait that is answered ends the run, unless it was in vain (`Settled.wait_decides`).
* A lookup is one of a hash that was broadcast before it. If it is answered by nothing, the search
  goes on with an older broadcast or the submission fails; every other answer ends the run
  (`Settled.lookup_decides`).
-/
import StakeRegistry.Proofs.Tx.Receipts

namespace StakeRegistry.Tx

variable {ω : Type} {s : Submitter} {intent : Intent ω} {fees last next : Fees}
  {past : List Attempt} {xs ys zs before after : List (Exchange ω)} {bs : List (Nat × String)}
  {o : Except TxError (Option Receipt)} {r : Except TxError Receipt}

/-- The only element of a list has nothing around it. -/
lemma split_singleton {α : Type} {before after : List α} {x y : α}
    (h : before ++ x :: after = [y]) :
    before = [] ∧ x = y ∧ after = [] := by
  cases before with
  | nil => simpa using h
  | cons z before => simp at h

/-! ### Questions for a tip -/

lemma submissions_prefix_eq_nil {x : Exchange ω} (h : submissions (before ++ x :: after) = []) :
    submissions before = [] := by
  rw [submissions_append] at h
  exact (List.append_eq_nil_iff.1 h).1

lemma Failed.tip_notMem {ending : Ending} {answer : Except Fault Json.Value}
    (h : Failed s intent next ending xs) : .priorityFee answer ∉ xs := by
  cases h <;> simp

lemma Search.tip_notMem {answer : Except Fault Json.Value} (h : Search bs xs o) :
    .priorityFee answer ∉ xs := by
  intro hx
  obtain ⟨hash, answer', heq⟩ := h.isLookup _ hx
  cases heq

lemma Search.wait_notMem {hash : String} {timeout : Seconds} {answer : Except Fault Receipt}
    (h : Search bs xs o) : .wait hash timeout answer ∉ xs := by
  intro hx
  obtain ⟨hash', answer', heq⟩ := h.isLookup _ hx
  cases heq

/-- Each question for a tip among the attempts so far stands before another one of them. -/
lemma Unsettled.lt_of_tip {answer : Except Fault Json.Value}
    (h : Unsettled s intent fees past last xs) (hxs : xs = before ++ .priorityFee answer :: after) :
    (submissions before).length < past.length := by
  induction h generalizing before after with
  | start => simp at hxs
  | @again past last next ending xs ys zs unsettled offer failed ih =>
    -- the tip stands before the last offer, in it, or in the attempt after it
    rcases split_append hxs.symm with ⟨mid, rfl, -⟩ | ⟨mid, rfl, hmid⟩
    · have hlt := ih rfl
      rw [List.length_cons]
      omega
    · obtain ⟨rest, rfl, -⟩ | ⟨rest, -, rfl⟩ := split_append hmid.symm
      · have none := submissions_prefix_eq_nil offer.submissions_eq_nil
        simp [unsettled.length_submissions, none]
      · exact absurd (List.mem_append_right _ List.mem_cons_self) failed.tip_notMem

/-- The same for the question for a tip that stands before the next attempt, or in its place. -/
lemma Unsettled.le_of_tip {answer : Except Fault Json.Value}
    (h : Unsettled s intent fees past last xs) (hys : submissions ys = [])
    (hxs : xs ++ ys = before ++ .priorityFee answer :: after) :
    (submissions before).length ≤ past.length := by
  rcases split_append hxs.symm with ⟨mid, rfl, -⟩ | ⟨mid, rfl, rfl⟩
  · exact (h.lt_of_tip rfl).le
  · have none := submissions_prefix_eq_nil hys
    simp [h.length_submissions, none]

lemma Unsettled.left_of_tip {answer : Except Fault Json.Value}
    (h : Unsettled s intent fees past last xs) (left : past.length < s.maxAttempts)
    (hys : submissions ys = []) (hzs : .priorityFee answer ∉ zs)
    (hxs : xs ++ (ys ++ zs) = before ++ .priorityFee answer :: after) :
    (submissions before).length < s.maxAttempts := by
  rw [← List.append_assoc] at hxs
  rcases split_append hxs.symm with ⟨mid, hmid, -⟩ | ⟨mid, -, rfl⟩
  · have hle := h.le_of_tip hys hmid
    omega
  · exact absurd (List.mem_append_right _ List.mem_cons_self) hzs

/-- A tip is asked only as long as attempts are left. -/
lemma Settled.left_of_tip {answer : Except Fault Json.Value} (h : Settled s intent fees xs r)
    (hxs : xs = before ++ .priorityFee answer :: after) :
    (submissions before).length < s.maxAttempts := by
  cases h with
  | noOffer unsettled left retry offer =>
    have hle := unsettled.le_of_tip offer.submissions_eq_nil hxs
    omega
  | submissionFailed unsettled left offer hr hn =>
    exact unsettled.left_of_tip left offer.submissions_eq_nil (by simp) hxs
  | nonceUsed unsettled left offer hr hn search =>
    refine unsettled.left_of_tip left offer.submissions_eq_nil ?_ hxs
    simp [search.tip_notMem]
  | included unsettled left offer =>
    exact unsettled.left_of_tip left offer.submissions_eq_nil (by simp) hxs
  | waitFailed unsettled left offer ht =>
    exact unsettled.left_of_tip left offer.submissions_eq_nil (by simp) hxs
  | exhausted unsettled left search =>
    obtain ⟨mid, rfl, -⟩ | ⟨mid, -, rfl⟩ := split_append hxs.symm
    · have hlt := unsettled.lt_of_tip rfl
      omega
    · exact absurd (List.mem_append_right _ List.mem_cons_self) search.tip_notMem

/-! ### Waits -/

section Waits

variable {hash : String} {timeout : Seconds} {answer : Except Fault Receipt}

/-- Among the attempts so far there is no wait that was not in vain. -/
lemma Unsettled.wait_notMem (h : Unsettled s intent fees past last xs)
    (hf : ∀ f, answer = .error f → f.isTimeout = false) : .wait hash timeout answer ∉ xs := by
  intro hx
  obtain ⟨f, rfl, ht⟩ := h.inVain.2 _ _ _ hx
  simp [hf f rfl] at ht

lemma NoOffer.wait_notMem {e : TxError} (h : NoOffer last xs e) :
    .wait hash timeout answer ∉ xs := by
  cases h with
  | suggestion asked => exact asked.wait_notMem
  | boost asked invalid => exact asked.wait_notMem

/-- After the attempts so far and the questions for the next one, such a wait is the one for it. -/
lemma Offer.split_wait {hash' : String} {x : Except Fault Receipt} (offer : Offer last past ys next)
    (unsettled : Unsettled s intent fees past last xs)
    (hf : ∀ f, answer = .error f → f.isTimeout = false)
    (h : before ++ .wait hash timeout answer :: after = xs ++ (ys ++
      [.submit intent.payload (intent.params next) (.ok hash'), .wait hash' s.timeout x])) :
    after = [] ∧ (submissions before).length = past.length + 1 ∧ hash = hash' ∧ answer = x := by
  obtain ⟨mid, rfl, hmid⟩ := split_of_notMem h (unsettled.wait_notMem hf)
  obtain ⟨mid, rfl, hends⟩ := split_of_notMem hmid.symm offer.wait_notMem
  cases mid with
  | nil => simp at hends
  | cons y mid =>
    obtain ⟨rfl, hlast⟩ := List.cons.inj hends
    obtain ⟨rfl, hx, rfl⟩ := split_singleton hlast.symm
    obtain ⟨rfl, -, rfl⟩ : hash = hash' ∧ timeout = s.timeout ∧ answer = x := by simpa using hx
    refine ⟨rfl, ?_, rfl, rfl⟩
    simp [unsettled.length_submissions, offer.submissions_eq_nil]

/-- A wait that was not in vain is the last exchange of the run, which ends with its answer. -/
lemma Settled.wait_decides (h : Settled s intent fees xs r)
    (hf : ∀ f, answer = .error f → f.isTimeout = false)
    (hxs : xs = before ++ .wait hash timeout answer :: after) :
    after = [] ∧ ∃ i, (submissions before).length = i + 1 ∧
      r = answer.mapError (.waitFailed intent.description hash i) := by
  have hmem : .wait hash timeout answer ∈ xs := by simp [hxs]
  cases h with
  | noOffer unsettled left retry offer =>
    rcases List.mem_append.1 hmem with hx | hx
    · exact absurd hx (unsettled.wait_notMem hf)
    · exact absurd hx offer.wait_notMem
  | submissionFailed unsettled left offer hr hn =>
    simp [unsettled.wait_notMem hf, offer.wait_notMem] at hmem
  | nonceUsed unsettled left offer hr hn search =>
    simp [unsettled.wait_notMem hf, offer.wait_notMem, search.wait_notMem] at hmem
  | included unsettled left offer =>
    obtain ⟨rfl, hl, rfl, rfl⟩ := offer.split_wait unsettled hf hxs.symm
    exact ⟨rfl, _, hl, rfl⟩
  | waitFailed unsettled left offer ht =>
    obtain ⟨rfl, hl, rfl, rfl⟩ := offer.split_wait unsettled hf hxs.symm
    exact ⟨rfl, _, hl, rfl⟩
  | exhausted unsettled left search =>
    simp [unsettled.wait_notMem hf, search.wait_notMem] at hmem

end Waits

/-! ### Lookups -/

/-- The error is one with which a submission ends if no broadcast is found. -/
def TxError.GivesUp : TxError → Prop
  | submissionFailed _ _ _ => True
  | exhausted _ _ _ => True
  | _ => False

/-- What the lookup of the attempt at a place decides: what follows it, and the result. -/
inductive LookupDecides (i : Nat) (hash : String) (r : Except TxError Receipt) :
    Except Fault (Option Receipt) → List (Exchange ω) → Prop where
  /-- There was no older broadcast, and the submission fails. -/
  | gaveUp {e : TxError} (givesUp : e.GivesUp) (result : r = .error e) :
      LookupDecides i hash r (.ok none) []
  /-- An older broadcast is looked up. -/
  | goesOn {hash' : String} {x : Except Fault (Option Receipt)} {rest : List (Exchange ω)} :
      LookupDecides i hash r (.ok none) (.receipt hash' x :: rest)
  | found {receipt : Receipt} (result : r = .ok receipt) :
      LookupDecides i hash r (.ok (some receipt)) []
  | failed {f : Fault} (result : r = .error (.lookupFailed hash i f)) :
      LookupDecides i hash r (.error f) []

/-- A lookup of a search decides how it goes on. -/
lemma Search.decides {looked : List (Exchange ω)} {hash : String} {e : TxError}
    {x : Except Fault (Option Receipt)} (h : Search bs zs o) (givesUp : e.GivesUp)
    (hzs : zs = looked ++ .receipt hash x :: after) :
    ∃ i, (i, hash) ∈ bs ∧ LookupDecides i hash (foundOr e o) x after := by
  induction h generalizing looked with
  | nothing => simp at hzs
  | @found i hash' bs receipt =>
    obtain ⟨rfl, hx, rfl⟩ := split_singleton hzs.symm
    obtain ⟨rfl, rfl⟩ : hash = hash' ∧ x = .ok (some receipt) := by simpa using hx
    exact ⟨i, by simp, .found rfl⟩
  | @failed i hash' bs f =>
    obtain ⟨rfl, hx, rfl⟩ := split_singleton hzs.symm
    obtain ⟨rfl, rfl⟩ : hash = hash' ∧ x = .error f := by simpa using hx
    exact ⟨i, by simp, .failed rfl⟩
  | @missing i hash' bs zs o rest ih =>
    cases looked with
    | cons y looked =>
      obtain ⟨-, hzs⟩ := List.cons.inj hzs
      obtain ⟨j, hj, decides⟩ := ih hzs
      exact ⟨j, List.mem_cons_of_mem _ hj, decides⟩
    | nil =>
      obtain ⟨hx, rfl⟩ := List.cons.inj hzs
      obtain ⟨rfl, rfl⟩ : hash' = hash ∧ x = .ok none := by simpa [eq_comm] using hx
      refine ⟨i, by simp, ?_⟩
      -- nothing was found here: what follows is the search among the older broadcasts
      cases rest with
      | nothing => exact .gaveUp givesUp rfl
      | found => exact .goesOn
      | failed => exact .goesOn
      | missing => exact .goesOn

/-- An attempt that fails when it is submitted adds nothing to what was broadcast. -/
lemma Unsettled.broadcasts_eq_of_failure {payload : ω} {params : Params} {f : Fault}
    (before : Unsettled s intent fees past last xs) (offer : Offer last past ys next) :
    broadcasts (xs ++ ys ++ [.submit payload params (.error f)]) = named past := by
  rw [← before.broadcasts_eq]
  simp [broadcasts_append, offer.submissions_eq_nil, lookupHash?]

/-- The search that a lookup belongs to is one for the broadcasts before it. -/
lemma Settled.exists_search_of_lookup {hash : String} {x : Except Fault (Option Receipt)}
    (h : Settled s intent fees xs r) (hxs : xs = before ++ .receipt hash x :: after) :
    ∃ ys looked o e, before = ys ++ looked ∧
      Search (broadcasts ys) (looked ++ .receipt hash x :: after) o ∧ r = foundOr e o ∧
      TxError.GivesUp e := by
  have hmem : .receipt hash x ∈ xs := by simp [hxs]
  -- only a nonce that is used and the end of all attempts begin a search
  cases h with
  | noOffer unsettled left retry offer =>
    refine absurd hmem (receipt_notMem_of_lookups_eq_nil ?_)
    simp [unsettled.lookups_eq_nil, offer.lookups_eq_nil]
  | submissionFailed unsettled left offer hr hn =>
    refine absurd hmem (receipt_notMem_of_lookups_eq_nil ?_)
    simp [unsettled.lookups_eq_nil, offer.lookups_eq_nil]
  | included unsettled left offer =>
    refine absurd hmem (receipt_notMem_of_lookups_eq_nil ?_)
    simp [unsettled.lookups_eq_nil, offer.lookups_eq_nil]
  | waitFailed unsettled left offer ht =>
    refine absurd hmem (receipt_notMem_of_lookups_eq_nil ?_)
    simp [unsettled.lookups_eq_nil, offer.lookups_eq_nil]
  | @nonceUsed past last next us ys zs f o unsettled left offer hr hn search =>
    let asked := us ++ ys ++ [.submit intent.payload (intent.params next) (.error f)]
    have hasked : us ++ (ys ++ .submit intent.payload (intent.params next) (.error f) :: zs) =
        asked ++ zs := by simp [asked]
    have none : lookups asked = [] := by
      simp [asked, unsettled.lookups_eq_nil, offer.lookups_eq_nil]
    have broadcast : broadcasts asked = named past := unsettled.broadcasts_eq_of_failure offer
    rw [hasked] at hxs
    obtain ⟨looked, rfl, rfl⟩ := split_of_notMem hxs.symm (receipt_notMem_of_lookups_eq_nil none)
    exact ⟨asked, looked, o, _, rfl, broadcast ▸ search, rfl, trivial⟩
  | @exhausted past last us zs o unsettled left search =>
    obtain ⟨looked, rfl, rfl⟩ :=
      split_of_notMem hxs.symm (receipt_notMem_of_lookups_eq_nil unsettled.lookups_eq_nil)
    exact ⟨us, looked, o, _, rfl, unsettled.broadcasts_eq ▸ search, rfl, trivial⟩

/-- A lookup is one of a hash that was broadcast before it, and decides what follows. -/
lemma Settled.lookup_decides {hash : String} {x : Except Fault (Option Receipt)}
    (h : Settled s intent fees xs r) (hxs : xs = before ++ .receipt hash x :: after) :
    ∃ i, (i, hash) ∈ broadcasts before ∧ LookupDecides i hash r x after := by
  obtain ⟨ys, looked, o, e, rfl, search, rfl, givesUp⟩ := h.exists_search_of_lookup hxs
  obtain ⟨i, hi, decides⟩ := search.decides givesUp rfl
  have none : submissions looked = [] := submissions_prefix_eq_nil search.submissions_eq_nil
  exact ⟨i, (broadcasts_append_of_submissions_eq_nil none).symm ▸ hi, decides⟩

end StakeRegistry.Tx
