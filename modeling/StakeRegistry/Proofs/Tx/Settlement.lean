/-
How a submission goes on and how it ends.

A run of `submit` consists of attempts that were not included in time, followed by the exchanges
with which the run ends:

* `Suggests xs r`: the exchanges `xs` ask the node what to pay, with the result `r`;
* `Offer last past xs next`: after the attempts of `past`, the last of which offered `last`, the
  exchanges `xs` find the fees `next` of the next attempt; `NoOffer` tells how that fails;
* `Failed s intent next ending xs`: an attempt with the fees `next` that was not included in time;
* `Unsettled s intent fees past last xs`: the attempts of `past` were made by the exchanges `xs`,
  and none was included in time;
* `Search bs xs o`: the lookups `xs` of the hashes `bs`, the newest first, with the outcome `o`;
* `Settled s intent fees xs r`: all exchanges `xs` of a run that ends with `r`.

The main statement is `settled_of_runs`: every run of a submission is settled in this sense. It is
an induction on the attempts that are left; the attempts made so far are kept by `Unsettled`.
-/
import StakeRegistry.Proofs.Program.Failing
import StakeRegistry.Proofs.Tx.History

namespace StakeRegistry.Tx

variable {ω : Type}

/-- The integer in an answer, or why there is none. -/
def answeredInteger (answer : Except Fault Json.Value) : Except Fault Int :=
  match answer with
  | .ok v => v.toInteger.mapError .unreadable
  | .error f => .error f

/-- The answer to a question for fees, if the exchange is one. -/
def Exchange.feeAnswer? : Exchange ω → Option (Except Fault Json.Value)
  | priorityFee x => some x
  | feeCap x => some x
  | _ => none

/-- What is read from the answers to the questions for fees, in their order. -/
def feesRead (xs : List (Exchange ω)) : List (Except Fault Int) :=
  (xs.filterMap Exchange.feeAnswer?).map answeredInteger

/-- A question for fees and how it ends: the tip is read before the cap is asked, and the two of
them have to fit together. -/
inductive Suggests : List (Exchange ω) → Except TxError Suggestion → Prop where
  | noTip {x : Except Fault Json.Value} {f : Fault} (tip : answeredInteger x = .error f) :
      Suggests [.priorityFee x] (.error (.noSuggestion f))
  | noCap {x y : Except Fault Json.Value} {t : Int} {f : Fault} (tip : answeredInteger x = .ok t)
      (cap : answeredInteger y = .error f) :
      Suggests [.priorityFee x, .feeCap y] (.error (.noSuggestion f))
  | invalid {x y : Except Fault Json.Value} {t c : Int} {e : InvalidFee}
      (tip : answeredInteger x = .ok t) (cap : answeredInteger y = .ok c)
      (invalid : Suggestion.check { tip := t, feeCap := c } = .error e) :
      Suggests [.priorityFee x, .feeCap y] (.error (.invalidFee e))
  | fees {x y : Except Fault Json.Value} {t c : Int} (tip : answeredInteger x = .ok t)
      (cap : answeredInteger y = .ok c) (tip_nonneg : 0 ≤ t) (tip_le : t ≤ c) :
      Suggests [.priorityFee x, .feeCap y] (.ok { tip := t, feeCap := c })

/-- The fees of the next attempt are found: those given for the first, boosted ones for every
other. -/
inductive Offer (last : Fees) : List Attempt → List (Exchange ω) → Fees → Prop where
  | given : Offer last [] [] last
  | boosted {a : Attempt} {past : List Attempt} {xs : List (Exchange ω)} {suggestion : Suggestion}
      {next : Fees} (asked : Suggests xs (.ok suggestion))
      (boost : boostedFees last suggestion = .ok next) : Offer last (a :: past) xs next

/-- The fees of the next attempt are not found. -/
inductive NoOffer (last : Fees) : List (Exchange ω) → TxError → Prop where
  | suggestion {xs : List (Exchange ω)} {e : TxError} (asked : Suggests xs (.error e)) :
      NoOffer last xs e
  | boost {xs : List (Exchange ω)} {suggestion : Suggestion} {e : InvalidFee}
      (asked : Suggests xs (.ok suggestion)) (invalid : boostedFees last suggestion = .error e) :
      NoOffer last xs (.invalidFee e)

/-- An attempt was not included in time: it was refused, or the wait for it was in vain. -/
inductive Failed (s : Submitter) (intent : Intent ω) (next : Fees) :
    Ending → List (Exchange ω) → Prop where
  | refused {f : Fault} (refusal : isRefusal f = true) :
      Failed s intent next .rejected [.submit intent.payload (intent.params next) (.error f)]
  | timedOut {f : Fault} {hash : String} (timeout : f.isTimeout = true) :
      Failed s intent next (.timedOut hash)
        [.submit intent.payload (intent.params next) (.ok hash), .wait hash s.timeout (.error f)]

/-- The attempts of `past`, the last of which comes first and offered `last`, were made by `xs`, and
none of them was included in time. -/
inductive Unsettled (s : Submitter) (intent : Intent ω) (fees : Fees) :
    List Attempt → Fees → List (Exchange ω) → Prop where
  | start : Unsettled s intent fees [] fees []
  | again {past : List Attempt} {last next : Fees} {ending : Ending} {xs ys zs : List (Exchange ω)}
      (before : Unsettled s intent fees past last xs) (offer : Offer last past ys next)
      (failed : Failed s intent next ending zs) :
      Unsettled s intent fees ({ index := past.length, fees := next, ending } :: past) next
        (xs ++ (ys ++ zs))

/-- Broadcasts are looked up, the newest first, until one is found or a lookup fails. -/
inductive Search : List (Nat × String) → List (Exchange ω) →
    Except TxError (Option Receipt) → Prop where
  | nothing : Search [] [] (.ok none)
  | missing {i : Nat} {hash : String} {bs : List (Nat × String)} {xs : List (Exchange ω)}
      {o : Except TxError (Option Receipt)} (rest : Search bs xs o) :
      Search ((i, hash) :: bs) (.receipt hash (.ok none) :: xs) o
  | found {i : Nat} {hash : String} {bs : List (Nat × String)} {r : Receipt} :
      Search ((i, hash) :: bs) [.receipt hash (.ok (some r))] (.ok (some r))
  | failed {i : Nat} {hash : String} {bs : List (Nat × String)} {f : Fault} :
      Search ((i, hash) :: bs) [.receipt hash (.error f)] (.error (.lookupFailed hash i f))

/-- The end of a submission by a search: the receipt that was found, or the error if there is
none. -/
def foundOr (e : TxError) : Except TxError (Option Receipt) → Except TxError Receipt
  | .ok (some r) => .ok r
  | .ok none => .error e
  | .error e' => .error e'

/-- The hashes under which attempts can be looked up, each with the place of its attempt. -/
def named (past : List Attempt) : List (Nat × String) :=
  past.filterMap fun a => (a.hash?.filter (· ≠ "")).map (a.index, ·)

/-- The exchanges `xs` are those of a whole run, which ends with `r`. -/
inductive Settled (s : Submitter) (intent : Intent ω) (fees : Fees) :
    List (Exchange ω) → Except TxError Receipt → Prop where
  | noOffer {past : List Attempt} {last : Fees} {xs ys : List (Exchange ω)} {e : TxError}
      (before : Unsettled s intent fees past last xs) (left : past.length < s.maxAttempts)
      (retry : past ≠ []) (offer : NoOffer last ys e) : Settled s intent fees (xs ++ ys) (.error e)
  | submissionFailed {past : List Attempt} {last next : Fees}
      {xs ys : List (Exchange ω)} {f : Fault} (before : Unsettled s intent fees past last xs)
      (left : past.length < s.maxAttempts) (offer : Offer last past ys next)
      (refusal : isRefusal f = false) (nonceUsed : isNonceUsed f = false) :
      Settled s intent fees
        (xs ++ (ys ++ [.submit intent.payload (intent.params next) (.error f)]))
        (.error (.submissionFailed intent.description past.length f))
  | nonceUsed {past : List Attempt} {last next : Fees} {xs ys zs : List (Exchange ω)} {f : Fault}
      {o : Except TxError (Option Receipt)}
      (before : Unsettled s intent fees past last xs) (left : past.length < s.maxAttempts)
      (offer : Offer last past ys next) (refusal : isRefusal f = false)
      (nonceUsed : isNonceUsed f = true) (search : Search (named past) zs o) :
      Settled s intent fees
        (xs ++ (ys ++ .submit intent.payload (intent.params next) (.error f) :: zs))
        (foundOr (.submissionFailed intent.description past.length f) o)
  | included {past : List Attempt} {last next : Fees} {xs ys : List (Exchange ω)} {hash : String}
      {r : Receipt}
      (before : Unsettled s intent fees past last xs) (left : past.length < s.maxAttempts)
      (offer : Offer last past ys next) :
      Settled s intent fees
        (xs ++ (ys ++ [.submit intent.payload (intent.params next) (.ok hash),
          .wait hash s.timeout (.ok r)]))
        (.ok r)
  | waitFailed {past : List Attempt} {last next : Fees} {xs ys : List (Exchange ω)} {hash : String}
      {f : Fault}
      (before : Unsettled s intent fees past last xs) (left : past.length < s.maxAttempts)
      (offer : Offer last past ys next) (timeout : f.isTimeout = false) :
      Settled s intent fees
        (xs ++ (ys ++ [.submit intent.payload (intent.params next) (.ok hash),
          .wait hash s.timeout (.error f)]))
        (.error (.waitFailed intent.description hash past.length f))
  | exhausted {past : List Attempt} {last : Fees} {xs zs : List (Exchange ω)}
      {o : Except TxError (Option Receipt)}
      (before : Unsettled s intent fees past last xs) (left : past.length = s.maxAttempts)
      (search : Search (named past) zs o) :
      Settled s intent fees (xs ++ zs)
        (foundOr (.exhausted intent.description s.maxAttempts past.reverse) o)

/-! ### The questions for fees -/

lemma Suggestion.check_eq_ok_iff {s s' : Suggestion} :
    s.check = .ok s' ↔ 0 ≤ s.tip ∧ s.tip ≤ s.feeCap ∧ s' = s := by
  unfold Suggestion.check
  constructor
  · intro h
    split at h
    · cases h
    split at h
    · cases h
    cases h
    exact ⟨by omega, by omega, rfl⟩
  · rintro ⟨h, h', rfl⟩
    rw [if_neg (by omega), if_neg (by omega)]

lemma asks_orInvalid_iff {α : Type} {x : Except InvalidFee α} {xs : List (Exchange ω)}
    {r : Except TxError α} :
    Asks (orInvalid x).run xs r ↔ xs = [] ∧ r = x.mapError .invalidFee := by
  cases x with
  | error e => exact asks_run_throw_iff
  | ok a => exact asks_run_pure_iff

lemma of_asks_askInteger {question : Program (Chain ω) (Except Fault Json.Value)}
    {xs : List (Exchange ω)} {r : Except TxError Int} (h : Asks (askInteger question).run xs r) :
    ∃ answer, Asks question xs answer ∧ r = (answeredInteger answer).mapError .noSuggestion := by
  rw [askInteger, asks_ask_bind_iff] at h
  obtain ⟨xs₁, xs₂, answer, rfl, hq, h⟩ := h
  have hr : xs₂ = [] ∧ r = (answeredInteger answer).mapError .noSuggestion := by
    cases answer with
    | error f => simpa [answeredInteger, Except.mapError] using h
    | ok v => cases hv : v.toInteger <;> simpa [answeredInteger, Except.mapError, hv] using h
  obtain ⟨rfl, rfl⟩ := hr
  exact ⟨answer, by simpa using hq, rfl⟩

lemma suggests_of_asks {xs : List (Exchange ω)} {r : Except TxError Suggestion}
    (h : Asks suggestFees.run xs r) : Suggests xs r := by
  rw [suggestFees, asks_run_bind_iff] at h
  rcases h with ⟨e, rfl, h⟩ | ⟨xs₁, ys, t, rfl, h, h'⟩
  · obtain ⟨x, hx, he⟩ := of_asks_askInteger h
    obtain rfl := asks_call_iff.1 hx
    obtain ⟨f, hf, rfl⟩ := mapError_eq_error_iff.1 he.symm
    exact .noTip hf
  obtain ⟨x, hx, ht⟩ := of_asks_askInteger h
  obtain rfl := asks_call_iff.1 hx
  replace ht := mapError_eq_ok_iff.1 ht.symm
  rw [asks_run_bind_iff] at h'
  rcases h' with ⟨e, rfl, h⟩ | ⟨ys, zs, c, rfl, h, h'⟩
  · obtain ⟨y, hy, he⟩ := of_asks_askInteger h
    obtain rfl := asks_call_iff.1 hy
    obtain ⟨f, hf, rfl⟩ := mapError_eq_error_iff.1 he.symm
    exact .noCap ht hf
  obtain ⟨y, hy, hc⟩ := of_asks_askInteger h
  obtain rfl := asks_call_iff.1 hy
  replace hc := mapError_eq_ok_iff.1 hc.symm
  obtain ⟨rfl, rfl⟩ := asks_orInvalid_iff.1 h'
  cases hs : Suggestion.check { tip := t, feeCap := c } with
  | error e => exact .invalid ht hc hs
  | ok suggestion =>
    obtain ⟨h₀, h₁, rfl⟩ := Suggestion.check_eq_ok_iff.1 hs
    exact .fees ht hc h₀ h₁

lemma of_asks_boostFees {last : Fees} {xs : List (Exchange ω)} {r : Except TxError Fees}
    (h : Asks (boostFees last).run xs r) :
    (∃ e, r = .error e ∧ NoOffer last xs e) ∨
      ∃ suggestion next, r = .ok next ∧ Suggests xs (.ok suggestion) ∧
        boostedFees last suggestion = .ok next := by
  rw [boostFees, asks_note_bind_iff, asks_run_bind_iff] at h
  rcases h with ⟨e, rfl, h⟩ | ⟨xs, ys, suggestion, rfl, h, h'⟩
  · exact .inl ⟨e, rfl, .suggestion (suggests_of_asks h)⟩
  have asked := suggests_of_asks h
  rw [asks_run_bind_iff] at h'
  rcases h' with ⟨e, rfl, h⟩ | ⟨ys, zs, next, rfl, h, h'⟩
  · obtain ⟨rfl, he⟩ := asks_orInvalid_iff.1 h
    obtain ⟨e, hb, rfl⟩ := mapError_eq_error_iff.1 he.symm
    exact .inl ⟨_, rfl, by simpa using NoOffer.boost asked hb⟩
  · obtain ⟨rfl, hb⟩ := asks_orInvalid_iff.1 h
    rw [asks_note_bind_iff, asks_run_pure_iff] at h'
    obtain ⟨rfl, rfl⟩ := h'
    exact .inr ⟨suggestion, next, rfl, by simpa using asked, mapError_eq_ok_iff.1 hb.symm⟩

/-- The fees of the next attempt are found or not; those of the first one always are. -/
lemma of_asks_nextFees {s : Submitter} {intent : Intent ω} {past : List Attempt} {last : Fees}
    {xs : List (Exchange ω)} {r : Except TxError Fees}
    (h : Asks (nextFees s intent past last).run xs r) :
    (∃ e, r = .error e ∧ past ≠ [] ∧ NoOffer last xs e) ∨
      ∃ next, r = .ok next ∧ Offer last past xs next := by
  cases past with
  | nil =>
    obtain ⟨rfl, rfl⟩ := asks_run_pure_iff.1 h
    exact .inr ⟨last, rfl, .given⟩
  | cons a past =>
    rw [nextFees, asks_note_bind_iff] at h
    rcases of_asks_boostFees h with ⟨e, rfl, none⟩ | ⟨suggestion, next, rfl, asked, boost⟩
    · exact .inl ⟨e, rfl, by simp, none⟩
    · exact .inr ⟨next, rfl, .boosted asked boost⟩

/-! ### The search among earlier attempts -/

lemma search_of_asks {past : List Attempt} {xs : List (Exchange ω)}
    {o : Except TxError (Option Receipt)} (h : Asks (findIncluded past).run xs o) :
    Search (named past) xs o := by
  induction past generalizing xs with
  | nil =>
    obtain ⟨rfl, rfl⟩ := asks_run_pure_iff.1 h
    exact .nothing
  | cons a past ih =>
    obtain ⟨index, fees, ending⟩ := a
    cases ending with
    | rejected => simpa [named, Attempt.hash?] using ih h
    | timedOut hash =>
      by_cases hne : hash = ""
      · subst hne
        simpa [named, Attempt.hash?] using ih h
      have hn : named ({ index, fees, ending := .timedOut hash } :: past) =
          (index, hash) :: named past := by
        simp [named, Attempt.hash?, hne]
      rw [hn]
      simp only [findIncluded, String.isEmpty_iff, hne, if_false] at h
      rw [asks_ask_bind_iff] at h
      obtain ⟨xs₁, xs₂, x, rfl, hx, h⟩ := h
      obtain rfl := asks_call_iff.1 hx
      match x, h with
      | .ok none, h => exact .missing (ih h)
      | .ok (some r), h =>
        obtain ⟨rfl, rfl⟩ := asks_run_pure_iff.1 h
        exact .found
      | .error f, h =>
        obtain ⟨rfl, rfl⟩ := asks_run_throw_iff.1 h
        exact .failed

/-! ### The attempts -/

lemma foundOr_of_asks {past : List Attempt} {e : TxError} {text : Receipt → String}
    {xs : List (Exchange ω)} {r : Except TxError Receipt}
    (h : Asks (do
      match ← findIncluded past with
      | some receipt =>
        note .info (text receipt)
        return receipt
      | none => throw e : OnChain ω TxError Receipt).run xs r) :
    ∃ o, Search (named past) xs o ∧ r = foundOr e o := by
  rw [asks_run_bind_iff] at h
  rcases h with ⟨e', rfl, h⟩ | ⟨xs₁, xs₂, o, rfl, h, h'⟩
  · exact ⟨_, search_of_asks h, rfl⟩
  have search := search_of_asks h
  cases o with
  | none =>
    obtain ⟨rfl, rfl⟩ := asks_run_throw_iff.1 h'
    exact ⟨_, by simpa using search, rfl⟩
  | some receipt =>
    rw [asks_note_bind_iff, asks_run_pure_iff] at h'
    obtain ⟨rfl, rfl⟩ := h'
    exact ⟨_, by simpa using search, rfl⟩

/-- From attempts that were not included in time, every way on settles the submission. -/
theorem settled_of_asks {s : Submitter} {intent : Intent ω} {fees last : Fees} {past : List Attempt}
    {xs ys : List (Exchange ω)} {r : Except TxError Receipt} {left : Nat}
    (before : Unsettled s intent fees past last xs) (hleft : past.length + left = s.maxAttempts)
    (h : Asks (attemptFrom s intent past last left).run ys r) :
    Settled s intent fees (xs ++ ys) r := by
  induction left generalizing past last xs ys with
  | zero =>
    -- no attempt is left, and the search decides
    obtain ⟨o, search, rfl⟩ := foundOr_of_asks h
    exact .exhausted before hleft search
  | succ left ih =>
    have hlt : past.length < s.maxAttempts := by omega
    rw [attemptFrom, asks_run_bind_iff] at h
    rcases h with ⟨e, rfl, h⟩ | ⟨ys, zs, next, rfl, h, h'⟩
    · -- only another attempt can lack fees, since those of the first one are given
      rcases of_asks_nextFees h with ⟨e', he, retry, none⟩ | ⟨next, hn, -⟩
      · cases he
        exact .noOffer before hlt retry none
      · cases hn
    rcases of_asks_nextFees h with ⟨e', he, -, -⟩ | ⟨next', hn, offer⟩
    · cases he
    cases hn
    rw [asks_ask_bind_iff] at h'
    obtain ⟨zs, zs', answer, rfl, hx, h'⟩ := h'
    obtain rfl := asks_call_iff.1 hx
    cases answer with
    | error f =>
      -- the attempt was not broadcast
      cases hr : isRefusal f with
      | true =>
        simp only [hr, if_true] at h'
        rw [asks_note_bind_iff] at h'
        have := ih (before.again offer (.refused hr)) (by simp; omega) h'
        simpa [Exchange.ofAnswer?] using this
      | false =>
        cases hn : isNonceUsed f with
        | true =>
          simp only [hr, hn, if_true] at h'
          obtain ⟨o, search, rfl⟩ := foundOr_of_asks h'
          exact .nonceUsed before hlt offer hr hn search
        | false =>
          simp only [hr, hn] at h'
          obtain ⟨rfl, rfl⟩ := asks_run_throw_iff.1 h'
          exact .submissionFailed before hlt offer hr hn
    | ok hash =>
      -- the attempt was broadcast and is waited for
      simp only [] at h'
      rw [asks_note_bind_iff, asks_ask_bind_iff] at h'
      obtain ⟨us, us', answer, rfl, hx, h'⟩ := h'
      obtain rfl := asks_call_iff.1 hx
      cases answer with
      | ok r =>
        obtain ⟨rfl, rfl⟩ := asks_run_pure_iff.1 h'
        exact .included before hlt offer
      | error f =>
        cases ht : f.isTimeout with
        | true =>
          simp only [ht, if_true] at h'
          rw [asks_note_bind_iff] at h'
          have := ih (before.again offer (.timedOut ht)) (by simp; omega) h'
          simpa [Exchange.ofAnswer?] using this
        | false =>
          simp only [ht] at h'
          obtain ⟨rfl, rfl⟩ := asks_run_throw_iff.1 h'
          exact .waitFailed before hlt offer ht

/-- Every run of a submission is settled. -/
theorem settled_of_runs {s : Submitter} {intent : Intent ω} {fees : Fees}
    {es : List (Program.Event (Chain ω))} {r : Except TxError Receipt}
    (h : (submit s intent fees).run.Runs es r) : Settled s intent fees (exchanges es) r :=
  settled_of_asks .start (by simp) (asks_of_runs h)

/-! ### What the parts of a run submit and look up -/

section Parts

variable {s : Submitter} {intent : Intent ω} {fees last next : Fees} {past : List Attempt}
  {xs : List (Exchange ω)}

lemma Suggests.submissions_eq_nil {r : Except TxError Suggestion} (h : Suggests xs r) :
    submissions xs = [] := by
  cases h <;> rfl

lemma Suggests.lookups_eq_nil {r : Except TxError Suggestion} (h : Suggests xs r) :
    lookups xs = [] := by
  cases h <;> rfl

lemma Offer.submissions_eq_nil (h : Offer last past xs next) : submissions xs = [] := by
  cases h with
  | given => rfl
  | boosted asked boost => exact asked.submissions_eq_nil

lemma Offer.lookups_eq_nil (h : Offer last past xs next) : lookups xs = [] := by
  cases h with
  | given => rfl
  | boosted asked boost => exact asked.lookups_eq_nil

lemma NoOffer.submissions_eq_nil {e : TxError} (h : NoOffer last xs e) : submissions xs = [] := by
  cases h with
  | suggestion asked => exact asked.submissions_eq_nil
  | boost asked invalid => exact asked.submissions_eq_nil

lemma NoOffer.lookups_eq_nil {e : TxError} (h : NoOffer last xs e) : lookups xs = [] := by
  cases h with
  | suggestion asked => exact asked.lookups_eq_nil
  | boost asked invalid => exact asked.lookups_eq_nil

lemma Failed.lookups_eq_nil {ending : Ending} (h : Failed s intent next ending xs) :
    lookups xs = [] := by
  cases h <;> rfl

lemma Search.submissions_eq_nil {bs : List (Nat × String)} {o : Except TxError (Option Receipt)}
    (h : Search bs xs o) : submissions xs = [] := by
  induction h with
  | missing rest ih => exact ih
  | nothing => rfl
  | found => rfl
  | failed => rfl

/-- Each attempt was submitted once. -/
lemma Unsettled.length_submissions (h : Unsettled s intent fees past last xs) :
    (submissions xs).length = past.length := by
  induction h with
  | start => rfl
  | again before offer failed ih =>
    have hy := offer.submissions_eq_nil
    cases failed <;> simp [ih, hy]

lemma Unsettled.lookups_eq_nil (h : Unsettled s intent fees past last xs) : lookups xs = [] := by
  induction h with
  | start => rfl
  | again before offer failed ih => simp [ih, offer.lookups_eq_nil, failed.lookups_eq_nil]

/-- The hashes that were broadcast are those of the attempts, in the same order. -/
lemma Unsettled.broadcasts_eq (h : Unsettled s intent fees past last xs) :
    broadcasts xs = named past := by
  induction h with
  | start => rfl
  | @again past last next ending xs ys zs before offer failed ih =>
    have hk : (submissions (xs ++ ys)).length = past.length := by
      simp [before.length_submissions, offer.submissions_eq_nil]
    rw [← List.append_assoc, broadcasts_append, hk,
      broadcasts_append_of_submissions_eq_nil offer.submissions_eq_nil, ih]
    cases failed with
    | refused hr => simp [named, Attempt.hash?, lookupHash?]
    | @timedOut f hash ht =>
      by_cases hne : hash = "" <;> simp [named, Attempt.hash?, lookupHash?, hne]

end Parts

end StakeRegistry.Tx
