/-
Every attempt outbids the one that it replaces.

`Outbids prev suggestion next` says that `next` replaces `prev` as `boostedFees` finds it, and that
it offers more than ten percent more of everything. Fees that a transaction can carry are boosted to
such fees, whatever the node suggests, and the boost fails only if the suggestion is no suggestion;
what is reached by boosts can be boosted again (`Fees.Boostable`). The caller is told so
(`TellsInvalid`) if the numbers of the suggestion can be written. The attempts of a submission are
compared through the last submission before each of them (`Settled.offered`,
`Unsettled.exists_last_submit`). The main statement is `replacements_outbid`.
-/
import Mathlib.Logic.Relation
import StakeRegistry.Proofs.Tx.Receipts

namespace StakeRegistry.Tx

variable {ω : Type}

/-- The fees among the parameters of an attempt. -/
def Params.fees (p : Params) : Fees where
  tip := p.maxPriorityFeePerGas
  feeCap := p.maxFeePerGas
  gasLimit := p.gas
  nonce := p.nonce

@[simp] lemma Intent.fees_params (intent : Intent ω) (f : Fees) : (intent.params f).fees = f := rfl

/-- The fees `next` replace `prev`, given what the node suggested in between. -/
structure Outbids (prev : Fees) (suggestion : Suggestion) (next : Fees) : Prop where
  valid : next.Valid
  nonce_eq : next.nonce = prev.nonce
  gasLimit_eq : next.gasLimit = prev.gasLimit
  tip_eq : next.tip = boost (max suggestion.tip prev.tip)
  baseFee_eq : next.baseFee = boost (max (suggestion.feeCap - suggestion.tip) prev.baseFee)
  tip_lt : 11 * prev.tip < 10 * next.tip
  baseFee_lt : 11 * prev.baseFee < 10 * next.baseFee
  feeCap_lt : 11 * prev.feeCap < 10 * next.feeCap
  suggested_tip_lt : suggestion.tip < next.tip
  suggested_feeCap_lt : suggestion.feeCap < next.feeCap

/-- One boost leads from the first fees to the second, with some suggestion. -/
def Replaces (prev next : Fees) : Prop :=
  ∃ suggestion, boostedFees prev suggestion = .ok next

/-- The caller is told that fees are invalid. -/
def TellsInvalid {α : Type} (r : Except TxError α) : Prop :=
  ∃ e reason text, r = .error e ∧ e.escape = .error (.invalidFee reason) text

/-- How a boost ends that asks the node what to pay. -/
structure BoostFaithful (prev : Fees) (xs : List (Exchange ω)) (r : Except TxError Fees) :
    Prop where
  /-- Boosted fees outbid the last ones, given the tip and the fee cap that were read. -/
  outbids : ∀ {next}, r = .ok next → ∃ y z t c, xs = [.priorityFee y, .feeCap z] ∧
    answeredInteger y = .ok t ∧ answeredInteger z = .ok c ∧
    Outbids prev { tip := t, feeCap := c } next
  /-- The fees are invalid exactly if the tip that was read is negative or above the fee cap. -/
  invalid_iff : (∃ e, r = .error (.invalidFee e)) ↔ ∃ y z t c, xs = [.priorityFee y, .feeCap z] ∧
    answeredInteger y = .ok t ∧ answeredInteger z = .ok c ∧ (t < 0 ∨ c < t)
  /-- The caller is told so of no other fees. -/
  invalid_of_tells : TellsInvalid r → ∃ e, r = .error (.invalidFee e)
  /-- Of a tip and a fee cap that can be written the caller is told so exactly if it is so. -/
  tells_iff : ∀ {y z t c}, xs = [.priorityFee y, .feeCap z] → answeredInteger y = .ok t →
    answeredInteger z = .ok c → Numeral.isWritable t = true → Numeral.isWritable c = true →
    (TellsInvalid r ↔ t < 0 ∨ c < t)

/-- Fees whose boost does what it should. -/
structure Fees.Boostable (prev : Fees) : Prop where
  valid : prev.Valid
  outbids : ∀ {suggestion next}, boostedFees prev suggestion = .ok next →
    Outbids prev suggestion next
  /-- The boost fails exactly if the tip is negative or above the fee cap. -/
  error_iff : ∀ {suggestion}, (∃ e, boostedFees prev suggestion = .error e) ↔
    suggestion.tip < 0 ∨ suggestion.feeCap < suggestion.tip
  /-- A suggestion that was checked is not found invalid later. -/
  checked : ∀ {suggestion checked}, Suggestion.check suggestion = .ok checked →
    ∃ next, boostedFees prev checked = .ok next
  runs : ∀ {ω : Type} {es : List (Program.Event (Chain ω))} {r : Except TxError Fees},
    (boostFees prev).run.Runs es r → BoostFaithful prev (exchanges es) r

/-- The attempts of a submission that begins with the given fees, and how boosts end it. -/
structure Outbidding (intent : Intent ω) (fees : Fees) (xs : List (Exchange ω))
    (r : Except TxError Receipt) : Prop where
  /-- The first attempt offers the given fees. -/
  given : ∃ answer rest, xs = .submit intent.payload (intent.params fees) answer :: rest
  /-- Every attempt offers fees that a transaction can carry, and is otherwise as intended. -/
  carried : ∀ {payload params answer}, .submit payload params answer ∈ xs →
    payload = intent.payload ∧ params = intent.params params.fees ∧ params.fees.Valid
  /-- Of two attempts without another one in between the second outbids the first, whatever the
  first was answered, given the tip and the fee cap that were read right before the second. -/
  outbids : ∀ {before between after payload payload' params params' answer answer'},
    xs = before ++ .submit payload params answer ::
      (between ++ .submit payload' params' answer' :: after) →
    submissions between = [] →
    ∃ waited y z t c, between = waited ++ [.priorityFee y, .feeCap z] ∧
      answeredInteger y = .ok t ∧ answeredInteger z = .ok c ∧
      Outbids params.fees { tip := t, feeCap := c } params'.fees
  /-- The fees are invalid exactly if the last tip that was read is negative or above the fee
  cap. -/
  invalid_iff : (∃ e, r = .error (.invalidFee e)) ↔
    ∃ before y z t c, xs = before ++ [.priorityFee y, .feeCap z] ∧
      answeredInteger y = .ok t ∧ answeredInteger z = .ok c ∧ (t < 0 ∨ c < t)
  /-- The caller is told so of no other fees. -/
  invalid_of_tells : TellsInvalid r → ∃ e, r = .error (.invalidFee e)
  /-- Of a last tip and fee cap that can be written the caller is told so exactly if it is so. -/
  tells_iff : ∀ {before y z t c}, xs = before ++ [.priorityFee y, .feeCap z] →
    answeredInteger y = .ok t → answeredInteger z = .ok c → Numeral.isWritable t = true →
    Numeral.isWritable c = true → (TellsInvalid r ↔ t < 0 ∨ c < t)

variable {s : Submitter} {intent : Intent ω} {fees last next : Fees} {past : List Attempt}
  {xs ys zs : List (Exchange ω)} {r : Except TxError Receipt}

/-! ### Boosts -/

/-- The fees that a boost leads to. -/
def boosted (prev : Fees) (suggestion : Suggestion) : Fees :=
  let tip := boost (max suggestion.tip prev.tip)
  let baseFee := boost (max (suggestion.feeCap - suggestion.tip) prev.baseFee)
  { prev with tip, feeCap := baseFee + tip }

/-- Boosted fees outbid whatever they replace, even if the suggestion collapses. -/
lemma outbids_boosted {prev : Fees} {suggestion : Suggestion} (h : prev.Valid) :
    Outbids prev suggestion (boosted prev suggestion) := by
  have hp : 0 ≤ prev.baseFee := by
    have := h.tip_le_feeCap
    simp only [Fees.baseFee]
    omega
  have hcap : prev.feeCap = prev.baseFee + prev.tip := by simp [Fees.baseFee]
  have hbase : (boosted prev suggestion).baseFee =
      boost (max (suggestion.feeCap - suggestion.tip) prev.baseFee) := by
    simp [boosted, Fees.baseFee]
  have tip_lt : 11 * max suggestion.tip prev.tip < 10 * (boosted prev suggestion).tip := lt_boost _
  have base_lt := lt_boost (max (suggestion.feeCap - suggestion.tip) prev.baseFee)
  rw [← hbase] at base_lt
  have cap_eq : (boosted prev suggestion).feeCap =
      (boosted prev suggestion).baseFee + (boosted prev suggestion).tip := by simp [Fees.baseFee]
  have := h.tip_nonneg
  exact {
    valid := ⟨by omega, by omega, h.gasLimit_pos, h.nonce_nonneg⟩
    nonce_eq := rfl
    gasLimit_eq := rfl
    tip_eq := rfl
    baseFee_eq := hbase
    tip_lt := by omega
    baseFee_lt := by omega
    feeCap_lt := by omega
    suggested_tip_lt := by omega
    suggested_feeCap_lt := by omega }

/-- Of fees that a transaction can carry the boost depends on the suggestion alone: the fees that it
leads to can be carried as well. -/
lemma boostedFees_of_valid {prev : Fees} {suggestion : Suggestion} (h : prev.Valid) :
    boostedFees prev suggestion =
      if suggestion.tip < 0 ∨ suggestion.feeCap < suggestion.tip then
        .error (.negativeSuggestedBase suggestion.feeCap suggestion.tip)
      else .ok (boosted prev suggestion) := by
  unfold boostedFees
  split
  · rfl
  · exact Fees.check_eq_ok_iff.2 ⟨(outbids_boosted h).valid, rfl⟩

lemma outbids_of_boostedFees {prev : Fees} {suggestion : Suggestion} (h : prev.Valid)
    (boost : boostedFees prev suggestion = .ok next) : Outbids prev suggestion next := by
  rw [boostedFees_of_valid h] at boost
  split at boost
  · cases boost
  · cases boost
    exact outbids_boosted h

/-- Invalid fees come from the check of a suggestion. -/
lemma Suggests.invalid_iff {r : Except TxError Suggestion} (h : Suggests xs r) :
    (∃ e, r = .error (.invalidFee e)) ↔ ∃ y z t c,
      xs = [.priorityFee y, .feeCap z] ∧ answeredInteger y = .ok t ∧ answeredInteger z = .ok c ∧
        (t < 0 ∨ c < t) := by
  cases h with
  | noTip tip => simp
  | @noCap x y t f tip cap =>
    constructor
    · simp
    · rintro ⟨y', z, t', c', hxs, -, hc, -⟩
      obtain ⟨rfl, rfl⟩ : x = y' ∧ y = z := by simpa using hxs
      simp [cap] at hc
  | @invalid x y t c e tip cap invalid =>
    refine ⟨fun _ => ⟨x, y, t, c, rfl, tip, cap, ?_⟩, fun _ => ⟨e, rfl⟩⟩
    by_contra hn
    have hc : Suggestion.check { tip := t, feeCap := c } = .ok { tip := t, feeCap := c } :=
      Suggestion.check_eq_ok_iff.2 ⟨by simp only []; omega, by simp only []; omega, rfl⟩
    simp [hc] at invalid
  | @fees x y t c tip cap h₀ h₁ =>
    constructor
    · simp
    · rintro ⟨y', z, t', c', hxs, ht, hc, hlt⟩
      obtain ⟨rfl, rfl⟩ : x = y' ∧ y = z := by simpa using hxs
      obtain rfl : t = t' := by simpa [tip] using ht
      obtain rfl : c = c' := by simpa [cap] using hc
      omega

lemma tellsInvalid_error_iff {α : Type} {e : TxError} :
    TellsInvalid (.error e : Except TxError α) ↔
      ∃ reason text, e = .invalidFee reason ∧ reason.message = some text := by
  constructor
  · rintro ⟨e', reason, text, he, escape⟩
    obtain rfl : e = e' := by simpa using he
    obtain ⟨rfl, told⟩ := TxError.escape_eq_error_iff.1 escape
    refine ⟨reason, text, rfl, ?_⟩
    cases message : reason.message <;> simp_all [TxError.message, orUnwritable]
  · rintro ⟨reason, text, rfl, told⟩
    refine ⟨_, reason, text, rfl, TxError.escape_eq_error_iff.2 ⟨rfl, ?_⟩⟩
    rw [TxError.message, told]
    rfl

lemma not_tellsInvalid_ok {α : Type} {a : α} : ¬ TellsInvalid (.ok a) := by
  rintro ⟨e, reason, text, he, -⟩
  cases he

lemma TellsInvalid.exists_invalid {α : Type} {r : Except TxError α} (h : TellsInvalid r) :
    ∃ e, r = .error (.invalidFee e) := by
  cases r with
  | ok a => exact absurd h not_tellsInvalid_ok
  | error e =>
    obtain ⟨reason, text, rfl, -⟩ := tellsInvalid_error_iff.1 h
    exact ⟨reason, rfl⟩

/-- What is wrong with numbers that can be written is told. -/
lemma Suggests.tells_iff {r : Except TxError Suggestion} {y z : Except Fault Json.Value} {t c : Int}
    (h : Suggests xs r) (hxs : xs = [.priorityFee y, .feeCap z]) (tip : answeredInteger y = .ok t)
    (cap : answeredInteger z = .ok c) (tip_writable : Numeral.isWritable t = true)
    (cap_writable : Numeral.isWritable c = true) : TellsInvalid r ↔ t < 0 ∨ c < t := by
  constructor
  · intro told
    obtain ⟨y', z', t', c', hxs', tip', cap', invalid⟩ := h.invalid_iff.1 told.exists_invalid
    obtain ⟨rfl, rfl⟩ : y = y' ∧ z = z' := by simpa using hxs.symm.trans hxs'
    obtain rfl : t = t' := by simpa [tip] using tip'
    obtain rfl : c = c' := by simpa [cap] using cap'
    exact invalid
  · intro invalid
    obtain ⟨e, rfl⟩ := h.invalid_iff.2 ⟨y, z, t, c, hxs, tip, cap, invalid⟩
    cases h with
    | @invalid y' z' t' c' e tip' cap' check =>
      obtain ⟨rfl, rfl⟩ : y' = y ∧ z' = z := by simpa using hxs
      obtain rfl : t = t' := by simpa [tip] using tip'
      obtain rfl : c = c' := by simpa [cap] using cap'
      obtain ⟨text, told⟩ := Suggestion.exists_message_of_check check tip_writable cap_writable
      exact tellsInvalid_error_iff.2 ⟨e, text, rfl, told⟩

/-- Exchanges that end with a question for fees end with nothing else. -/
lemma Suggests.append_eq_iff {before : List (Exchange ω)} {r : Except TxError Suggestion}
    {y z : Except Fault Json.Value} (h : Suggests ys r) :
    xs ++ ys = before ++ [.priorityFee y, .feeCap z] ↔
      xs = before ∧ ys = [.priorityFee y, .feeCap z] := by
  constructor
  · intro heq
    refine List.append_inj' heq ?_
    cases h with
    | noTip tip =>
      have hlast := congrArg List.getLast? heq
      simp at hlast
    | noCap tip cap => rfl
    | invalid tip cap invalid => rfl
    | fees tip cap h₀ h₁ => rfl
  · rintro ⟨rfl, rfl⟩
    rfl

/-- Fees that a transaction can carry are not boosted only if there is no suggestion: a suggestion
that was checked is not found invalid later. -/
lemma NoOffer.suggests {e : TxError} (h : NoOffer last xs e) (valid : last.Valid) :
    Suggests xs (.error e) := by
  cases h with
  | suggestion asked => exact asked
  | boost asked invalid =>
    cases asked with
    | fees tip cap h₀ h₁ =>
      rw [boostedFees_of_valid valid, if_neg (by simp only []; omega)] at invalid
      cases invalid

lemma boostFaithful_of_runs {prev : Fees} {es : List (Program.Event (Chain ω))}
    {r : Except TxError Fees} (valid : prev.Valid) (run : (boostFees prev).run.Runs es r) :
    BoostFaithful prev (exchanges es) r := by
  rcases of_asks_boostFees (asks_of_runs run) with
    ⟨e, rfl, none⟩ | ⟨suggestion, next, rfl, asked, boost⟩
  · have asked := none.suggests valid
    refine ⟨by simp, ?_, TellsInvalid.exists_invalid, ?_⟩
    · rw [← asked.invalid_iff]
      simp
    · intro y z t c hxs tip cap tip_writable cap_writable
      rw [← asked.tells_iff hxs tip cap tip_writable cap_writable, tellsInvalid_error_iff,
        tellsInvalid_error_iff]
  · refine ⟨?_, ?_, TellsInvalid.exists_invalid, ?_⟩
    · rintro next' hn
      obtain rfl : next = next' := by simpa using hn
      generalize exchanges es = xs at asked
      cases asked with
      | @fees y z t c tip cap h₀ h₁ =>
        exact ⟨y, z, t, c, rfl, tip, cap, outbids_of_boostedFees valid boost⟩
    · rw [← asked.invalid_iff]
      simp
    · intro y z t c hxs tip cap tip_writable cap_writable
      rw [← asked.tells_iff hxs tip cap tip_writable cap_writable]
      exact iff_of_false not_tellsInvalid_ok not_tellsInvalid_ok

/-- Fees that a transaction can carry can be boosted. -/
lemma Fees.Valid.boostable {prev : Fees} (h : prev.Valid) : prev.Boostable where
  valid := h
  outbids boost := outbids_of_boostedFees h boost
  error_iff := by
    intro suggestion
    rw [boostedFees_of_valid h]
    split <;> simp_all
  checked := by
    intro suggestion checked hs
    obtain ⟨h₀, h₁, rfl⟩ := Suggestion.check_eq_ok_iff.1 hs
    exact ⟨_, by rw [boostedFees_of_valid h, if_neg (by omega)]⟩
  runs run := boostFaithful_of_runs h run

/-- What boosts lead to can be carried, at the nonce and with the gas limit of the first fees. -/
lemma Fees.Valid.of_replaces {prev : Fees} (h : fees.Valid)
    (boosts : Relation.ReflTransGen Replaces fees prev) :
    prev.Valid ∧ prev.nonce = fees.nonce ∧ prev.gasLimit = fees.gasLimit := by
  induction boosts with
  | refl => exact ⟨h, rfl, rfl⟩
  | tail boosts step ih =>
    obtain ⟨valid, nonce_eq, gasLimit_eq⟩ := ih
    obtain ⟨suggestion, boost⟩ := step
    have out := outbids_of_boostedFees valid boost
    exact ⟨out.valid, out.nonce_eq.trans nonce_eq, out.gasLimit_eq.trans gasLimit_eq⟩

/-! ### The attempts of a submission -/

lemma Offer.replaces (h : Offer last past xs next) : Relation.ReflTransGen Replaces last next := by
  cases h with
  | given => exact .refl
  | boosted asked boost => exact .single ⟨_, boost⟩

lemma Unsettled.replaces (h : Unsettled s intent fees past last xs) :
    Relation.ReflTransGen Replaces fees last := by
  induction h with
  | start => exact .refl
  | again before offer failed ih => exact ih.trans offer.replaces

/-- The exchanges before a submission are attempts that were not included in time and the questions
for the fees that it offers. -/
def Offered (s : Submitter) (intent : Intent ω) (fees : Fees) (before : List (Exchange ω))
    (payload : ω) (params : Params) : Prop :=
  ∃ past last next xs ys, before = xs ++ ys ∧ Unsettled s intent fees past last xs ∧
    Offer last past ys next ∧ payload = intent.payload ∧ params = intent.params next

/-- A submission is one of the earlier attempts or the one that is offered after them. -/
lemma Offer.offered {before after : List (Exchange ω)} {payload : ω} {params : Params}
    {answer answer' : Except Fault String} (offer : Offer last past ys next)
    (unsettled : Unsettled s intent fees past last xs) (hzs : submissions zs = [])
    (earlier : ∀ {mid}, xs = before ++ .submit payload params answer :: mid →
      Offered s intent fees before payload params)
    (h : xs ++ (ys ++ .submit intent.payload (intent.params next) answer' :: zs) =
      before ++ .submit payload params answer :: after) :
    Offered s intent fees before payload params := by
  rcases split_append h.symm with ⟨mid, hxs, -⟩ | ⟨mid, rfl, hys⟩
  · exact earlier hxs
  obtain ⟨mid, rfl, hmid⟩ := split_of_notMem hys.symm
    (submit_notMem_of_submissions_eq_nil offer.submissions_eq_nil)
  cases mid with
  | nil =>
    obtain ⟨⟨rfl, rfl, -⟩, -⟩ :
      (intent.payload = payload ∧ intent.params next = params ∧ _) ∧ _ := by
      simpa using hmid
    exact ⟨past, last, next, xs, ys, by simp, unsettled, offer, rfl, rfl⟩
  | cons m mid =>
    obtain ⟨-, rfl⟩ := List.cons.inj hmid
    simp at hzs

lemma Unsettled.offered {before after : List (Exchange ω)} {payload : ω} {params : Params}
    {answer : Except Fault String} (h : Unsettled s intent fees past last xs)
    (hxs : xs = before ++ .submit payload params answer :: after) :
    Offered s intent fees before payload params := by
  induction h generalizing after with
  | start => simp at hxs
  | again unsettled offer failed ih =>
    cases failed with
    | refused hr => exact offer.offered unsettled rfl ih hxs
    | timedOut ht => exact offer.offered unsettled rfl ih hxs

lemma Settled.offered {before after : List (Exchange ω)} {payload : ω} {params : Params}
    {answer : Except Fault String} (h : Settled s intent fees xs r)
    (hxs : xs = before ++ .submit payload params answer :: after) :
    Offered s intent fees before payload params := by
  have earlier : ∀ {past last ys zs}, Unsettled s intent fees past last ys →
      submissions zs = [] → ys ++ zs = before ++ .submit payload params answer :: after →
      Offered s intent fees before payload params := by
    intro past last ys zs unsettled hzs h
    rcases split_append h.symm with ⟨mid, hys, -⟩ | ⟨mid, -, rfl⟩
    · exact unsettled.offered hys
    · simp at hzs
  cases h with
  | noOffer unsettled left retry offer => exact earlier unsettled offer.submissions_eq_nil hxs
  | exhausted unsettled left search => exact earlier unsettled search.submissions_eq_nil hxs
  | submissionFailed unsettled left offer hr hn =>
    exact offer.offered unsettled rfl unsettled.offered hxs
  | nonceUsed unsettled left offer hr hn search =>
    exact offer.offered unsettled search.submissions_eq_nil unsettled.offered hxs
  | included unsettled left offer => exact offer.offered unsettled rfl unsettled.offered hxs
  | waitFailed unsettled left offer ht => exact offer.offered unsettled rfl unsettled.offered hxs

/-- The last attempt so far offered the last fees. -/
lemma Unsettled.exists_last_submit (h : Unsettled s intent fees past last xs) (hp : past ≠ []) :
    ∃ earlier answer later,
      xs = earlier ++ .submit intent.payload (intent.params last) answer :: later ∧
        submissions later = [] := by
  cases h with
  | start => exact absurd rfl hp
  | @again past last next ending xs ys zs before offer failed =>
    cases failed with
    | refused hr => exact ⟨xs ++ ys, _, [], (List.append_assoc _ _ _).symm, rfl⟩
    | timedOut ht => exact ⟨xs ++ ys, _, _, (List.append_assoc _ _ _).symm, rfl⟩

/-- There is one last submission. -/
lemma last_submit_unique {before earlier between later : List (Exchange ω)} {payload payload' : ω}
    {params params' : Params} {answer answer' : Except Fault String}
    (h : before ++ .submit payload params answer :: between =
      earlier ++ .submit payload' params' answer' :: later)
    (hb : submissions between = []) (hl : submissions later = []) :
    params = params' ∧ between = later := by
  rcases split_append h with ⟨mid, rfl, rfl⟩ | ⟨mid, rfl, hmid⟩
  · simp at hb
  cases mid with
  | nil =>
    obtain ⟨⟨-, rfl, -⟩, rfl⟩ : (_ ∧ params' = params ∧ _) ∧ later = between := by simpa using hmid
    exact ⟨rfl, rfl⟩
  | cons m mid =>
    obtain ⟨-, rfl⟩ := List.cons.inj hmid
    simp at hl

/-- A run that does not end for want of an offer ends with no question for a fee cap, and its fees
are not invalid. -/
lemma Settled.noOffer_or (h : Settled s intent fees xs r) :
    (∃ past last ys zs e, xs = ys ++ zs ∧ r = .error e ∧ Unsettled s intent fees past last ys ∧
      NoOffer last zs e) ∨
    (∀ x ∈ xs.getLast?, ∀ z, x ≠ .feeCap z) ∧ ∀ e, r ≠ .error (.invalidFee e) := by
  cases h with
  | noOffer before left retry offer => exact .inl ⟨_, _, _, _, _, rfl, rfl, before, offer⟩
  | submissionFailed before left offer hr hn => exact .inr ⟨by simp, by simp⟩
  | included before left offer => exact .inr ⟨by simp, by simp⟩
  | waitFailed before left offer ht => exact .inr ⟨by simp, by simp⟩
  | nonceUsed before left offer hr hn search =>
    refine .inr ⟨?_, fun e he => ?_⟩
    · rw [← List.append_assoc, List.append_cons]
      exact search.forall_getLast? (by simp) (by simp)
    · rcases search.foundOr_eq_error he with he | ⟨i, hash, f, he⟩ <;> cases he
  | exhausted before left search =>
    -- without lookups the last attempt ends the run
    refine .inr ⟨search.forall_getLast? (by simp) fun x hx z => ?_, fun e he => ?_⟩
    · rintro rfl
      exact before.allowsRetry _ hx
    · rcases search.foundOr_eq_error he with he | ⟨i, hash, f, he⟩ <;> cases he

/-! ### Every run -/

lemma Settled.invalid_iff (h : Settled s intent fees xs r) (valid : fees.Valid) :
    (∃ e, r = .error (.invalidFee e)) ↔
      ∃ before y z t c, xs = before ++ [.priorityFee y, .feeCap z] ∧
        answeredInteger y = .ok t ∧ answeredInteger z = .ok c ∧ (t < 0 ∨ c < t) := by
  rcases h.noOffer_or with ⟨past, last, ys, zs, e, rfl, rfl, before, none⟩ | ⟨hlast, hr⟩
  · have asked := none.suggests (valid.of_replaces before.replaces).1
    simp only [asked.append_eq_iff, Except.error.injEq]
    have hiff := asked.invalid_iff
    simp only [Except.error.injEq] at hiff
    rw [hiff]
    constructor
    · rintro ⟨y, z, t, c, hzs, h⟩
      exact ⟨ys, y, z, t, c, ⟨rfl, hzs⟩, h⟩
    · rintro ⟨before, y, z, t, c, ⟨-, hzs⟩, h⟩
      exact ⟨y, z, t, c, hzs, h⟩
  · constructor
    · rintro ⟨e, he⟩
      exact absurd he (hr e)
    · rintro ⟨before, y, z, t, c, rfl, -⟩
      exact absurd rfl (hlast (.feeCap z) (by simp) z)

/-- What is wrong with the last suggestion is told if its numbers can be written. -/
lemma Settled.tells_iff {before : List (Exchange ω)} {y z : Except Fault Json.Value} {t c : Int}
    (h : Settled s intent fees xs r) (valid : fees.Valid)
    (hxs : xs = before ++ [.priorityFee y, .feeCap z]) (tip : answeredInteger y = .ok t)
    (cap : answeredInteger z = .ok c) (tip_writable : Numeral.isWritable t = true)
    (cap_writable : Numeral.isWritable c = true) : TellsInvalid r ↔ t < 0 ∨ c < t := by
  rcases h.noOffer_or with ⟨past, last, ys, zs, e, rfl, rfl, unsettled, none⟩ | ⟨hlast, -⟩
  · have asked := none.suggests (valid.of_replaces unsettled.replaces).1
    obtain ⟨rfl, hzs⟩ := asked.append_eq_iff.1 hxs
    rw [← asked.tells_iff hzs tip cap tip_writable cap_writable, tellsInvalid_error_iff,
      tellsInvalid_error_iff]
  · subst hxs
    exact absurd rfl (hlast (.feeCap z) (by simp) z)

lemma outbidding_of_settled (h : Settled s intent fees xs r) (valid : fees.Valid) :
    Outbidding intent fees xs r := by
  constructor
  case given => exact h.opens
  case invalid_iff => exact h.invalid_iff valid
  case invalid_of_tells => exact TellsInvalid.exists_invalid
  case tells_iff => exact h.tells_iff valid
  case carried =>
    intro payload params answer hx
    obtain ⟨before, after, rfl⟩ := List.append_of_mem hx
    obtain ⟨past, last, next, ys, zs, -, unsettled, offer, rfl, rfl⟩ := h.offered rfl
    exact ⟨rfl, rfl, (valid.of_replaces (unsettled.replaces.trans offer.replaces)).1⟩
  case outbids =>
    rintro before between after payload payload' params params' answer answer' rfl hb
    obtain ⟨past, last, next, us, vs, hsplit, unsettled, offer, rfl, rfl⟩ :=
      h.offered (List.append_assoc before (_ :: between) _).symm
    have hlast := (valid.of_replaces unsettled.replaces).1
    cases offer with
    | given =>
      -- nothing stands before the first attempt
      simp [unsettled.eq_nil] at hsplit
    | @boosted a past vs suggestion next asked boost =>
      -- the first of the two attempts is the last one of those so far
      obtain ⟨earlier, answer, later, rfl, hl⟩ := unsettled.exists_last_submit (by simp)
      obtain ⟨rfl, rfl⟩ := last_submit_unique (by simpa using hsplit) hb
        (by simp [hl, asked.submissions_eq_nil])
      cases asked with
      | @fees y z t c tip cap h₀ h₁ =>
        exact ⟨later, y, z, t, c, rfl, tip, cap, outbids_of_boostedFees hlast boost⟩

/-- Every attempt of a submission and every boost outbids what it replaces. -/
theorem replacements_outbid {fees : Fees} (valid : fees.Valid) :
    (∀ {ω : Type} {s : Submitter} {intent : Intent ω} {es : List (Program.Event (Chain ω))}
      {r : Except TxError Receipt}, (submit s intent fees).run.Runs es r →
      Outbidding intent fees (exchanges es) r) ∧
    ∀ {prev : Fees}, Relation.ReflTransGen Replaces fees prev →
      prev.Boostable ∧ prev.nonce = fees.nonce ∧ prev.gasLimit = fees.gasLimit := by
  refine ⟨fun run => outbidding_of_settled (settled_of_runs run) valid, fun boosts => ?_⟩
  obtain ⟨hv, nonce_eq, gasLimit_eq⟩ := valid.of_replaces boosts
  exact ⟨hv.boostable, nonce_eq, gasLimit_eq⟩

/-- A refused attempt is outbid although the suggestions collapse, and one that was waited for in
vain when they rise. -/
theorem replacements_outbid_collapsed_suggestions :
    let s : Submitter := { maxAttempts := 3 }
    let intent : Intent Unit := { payload := (), sender := "0xa" }
    let fees : Fees := { tip := 0, feeCap := 19, gasLimit := 21000, nonce := 7 }
    let second : Fees := { fees with tip := 1, feeCap := 22 }
    let third : Fees := { fees with tip := 34, feeCap := 112 }
    let r : Receipt := { hash := "0x2", blockNumber := 5, status := 1, gasUsed := 21000 }
    let script : List (Exchange Unit) := [
      .submit () (intent.params fees) (.error (.reported .value "already known")),
      .priorityFee (.ok (.int 0)), .feeCap (.ok (.int 0)),
      .submit () (intent.params second) (.ok "0x1"),
      .wait "0x1" s.timeout (.error (.notIncluded "0x1" "60")),
      .priorityFee (.ok (.int 30)), .feeCap (.ok (.int 100)),
      .submit () (intent.params third) (.ok "0x2"), .wait "0x2" s.timeout (.ok r)]
    let program := (submit s intent fees).run
    (submissions (exchanges (program.trace Chain.scripted script))).map (·.1.fees) =
        [fees, second, third] ∧
      Outbidding intent fees (exchanges (program.trace Chain.scripted script))
        (program.run Chain.scripted script).1 ∧ second.Boostable := by
  have valid : Fees.Valid { tip := 0, feeCap := 19, gasLimit := 21000, nonce := 7 } :=
    ⟨by decide, by decide, by decide, by decide⟩
  refine ⟨by decide +kernel, (replacements_outbid valid).1 (Program.runs_trace _ _ _), ?_⟩
  exact ((replacements_outbid valid).2 (.single ⟨{ tip := 0, feeCap := 0 }, by decide⟩)).1

/-- A boost need not tell that a negative tip is invalid, for the question for the fee cap may fail;
nor that a tip above the fee cap is, for its digits may be too many to be written. -/
theorem boost_not_told_invalid :
    (¬ ∀ (fees : Fees) (es : List (Program.Event (Chain Unit))) (r : Except TxError Fees) (t : Int)
      (cap : Except Fault Int), fees.Valid → (boostFees fees).run.Runs es r →
        feesRead (exchanges es) = [.ok t, cap] → t < 0 → TellsInvalid r) ∧
    ¬ ∀ (fees : Fees) (es : List (Program.Event (Chain Unit)))
      (r : Except TxError Fees) (t c : Int),
      fees.Valid → (boostFees fees).run.Runs es r →
        feesRead (exchanges es) = [.ok t, .ok c] → c < t → TellsInvalid r := by
  let fees : Fees := { tip := 0, feeCap := 0, gasLimit := 21000, nonce := 7 }
  have valid : fees.Valid := ⟨by decide, by decide, by decide, by decide⟩
  let program : Program (Chain Unit) (Except TxError Fees) := (boostFees fees).run
  refine ⟨fun told => ?_, fun told => ?_⟩
  · let down : Fault := .reported .connection "down"
    let script : List (Exchange Unit) := [.priorityFee (.ok (.int (-1))), .feeCap (.error down)]
    have read : feesRead (exchanges (program.trace Chain.scripted script)) =
        [.ok (-1), .error down] := by decide +kernel
    have ended : (program.run Chain.scripted script).1 = .error (.noSuggestion down) := by
      decide +kernel
    obtain ⟨e, invalid⟩ :=
      (told fees _ _ _ _ valid (Program.runs_trace Chain.scripted program script)
      read (by decide)).exists_invalid
    rw [ended] at invalid
    cases invalid
  · let tip : Int := Nat.pow 10 4300
    let script : List (Exchange Unit) := [.priorityFee (.ok (.int tip)), .feeCap (.ok (.int 0))]
    have read : feesRead (exchanges (program.trace Chain.scripted script)) = [.ok tip, .ok 0] := by
      decide +kernel
    have escaped : (program.run Chain.scripted script).1.mapError TxError.escape =
        .error (.other .value) := by decide +kernel
    obtain ⟨e, reason, text, ended, escape⟩ := told fees _ _ _ _ valid
      (Program.runs_trace Chain.scripted program script) read (by decide +kernel)
    rw [ended, Except.mapError, escape] at escaped
    cases escaped

end StakeRegistry.Tx
