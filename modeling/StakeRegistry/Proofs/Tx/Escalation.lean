/-
How far fees can escalate.

A boost adds a tenth, rounded down, and one, so that a value and ten together grow by at most a
tenth: `10 * (boost n + 10) ≤ 11 * (n + 10)`. What a transaction offers after `k` boosts is
therefore bounded by the highest tip and the highest base fee that were given or suggested so far,
whatever the node suggests in between (`Fees.Within`).

`suggestionsIn` reads the suggestions out of the exchanges of a run. Before every attempt as many of
them stand as attempts were made, and the attempt offers the given fees, boosted once with each of
them in turn (`Boosted`, by induction on the attempts that were not included in time). The main
statement is `escalation_bounded`.
-/
import Mathlib.Algebra.Order.Ring.Int
import Mathlib.Tactic.Positivity
import Mathlib.Tactic.Ring
import StakeRegistry.Proofs.Tx.CallDiscipline
import StakeRegistry.Proofs.Tx.Outbidding

namespace StakeRegistry.Tx

variable {ω : Type}

/-- A suggestion that fees can be boosted with. -/
def Suggestion.Admissible (s : Suggestion) : Prop :=
  0 ≤ s.tip ∧ s.tip ≤ s.feeCap

instance (s : Suggestion) : Decidable s.Admissible :=
  inferInstanceAs (Decidable (_ ∧ _))

/-- What a suggestion leaves for the base fee. -/
def Suggestion.baseFee (s : Suggestion) : Int :=
  s.feeCap - s.tip

namespace Fees

/-- The highest of the given tip and all suggested ones. -/
def highestTip (given : Fees) (suggestions : List Suggestion) : Int :=
  (suggestions.map (·.tip)).foldl max given.tip

/-- The highest of the given base fee and all suggested ones. -/
def highestBaseFee (given : Fees) (suggestions : List Suggestion) : Int :=
  (suggestions.map (·.baseFee)).foldl max given.baseFee

/-- The fees are at most what `k` boosts make of a tip and a base fee. -/
structure Within (f : Fees) (k : Nat) (tip baseFee : Int) : Prop where
  tip_le : 10 ^ k * (f.tip + 10) ≤ 11 ^ k * (tip + 10)
  baseFee_le : 10 ^ k * (f.baseFee + 10) ≤ 11 ^ k * (baseFee + 10)
  feeCap_le : 10 ^ k * (f.feeCap + 20) ≤ 11 ^ k * (tip + baseFee + 20)

end Fees

/-- The tips that were read. -/
def tipsIn (xs : List (Exchange ω)) : List Int :=
  xs.filterMap fun
    | .priorityFee answer => (answeredInteger answer).toOption
    | _ => none

/-- The fee caps that were read. -/
def feeCapsIn (xs : List (Exchange ω)) : List Int :=
  xs.filterMap fun
    | .feeCap answer => (answeredInteger answer).toOption
    | _ => none

/-- The suggestions of the node that fees can be boosted with: each consists of a tip and the fee
cap that was read next. -/
def suggestionsIn (xs : List (Exchange ω)) : List Suggestion :=
  (List.zipWith Suggestion.mk (tipsIn xs) (feeCapsIn xs)).filter fun s => s.Admissible

/-- How the fees of a submission with the given first ones escalate. -/
structure Escalates (s : Submitter) (fees : Fees) (xs : List (Exchange ω)) : Prop where
  /-- One suggestion stands before every attempt but the first, and the attempt offers the given
  fees, boosted once with each suggestion before it. -/
  boosts : ∀ {before payload params answer after},
    xs = before ++ .submit payload params answer :: after →
    (suggestionsIn before).length = (submissions before).length ∧
      (suggestionsIn before).foldlM boostedFees fees = .ok params.fees
  /-- What an attempt offers is bounded by the number of attempts before it and by what was
  suggested before it. -/
  within_place : ∀ {before payload params answer after},
    xs = before ++ .submit payload params answer :: after →
    params.fees.Within (submissions before).length (fees.highestTip (suggestionsIn before))
      (fees.highestBaseFee (suggestionsIn before))
  /-- There are only so many attempts, and no suggestion of the whole run carries any of them
  further. -/
  within_attempts : ∀ {payload params answer}, .submit payload params answer ∈ xs →
    params.fees.Within (s.maxAttempts - 1) (fees.highestTip (suggestionsIn xs))
      (fees.highestBaseFee (suggestionsIn xs))

variable {s : Submitter} {intent : Intent ω} {fees last next : Fees} {past : List Attempt}
  {xs ys zs : List (Exchange ω)} {r : Except TxError Receipt}

/-! ### One part of the fees -/

lemma le_foldl_max (x : Int) (ns : List Int) : x ≤ ns.foldl max x := by
  induction ns generalizing x with
  | nil => exact le_refl x
  | cons n ns ih => exact (le_max_left x n).trans (ih (max x n))

/-- A value and ten together grow by at most a tenth. -/
lemma boost_add_ten_le (n : Int) : 10 * (boost n + 10) ≤ 11 * (n + 10) := by
  have h := boost_le n
  omega

/-- The step of every bound: the value that is boosted is the last one or a suggested one, and the
bound grows with the highest value so far. -/
lemma boost_max_le {k : Nat} {n x m : Int} (bounded : 10 ^ k * (n + 10) ≤ 11 ^ k * (x + 10))
    (hx : 0 ≤ x) :
    10 ^ (k + 1) * (boost (max m n) + 10) ≤ 11 ^ (k + 1) * (max x m + 10) := by
  have hpow : (10 : Int) ^ k ≤ 11 ^ k := pow_le_pow_left₀ (by decide) (by decide) k
  have last : 10 ^ k * (n + 10) ≤ 11 ^ k * (max x m + 10) :=
    bounded.trans (Int.mul_le_mul_of_nonneg_left (by omega) (by positivity))
  have suggested : 10 ^ k * (m + 10) ≤ 11 ^ k * (max x m + 10) := calc
    10 ^ k * (m + 10) ≤ 10 ^ k * (max x m + 10) :=
      Int.mul_le_mul_of_nonneg_left (by omega) (by positivity)
    _ ≤ 11 ^ k * (max x m + 10) := Int.mul_le_mul_of_nonneg_right hpow (by omega)
  have either : 10 ^ k * (max m n + 10) ≤ 11 ^ k * (max x m + 10) := by
    rcases max_choice m n with h | h
    · rwa [h]
    · rwa [h]
  calc 10 ^ (k + 1) * (boost (max m n) + 10)
      = 10 ^ k * (10 * (boost (max m n) + 10)) := by ring
    _ ≤ 10 ^ k * (11 * (max m n + 10)) :=
        Int.mul_le_mul_of_nonneg_left (boost_add_ten_le _) (by positivity)
    _ = 11 * (10 ^ k * (max m n + 10)) := by ring
    _ ≤ 11 * (11 ^ k * (max x m + 10)) := by omega
    _ = 11 ^ (k + 1) * (max x m + 10) := by ring

/-- More boosts and higher values only widen a bound. -/
lemma bound_mono {k l : Nat} {n x y : Int} (bounded : 10 ^ k * (n + 10) ≤ 11 ^ k * (x + 10))
    (hx : 0 ≤ x) (hkl : k ≤ l) (hxy : x ≤ y) : 10 ^ l * (n + 10) ≤ 11 ^ l * (y + 10) := by
  obtain ⟨d, rfl⟩ := Nat.exists_eq_add_of_le hkl
  have hpow : (10 : Int) ^ d ≤ 11 ^ d := pow_le_pow_left₀ (by decide) (by decide) d
  calc 10 ^ (k + d) * (n + 10)
      = 10 ^ d * (10 ^ k * (n + 10)) := by ring
    _ ≤ 10 ^ d * (11 ^ k * (x + 10)) := Int.mul_le_mul_of_nonneg_left bounded (by positivity)
    _ ≤ 11 ^ d * (11 ^ k * (x + 10)) := Int.mul_le_mul_of_nonneg_right hpow (by positivity)
    _ = 11 ^ (k + d) * (x + 10) := by ring
    _ ≤ 11 ^ (k + d) * (y + 10) := Int.mul_le_mul_of_nonneg_left (by omega) (by positivity)

/-! ### Boosts one after another -/

namespace Fees

/-- The bound on the fee cap follows from those on its two parts. -/
lemma within_iff {f : Fees} {k : Nat} {tip baseFee : Int} :
    f.Within k tip baseFee ↔ 10 ^ k * (f.tip + 10) ≤ 11 ^ k * (tip + 10) ∧
      10 ^ k * (f.baseFee + 10) ≤ 11 ^ k * (baseFee + 10) := by
  constructor
  · intro h
    exact ⟨h.tip_le, h.baseFee_le⟩
  · rintro ⟨tip_le, baseFee_le⟩
    refine ⟨tip_le, baseFee_le, ?_⟩
    have parts : f.feeCap + 20 = (f.tip + 10) + (f.baseFee + 10) := by
      simp only [Fees.baseFee]
      omega
    calc 10 ^ k * (f.feeCap + 20)
        = 10 ^ k * (f.tip + 10) + 10 ^ k * (f.baseFee + 10) := by rw [parts, mul_add]
      _ ≤ 11 ^ k * (tip + 10) + 11 ^ k * (baseFee + 10) := add_le_add tip_le baseFee_le
      _ = 11 ^ k * (tip + baseFee + 20) := by ring

lemma Valid.baseFee_nonneg {f : Fees} (h : f.Valid) : 0 ≤ f.baseFee := by
  have := h.tip_le_feeCap
  simp only [Fees.baseFee]
  omega

lemma highestTip_append (given : Fees) (ss ss' : List Suggestion) :
    given.highestTip (ss ++ ss') = (ss'.map (·.tip)).foldl max (given.highestTip ss) := by
  simp [highestTip]

lemma highestBaseFee_append (given : Fees) (ss ss' : List Suggestion) :
    given.highestBaseFee (ss ++ ss') =
      (ss'.map (·.baseFee)).foldl max (given.highestBaseFee ss) := by
  simp [highestBaseFee]

lemma Valid.highestTip_nonneg {given : Fees} (h : given.Valid) (ss : List Suggestion) :
    0 ≤ given.highestTip ss :=
  h.tip_nonneg.trans (le_foldl_max _ _)

lemma Valid.highestBaseFee_nonneg {given : Fees} (h : given.Valid) (ss : List Suggestion) :
    0 ≤ given.highestBaseFee ss :=
  h.baseFee_nonneg.trans (le_foldl_max _ _)

/-- More boosts and more suggestions only widen the bounds. -/
lemma Within.mono {given f : Fees} {k l : Nat} {ss : List Suggestion} (valid : given.Valid)
    (h : f.Within k (given.highestTip ss) (given.highestBaseFee ss)) (hkl : k ≤ l)
    (ss' : List Suggestion) :
    f.Within l (given.highestTip (ss ++ ss')) (given.highestBaseFee (ss ++ ss')) := by
  rw [highestTip_append, highestBaseFee_append]
  exact within_iff.2 ⟨bound_mono h.tip_le (valid.highestTip_nonneg ss) hkl (le_foldl_max _ _),
    bound_mono h.baseFee_le (valid.highestBaseFee_nonneg ss) hkl (le_foldl_max _ _)⟩

/-- Fees that a transaction can carry are boosted with any sequence of admissible suggestions, and
stay within the bounds of as many boosts. -/
lemma Valid.foldlM_boostedFees (valid : fees.Valid) {suggestions : List Suggestion}
    (admissible : ∀ s ∈ suggestions, s.Admissible) :
    ∃ last, suggestions.foldlM boostedFees fees = .ok last ∧ last.Valid ∧
      last.Within suggestions.length (fees.highestTip suggestions)
        (fees.highestBaseFee suggestions) := by
  induction suggestions using List.reverseRecOn with
  | nil => exact ⟨fees, rfl, valid, within_iff.2 ⟨le_refl _, le_refl _⟩⟩
  | append_singleton ss s ih =>
    obtain ⟨last, hlast, last_valid, bounded⟩ := ih fun s' hs' => admissible s' (by simp [hs'])
    obtain ⟨tip_nonneg, tip_le⟩ := admissible s (by simp)
    have hnext : boostedFees last s = .ok (boosted last s) := by
      rw [boostedFees_of_valid last_valid, if_neg (by omega)]
    have out := outbids_of_boostedFees last_valid hnext
    refine ⟨boosted last s, ?_, out.valid, within_iff.2 ⟨?_, ?_⟩⟩
    · rw [List.foldlM_append, hlast]
      show List.foldlM boostedFees last [s] = _
      rw [List.foldlM_cons, hnext]
      rfl
    · rw [out.tip_eq, highestTip_append, List.length_append]
      exact boost_max_le bounded.tip_le (valid.highestTip_nonneg ss)
    · rw [out.baseFee_eq, highestBaseFee_append, List.length_append]
      exact boost_max_le bounded.baseFee_le (valid.highestBaseFee_nonneg ss)

end Fees

/-! ### The suggestions of a run -/

@[simp] lemma tipsIn_append : tipsIn (xs ++ ys) = tipsIn xs ++ tipsIn ys :=
  List.filterMap_append

@[simp] lemma feeCapsIn_append : feeCapsIn (xs ++ ys) = feeCapsIn xs ++ feeCapsIn ys :=
  List.filterMap_append

/-- Exchanges that hold as many tips as fee caps can be read apart from what follows. -/
lemma suggestionsIn_append (h : (tipsIn xs).length = (feeCapsIn xs).length) :
    suggestionsIn (xs ++ ys) = suggestionsIn xs ++ suggestionsIn ys := by
  simp only [suggestionsIn, tipsIn_append, feeCapsIn_append, List.zipWith_append h,
    List.filter_append]

lemma admissible_of_mem_suggestionsIn {s : Suggestion} (h : s ∈ suggestionsIn xs) :
    s.Admissible := by
  simpa using List.of_mem_filter h

/-- The exchanges hold one suggestion for each boost that leads from the given fees to the next. -/
structure Boosted (fees next : Fees) (boosts : Nat) (xs : List (Exchange ω)) : Prop where
  paired : (tipsIn xs).length = (feeCapsIn xs).length
  length_eq : (suggestionsIn xs).length = boosts
  foldlM_eq : (suggestionsIn xs).foldlM boostedFees fees = .ok next

/-- Exchanges that ask for no fees change nothing. -/
lemma Boosted.append {boosts : Nat} (h : Boosted fees next boosts xs) (tips : tipsIn ys = [])
    (caps : feeCapsIn ys = []) : Boosted fees next boosts (xs ++ ys) := by
  have none : suggestionsIn ys = [] := by simp [suggestionsIn, tips]
  have same : suggestionsIn (xs ++ ys) = suggestionsIn xs := by
    rw [suggestionsIn_append h.paired, none, List.append_nil]
  exact {
    paired := by simp [tips, caps, h.paired]
    length_eq := same ▸ h.length_eq
    foldlM_eq := same ▸ h.foldlM_eq }

/-- A question for fees that is answered well holds its suggestion. -/
lemma Suggests.reads {suggestion : Suggestion} (h : Suggests ys (.ok suggestion)) :
    tipsIn ys = [suggestion.tip] ∧ feeCapsIn ys = [suggestion.feeCap] ∧
      suggestionsIn ys = [suggestion] := by
  cases h with
  | @fees y z t c tip cap tip_nonneg tip_le =>
    have tips : tipsIn ([.priorityFee y, .feeCap z] : List (Exchange ω)) = [t] := by
      simp [tipsIn, tip, Except.toOption]
    have caps : feeCapsIn ([.priorityFee y, .feeCap z] : List (Exchange ω)) = [c] := by
      simp [feeCapsIn, cap, Except.toOption]
    refine ⟨tips, caps, ?_⟩
    simp [suggestionsIn, tips, caps, Suggestion.Admissible, tip_nonneg, tip_le]

/-- It adds one boost. -/
lemma Boosted.ask {boosts : Nat} {suggestion : Suggestion} (h : Boosted fees last boosts xs)
    (asked : Suggests ys (.ok suggestion)) (boost : boostedFees last suggestion = .ok next) :
    Boosted fees next (boosts + 1) (xs ++ ys) := by
  obtain ⟨tips, caps, one⟩ := asked.reads
  have more : suggestionsIn (xs ++ ys) = suggestionsIn xs ++ [suggestion] := by
    rw [suggestionsIn_append h.paired, one]
  refine ⟨by simp [tips, caps, h.paired], by simp [more, h.length_eq], ?_⟩
  rw [more, List.foldlM_append, h.foldlM_eq]
  show List.foldlM boostedFees last [suggestion] = _
  rw [List.foldlM_cons, boost]
  rfl

lemma Failed.boosted {ending : Ending} {boosts : Nat} (failed : Failed s intent next ending zs)
    (h : Boosted fees next boosts xs) : Boosted fees next boosts (xs ++ zs) := by
  cases failed with
  | refused hr => exact h.append rfl rfl
  | timedOut ht => exact h.append rfl rfl

/-- The next attempt offers the given fees, boosted as often as attempts were made. -/
lemma Unsettled.boosted_of_offer (h : Unsettled s intent fees past last xs)
    (offer : Offer last past ys next) : Boosted fees next past.length (xs ++ ys) := by
  induction h generalizing ys next with
  | start =>
    cases offer with
    | given => exact ⟨rfl, rfl, rfl⟩
  | again before earlier failed ih =>
    have made := failed.boosted (ih earlier)
    rw [List.append_assoc] at made
    cases offer with
    | boosted asked boost => exact made.ask asked boost

/-! ### Every run -/

/-- The attempt after the exchanges of `before` has boosted the given fees with the suggestions
there. -/
lemma Offered.boosted {before : List (Exchange ω)} {payload : ω} {params : Params}
    (h : Offered s intent fees before payload params) :
    Boosted fees params.fees (submissions before).length before := by
  obtain ⟨past, last, next, us, vs, rfl, unsettled, offer, rfl, rfl⟩ := h
  have made := unsettled.boosted_of_offer offer
  rw [submissions_append, offer.submissions_eq_nil, List.append_nil, unsettled.length_submissions]
  exact made

lemma Boosted.within {boosts : Nat} (h : Boosted fees next boosts xs) (valid : fees.Valid) :
    next.Within boosts (fees.highestTip (suggestionsIn xs))
      (fees.highestBaseFee (suggestionsIn xs)) := by
  have admissible : ∀ s ∈ suggestionsIn xs, s.Admissible := fun _ => admissible_of_mem_suggestionsIn
  obtain ⟨last, hlast, -, bounded⟩ := valid.foldlM_boostedFees admissible
  obtain rfl : last = next := by
    have h' := hlast.symm.trans h.foldlM_eq
    exact Except.ok.inj h'
  rwa [h.length_eq] at bounded

lemma escalates_of_settled (h : Settled s intent fees xs r) (valid : fees.Valid) :
    Escalates s fees xs := by
  constructor
  case boosts =>
    intro before payload params answer after hxs
    have made := (h.offered hxs).boosted
    exact ⟨made.length_eq, made.foldlM_eq⟩
  case within_place =>
    intro before payload params answer after hxs
    exact (h.offered hxs).boosted.within valid
  case within_attempts =>
    intro payload params answer hx
    obtain ⟨before, after, hxs⟩ := List.append_of_mem hx
    have made := (h.offered hxs).boosted
    have few : (submissions before).length ≤ s.maxAttempts - 1 := by
      have hle :
        (submissions before).length + ((submissions after).length + 1) ≤ s.maxAttempts := by
        simpa [hxs, Exchange.submission?] using h.length_submissions_le
      omega
    rw [hxs, suggestionsIn_append made.paired]
    exact (made.within valid).mono valid few _

/-- Fees escalate by a tenth a boost from the highest values that were given or suggested: any
sequence of admissible suggestions boosts them and keeps them within the bounds, and so does every
run. -/
theorem escalation_bounded {fees : Fees} (valid : fees.Valid) :
    (∀ {suggestions : List Suggestion}, (∀ s ∈ suggestions, s.Admissible) →
      ∃ last, suggestions.foldlM boostedFees fees = .ok last ∧
        last.Within suggestions.length (fees.highestTip suggestions)
          (fees.highestBaseFee suggestions)) ∧
    ∀ {ω : Type} {s : Submitter} {intent : Intent ω} {es : List (Program.Event (Chain ω))}
      {r : Except TxError Receipt}, (submit s intent fees).run.Runs es r →
      Escalates s fees (exchanges es) := by
  constructor
  · intro suggestions admissible
    obtain ⟨last, hlast, -, bounded⟩ := valid.foldlM_boostedFees admissible
    exact ⟨last, hlast, bounded⟩
  · intro ω s intent es r run
    exact escalates_of_settled (settled_of_runs run) valid

/-- Two boosts carry a tip of zero and a base fee of nineteen no further than those of the highest
suggestions, with the suggestions at hand or in the run that reads them. -/
theorem escalation_bounded_two_boosts :
    let s : Submitter := { maxAttempts := 3 }
    let intent : Intent Unit := { payload := (), sender := "0xa" }
    let fees : Fees := { tip := 0, feeCap := 19, gasLimit := 21000, nonce := 7 }
    let second : Fees := { fees with tip := 1, feeCap := 22 }
    let third : Fees := { fees with tip := 34, feeCap := 112 }
    let suggestions : List Suggestion := [{ tip := 0, feeCap := 0 }, { tip := 30, feeCap := 100 }]
    let r : Receipt := { hash := "0x2", blockNumber := 5, status := 1, gasUsed := 21000 }
    let script : List (Exchange Unit) := [
      .submit () (intent.params fees) (.error (.reported .value "already known")),
      .priorityFee (.ok (.int 0)), .feeCap (.ok (.int 0)),
      .submit () (intent.params second) (.ok "0x1"),
      .wait "0x1" s.timeout (.error (.notIncluded "0x1" "60")),
      .priorityFee (.ok (.int 30)), .feeCap (.ok (.int 100)),
      .submit () (intent.params third) (.ok "0x2"), .wait "0x2" s.timeout (.ok r)]
    let program := (submit s intent fees).run
    (fees.highestTip suggestions = 30 ∧ fees.highestBaseFee suggestions = 70) ∧
      (∃ last, suggestions.foldlM boostedFees fees = .ok last ∧ last.Within 2 30 70) ∧
      (submissions (exchanges (program.trace Chain.scripted script))).map (·.1.fees) =
        [fees, second, third] ∧
      suggestionsIn (exchanges (program.trace Chain.scripted script)) = suggestions ∧
      Escalates s fees (exchanges (program.trace Chain.scripted script)) := by
  intro s intent fees second third suggestions r script program
  have valid : fees.Valid := ⟨by decide, by decide, by decide, by decide⟩
  have admissible : ∀ s ∈ suggestions, s.Admissible := by decide
  refine ⟨by decide, ?_, by decide +kernel, by decide +kernel, ?_⟩
  · exact (escalation_bounded valid).1 admissible
  · exact (escalation_bounded valid).2 (Program.runs_trace _ _ _)

end StakeRegistry.Tx
