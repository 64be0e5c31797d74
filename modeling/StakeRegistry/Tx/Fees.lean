/-
What a transaction offers to pay.

A transaction pays the base fee of its block and a tip, together at most the fee cap per unit of
gas; what the cap leaves for the base fee is the cap less the tip. A transaction replaces another at
the same nonce if it offers more than ten percent more of both parts: `boostedFees` takes the
greater of the old part and the one that the network suggests now, and `boost`s it.
-/
import StakeRegistry.Numeral.Integer

namespace StakeRegistry.Tx

/-- Why fees are no fees. -/
inductive InvalidFee where
  | negativeTip (tip : Int)
  | capBelowTip (feeCap tip : Int)
  | gasLimitNotPositive (gasLimit : Int)
  | negativeNonce (nonce : Int)
  | negativeSuggestedTip (tip : Int)
  | negativeSuggestedBase (feeCap tip : Int)
  deriving Repr, DecidableEq

/-- What is told about invalid fees, if the numbers in it can be written. -/
def InvalidFee.message : InvalidFee → Option String
  | negativeTip tip => do
    return "tip cannot be negative: " ++ (← Numeral.text? tip)
  | capBelowTip feeCap tip => do
    return "fee cap " ++ (← Numeral.text? feeCap) ++ " is below tip " ++ (← Numeral.text? tip)
  | gasLimitNotPositive gasLimit => do
    return "gas limit must be positive: " ++ (← Numeral.text? gasLimit)
  | negativeNonce nonce => do
    return "nonce cannot be negative: " ++ (← Numeral.text? nonce)
  | negativeSuggestedTip tip => do
    return "suggested tip cannot be negative: " ++ (← Numeral.text? tip)
  | negativeSuggestedBase feeCap tip => do
    return "new base fee cannot be negative: fee cap " ++ (← Numeral.text? feeCap) ++ " < tip " ++
      (← Numeral.text? tip)

/-- The fees, the gas limit and the nonce of one attempt at a transaction. -/
structure Fees where
  tip : Int
  feeCap : Int
  gasLimit : Int
  nonce : Int
  deriving Repr, DecidableEq

namespace Fees

/-- What the fee cap leaves for the base fee. -/
def baseFee (f : Fees) : Int :=
  f.feeCap - f.tip

/-- Fees that a transaction can carry. -/
structure Valid (f : Fees) : Prop where
  tip_nonneg : 0 ≤ f.tip
  tip_le_feeCap : f.tip ≤ f.feeCap
  gasLimit_pos : 0 < f.gasLimit
  nonce_nonneg : 0 ≤ f.nonce

/-- The fees themselves if a transaction can carry them. -/
def check (f : Fees) : Except InvalidFee Fees :=
  if f.tip < 0 then .error (.negativeTip f.tip)
  else if f.feeCap < f.tip then .error (.capBelowTip f.feeCap f.tip)
  else if f.gasLimit ≤ 0 then .error (.gasLimitNotPositive f.gasLimit)
  else if f.nonce < 0 then .error (.negativeNonce f.nonce)
  else .ok f

/-- The check passes exactly for fees that a transaction can carry, and changes nothing. -/
theorem check_eq_ok_iff {f g : Fees} : f.check = .ok g ↔ f.Valid ∧ g = f := by
  unfold check
  constructor
  · intro h
    split at h
    · cases h
    split at h
    · cases h
    split at h
    · cases h
    split at h
    · cases h
    cases h
    exact ⟨⟨by omega, by omega, by omega, by omega⟩, rfl⟩
  · rintro ⟨h, rfl⟩
    have := h.tip_nonneg
    have := h.tip_le_feeCap
    have := h.gasLimit_pos
    have := h.nonce_nonneg
    rw [if_neg (by omega), if_neg (by omega), if_neg (by omega), if_neg (by omega)]

end Fees

/-- A tenth more, rounded down, and one: more than ten percent more even of zero. -/
def boost (n : Int) : Int :=
  n + n.fdiv 10 + 1

/-- A boosted value is more than ten percent above the value. -/
theorem lt_boost (n : Int) : 11 * n < 10 * boost n := by
  simp only [boost, Int.fdiv_eq_ediv_of_nonneg n (by omega : (0 : Int) ≤ 10)]
  omega

/-- A boosted value is at most ten percent and one above the value. -/
theorem boost_le (n : Int) : 10 * boost n ≤ 11 * n + 10 := by
  simp only [boost, Int.fdiv_eq_ediv_of_nonneg n (by omega : (0 : Int) ≤ 10)]
  omega

/-- A suggestion of the network: a tip and a fee cap. -/
structure Suggestion where
  tip : Int
  feeCap : Int
  deriving Repr, DecidableEq

/-- The suggestion itself if its two parts are not negative. -/
def Suggestion.check (s : Suggestion) : Except InvalidFee Suggestion :=
  if s.tip < 0 then .error (.negativeSuggestedTip s.tip)
  else if s.feeCap < s.tip then .error (.negativeSuggestedBase s.feeCap s.tip)
  else .ok s

/-- What is wrong with a suggestion can be told if its two numbers can be written. -/
theorem Suggestion.exists_message_of_check {s : Suggestion} {e : InvalidFee}
    (invalid : s.check = .error e) (tip : Numeral.isWritable s.tip = true)
    (feeCap : Numeral.isWritable s.feeCap = true) : ∃ text, e.message = some text := by
  unfold check at invalid
  split at invalid
  · cases invalid
    exact ⟨_, by rw [InvalidFee.message, Numeral.text?_of_isWritable tip]; rfl⟩
  split at invalid
  · cases invalid
    exact ⟨_, by rw [InvalidFee.message, Numeral.text?_of_isWritable feeCap,
      Numeral.text?_of_isWritable tip]; rfl⟩
  · cases invalid

/-- The fees that replace an attempt, given what the network suggests now. -/
def boostedFees (f : Fees) (s : Suggestion) : Except InvalidFee Fees :=
  if s.tip < 0 ∨ s.feeCap < s.tip then .error (.negativeSuggestedBase s.feeCap s.tip)
  else
    let tip := boost (max s.tip f.tip)
    let baseFee := boost (max (s.feeCap - s.tip) f.baseFee)
    { f with tip, feeCap := baseFee + tip : Fees }.check

end StakeRegistry.Tx
