/-
Getting one transaction included.

A submitter makes attempts one after another, all at the same nonce. An attempt is broadcast and
waited for.

* The node may refuse the attempt because it does not outbid the one before, or the wait may end
  without inclusion. Then the next attempt offers boosted fees.
* The node may say that the nonce is used. Then one of the attempts before may be included after
  all, and its receipt is the result.
* When no attempt is left, an attempt before may be included as well.
* Every other failure ends the submission.

A submission that fails does so for one of the reasons of `TxError`. The caller gets the reason with
its text; where the text cannot be put together, that failure escapes in its place
(`TxError.escape`).
-/
import StakeRegistry.Text.Blank
import StakeRegistry.Text.Lower
import StakeRegistry.Tx.Chain

namespace StakeRegistry.Tx

/-- How an attempt ended that was not included in time. -/
inductive Ending where
  /-- The node refused it. -/
  | rejected
  /-- It was broadcast under a hash, and the wait for it was in vain. -/
  | timedOut (hash : String)
  deriving Repr, DecidableEq

/-- An attempt that was not included in time. -/
structure Attempt where
  index : Nat
  fees : Fees
  ending : Ending
  deriving Repr, DecidableEq

/-- The hash under which an attempt was broadcast. -/
def Attempt.hash? (a : Attempt) : Option String :=
  match a.ending with
  | .rejected => none
  | .timedOut hash => some hash

/-- The hashes by which attempts can be looked up: an empty hash names nothing. -/
def lookupHashes (attempts : List Attempt) : List String :=
  (attempts.filterMap Attempt.hash?).filter (! ·.isEmpty)

/-- Why a transaction was not submitted. -/
inductive TxError where
  /-- The fees or the suggested fees are no fees. -/
  | invalidFee (e : InvalidFee)
  /-- The node suggests no fees. -/
  | noSuggestion (cause : Fault)
  /-- An attempt could not be broadcast. -/
  | submissionFailed (description : String) (attempt : Nat) (cause : Fault)
  /-- The wait for an attempt failed. -/
  | waitFailed (description hash : String) (attempt : Nat) (cause : Fault)
  /-- An earlier attempt could not be looked up. -/
  | lookupFailed (hash : String) (attempt : Nat) (cause : Fault)
  /-- No attempt was included; the attempts stand in their order. -/
  | exhausted (description : String) (limit : Nat) (attempts : List Attempt)
  deriving Repr, DecidableEq

/-- A text with numbers in it, or the kind of the failure that takes its place. -/
def orUnwritable : Option String → Except FaultKind String
  | some text => .ok text
  | none => .error .value

/-- What is told about a failed submission, or the kind of the failure that takes its place. -/
def TxError.message : TxError → Except FaultKind String
  | invalidFee e => orUnwritable e.message
  | noSuggestion cause => do
    return "failed to get fee suggestions: " ++ (← cause.text)
  | submissionFailed description attempt cause => do
    -- what the node says is looked at before anything is told
    let cause ← cause.text
    let attempt ← orUnwritable (Numeral.text? attempt)
    return description ++ " submission failed on attempt " ++ attempt ++ ": " ++ cause
  | waitFailed description hash _ cause => do
    return "failed waiting for " ++ description ++ " " ++ hash ++ ": " ++ (← cause.text)
  | lookupFailed hash _ cause => do
    return "failed to look up receipt for " ++ hash ++ ": " ++ (← cause.text)
  | exhausted description limit _ => do
    let limit ← orUnwritable (Numeral.text? limit)
    return description ++ " not included after " ++ limit ++ " attempts"

/-- What the caller of a failed submission gets. -/
inductive Escape where
  /-- The reason of the failure with its text. -/
  | error (reason : TxError) (text : String)
  /-- Another failure, which came up when the text was put together. -/
  | other (kind : FaultKind)
  deriving Repr, DecidableEq

/-- What escapes from a submission that failed for a reason. -/
def TxError.escape (e : TxError) : Escape :=
  match e.message with
  | .ok text => .error e text
  | .error kind => .other kind

theorem TxError.escape_eq_error_iff {e e' : TxError} {text : String} :
    e.escape = .error e' text ↔ e' = e ∧ e.message = .ok text := by
  unfold TxError.escape
  cases e.message <;> simp [eq_comm]

theorem TxError.escape_eq_other_iff {e : TxError} {kind : FaultKind} :
    e.escape = .other kind ↔ e.message = .error kind := by
  unfold TxError.escape
  cases e.message <;> simp

/-- What a node says when an attempt does not outbid the one before. -/
def refusals : List String :=
  ["replacement transaction underpriced", "already known"]

/-- Does the fault only mean that the attempt does not outbid the one before? -/
def isRefusal (f : Fault) : Bool :=
  f.tells fun text => refusals.any fun t => Text.contains t (Text.lower text)

/-- Does the fault say that the nonce is used? -/
def isNonceUsed (f : Fault) : Bool :=
  f.tells fun text => Text.contains "nonce too low" (Text.lower text)

/-- One transaction to be included. -/
structure Intent (ω : Type) where
  payload : ω
  sender : String
  value : Int := 0
  gasLimit : Int := 3000000
  description : String := "tx"

variable {ω : Type}

/-- The parameters of an attempt with the given fees. -/
def Intent.params (i : Intent ω) (f : Fees) : Params where
  sender := i.sender
  value := i.value
  gas := f.gasLimit
  nonce := f.nonce
  maxFeePerGas := f.feeCap
  maxPriorityFeePerGas := f.tip

/-- How transactions are submitted. -/
structure Submitter where
  /-- How many attempts are made. -/
  maxAttempts : Nat := 10
  /-- How long each attempt is waited for. -/
  timeout : Seconds := .whole 60
  attempts_pos : 0 < maxAttempts := by decide

/-- The submitter that is used if nothing else is said. -/
def Submitter.standard : Submitter := {}

/-- A submitter with a number of attempts, which has to be positive. -/
def Submitter.make? (maxAttempts : Int) (timeout : Seconds) : Option Submitter :=
  if h :
    0 < maxAttempts.toNat then some { maxAttempts := maxAttempts.toNat, timeout, attempts_pos := h }
  else none

/-- What the surroundings answer, as a step that does not fail. -/
def ask {ε α : Type} (p : Program (Chain ω) α) : OnChain ω ε α :=
  ExceptT.lift p

/-- A record of the submission. -/
def note (level : LogLevel) (message : String) : OnChain ω TxError Unit :=
  ask (Chain.log level .submission message)

/-- Ask for an integer. -/
def askInteger (question : Program (Chain ω) (Except Fault Json.Value)) :
    OnChain ω TxError Int := do
  match ← ask question with
  | .ok v =>
    match v.toInteger with
    | .ok n => return n
    | .error e => throw (.noSuggestion (.unreadable e))
  | .error f => throw (.noSuggestion f)

/-- Let an error of the fees end a submission. -/
def orInvalid {α : Type} : Except InvalidFee α → OnChain ω TxError α
  | .ok a => pure a
  | .error e => throw (.invalidFee e)

/-- Ask the node what to pay. -/
def suggestFees : OnChain ω TxError Suggestion := do
  let tip ← askInteger Chain.priorityFee
  let feeCap ← askInteger Chain.feeCap
  orInvalid (Suggestion.check { tip, feeCap })

/-- Fees as they are told in the log. -/
def Fees.text (f : Fees) : String :=
  "tip=" ++ toString f.tip ++ " fee_cap=" ++ toString f.feeCap ++ " base_fee=" ++ toString f.baseFee

/-- Ask the node what to pay and boost the fees of the last attempt. -/
def boostFees (fees : Fees) : OnChain ω TxError Fees := do
  note .debug ("gas params for tx that was not included: " ++ fees.text)
  let boosted ← orInvalid (boostedFees fees (← suggestFees))
  note .debug ("boosted gas: " ++ boosted.text)
  return boosted

/-- The receipt of the first of the given attempts that is included. -/
def findIncluded : List Attempt → OnChain ω TxError (Option Receipt)
  | [] => return none
  | a :: rest =>
    match a.ending with
    | .rejected => findIncluded rest
    | .timedOut hash =>
      if hash.isEmpty then findIncluded rest
      else do
        match ← ask (Chain.receipt hash) with
        | .ok (some r) => return some r
        | .ok none => findIncluded rest
        | .error f => throw (.lookupFailed hash a.index f)

/-- The fees of the next attempt: those given for the first, boosted ones for every other. -/
def nextFees (s : Submitter) (intent : Intent ω) (past : List Attempt) (fees : Fees) :
    OnChain ω TxError Fees := do
  match past with
  | [] => return fees
  | _ :: _ =>
    note .info (intent.description ++ " not included, boosting fees by 10% (attempt " ++
      toString (past.length + 1) ++ "/" ++ toString s.maxAttempts ++ ")")
    boostFees fees

/-- The end of a submission without an attempt left. -/
def giveUp (s : Submitter) (intent : Intent ω) (past : List Attempt) :
    OnChain ω TxError Receipt := do
  match ← findIncluded past with
  | some r =>
    note .info (intent.description ++ " included through earlier attempt " ++ r.hash)
    return r
  | none => throw (.exhausted intent.description s.maxAttempts past.reverse)

/-- The end of a submission whose nonce is used. -/
def afterUsedNonce (intent : Intent ω) (past : List Attempt) (fees : Fees) (cause : Fault) :
    OnChain ω TxError Receipt := do
  match ← findIncluded past with
  | some r =>
    note .info (intent.description ++ ": nonce " ++ toString fees.nonce ++
      " already used by earlier attempt " ++ r.hash)
    return r
  | none => throw (.submissionFailed intent.description past.length cause)

/-- What is told about an attempt that was broadcast. -/
def sentText (intent : Intent ω) (index : Nat) (fees : Fees) (hash : String) : String :=
  intent.description ++ " sent (attempt " ++ toString index ++ ", nonce " ++ toString fees.nonce ++
    ", tip " ++ toString fees.tip ++ ", fee cap " ++ toString fees.feeCap ++ "): " ++ hash

/-- Make up to `left` more attempts, after the attempts of `past`, of which the last comes first. -/
def attemptFrom (s : Submitter) (intent : Intent ω) (past : List Attempt) (fees : Fees) :
    (left : Nat) → OnChain ω TxError Receipt
  | 0 => giveUp s intent past
  | left + 1 => do
    let index := past.length
    let fees ← nextFees s intent past fees
    match ← ask (Chain.submit intent.payload (intent.params fees)) with
    | .error f =>
      if isRefusal f then
        note .error (intent.description ++ " submission rejected on attempt " ++ toString index ++
          ": " ++ f.message.getD "<cause>")
        attemptFrom s intent ({ index, fees, ending := .rejected } :: past) fees left
      else if isNonceUsed f then afterUsedNonce intent past fees f
      else throw (.submissionFailed intent.description index f)
    | .ok hash =>
      note .info (sentText intent index fees hash)
      match ← ask (Chain.wait hash s.timeout) with
      | .ok r => return r
      | .error f =>
        if f.isTimeout then
          note .info (intent.description ++ " " ++ hash ++ " not included within " ++
            s.timeout.toText ++ " seconds")
          attemptFrom s intent ({ index, fees, ending := .timedOut hash } :: past) fees left
        else throw (.waitFailed intent.description hash index f)

/-- Get a transaction included, the first attempt with the given fees. -/
def submit (s : Submitter) (intent : Intent ω) (fees : Fees) : OnChain ω TxError Receipt :=
  attemptFrom s intent [] fees s.maxAttempts

end StakeRegistry.Tx
