/-
Runs of several transactions of one account.

An `Allocator` hands out the nonces of an account: it asks the node for the first one and counts on
from there. `submitAll` submits transactions one after another, each at the next nonce. A failure
before a transaction is included makes the allocator forget its count, so that the next run asks the
node again; a transaction that is included has used its nonce, whether or not it succeeded.

Each transaction that is included is told with the number of its block before anything else is done
about it: a number with too many digits to be written ends the run there.
-/
import StakeRegistry.Tx.Submission

namespace StakeRegistry.Tx

/-- The nonces of an account. -/
structure Allocator where
  address : String
  /-- The next nonce, if it is known. -/
  next : Option Int := none
  deriving Repr, DecidableEq

/-- Forget the next nonce. -/
def Allocator.reset (a : Allocator) : Allocator :=
  { a with next := none }

/-- Why a run of transactions stopped. -/
inductive BatchError where
  /-- The surroundings failed between two submissions. -/
  | fault (f : Fault)
  /-- A transaction was not submitted. -/
  | tx (e : TxError)
  /-- A transaction was included in a block whose number cannot be written. -/
  | unwritable (block : Int)
  /-- The transaction at a place was included and failed. -/
  | reverted (index : Nat) (description : String) (receipt : Receipt)
  deriving Repr, DecidableEq

/-- What is told about a run that stopped, unless the wording is that of the platform. -/
def BatchError.message : BatchError → Option String
  | fault f => f.message
  | tx e => e.message.toOption
  | unwritable _ => none
  | reverted _ description receipt =>
    some (description ++ " tx " ++ receipt.hash ++ " included, but failed")

variable {ω : Type}

/-- A program over a chain that hands out nonces. What it does to the allocator stands even if it
fails. -/
abbrev BatchRun (ω : Type) : Type → Type :=
  ExceptT BatchError (StateT Allocator (Program (Chain ω)))

/-- What the surroundings answer, as a step that does not fail. -/
def told {α : Type} (p : Program (Chain ω) α) : BatchRun ω α :=
  ExceptT.lift (StateT.lift p)

/-- A step that may fail as a submission does. -/
def ofSubmission {α : Type} (p : OnChain ω TxError α) : BatchRun ω α := do
  match ← told p.run with
  | .ok a => return a
  | .error e => throw (.tx e)

/-- A step that may fail as the surroundings do. -/
def ofCall {α : Type} (p : Program (Chain ω) (Except Fault α)) : BatchRun ω α := do
  match ← told p with
  | .ok a => return a
  | .error f => throw (.fault f)

/-- The next nonce of the account. -/
def allocate : BatchRun ω Int := do
  let a ← get
  match a.next with
  | some nonce =>
    set { a with next := some (nonce + 1) }
    return nonce
  | none =>
    let nonce ← ofCall (Chain.pendingNonce a.address)
    told (Chain.log .debug .batches ("pending nonce for " ++ a.address ++ ": " ++ toString nonce))
    set { a with next := some (nonce + 1) }
    return nonce

/-- The fees of the first attempt at a transaction. -/
def prepareFees (gasLimit nonce : Int) : BatchRun ω Fees := do
  let s ← ofSubmission suggestFees
  ofSubmission (orInvalid { tip := s.tip, feeCap := s.feeCap, gasLimit, nonce : Fees }.check)

/-- Forget the next nonce if a program fails. -/
def resetOnError {α : Type} (p : BatchRun ω α) : BatchRun ω α :=
  tryCatch p fun e => do
    modify Allocator.reset
    throw e

/-- Submit one transaction at the next nonce. -/
def submitNext (s : Submitter) (intent : Intent ω) : BatchRun ω Receipt := do
  let nonce ← allocate
  let fees ← prepareFees intent.gasLimit nonce
  ofSubmission (submit s intent fees)

/-- What is done after each transaction that is included and succeeded: it is given the place of the
transaction, counted from one, and its receipt. -/
abbrev Report (ω : Type) : Type := Nat → Receipt → Program (Chain ω) (Except Fault Unit)

/-- The line about a transaction that was included. -/
def Intent.includedLine (intent : Intent ω) (receipt : Receipt) : String :=
  intent.description ++ " included in block: " ++ toString receipt.blockNumber

/-- Submit the transactions from a place on. -/
def submitFrom (s : Submitter) (report : Report ω) (index : Nat) :
    List (Intent ω) → BatchRun ω (List Receipt)
  | [] => return []
  | intent :: rest => do
    let receipt ← resetOnError (submitNext s intent)
    if !Numeral.isWritable receipt.blockNumber then throw (.unwritable receipt.blockNumber)
    told (Chain.say (intent.includedLine receipt))
    if !receipt.succeeded then throw (.reverted index intent.description receipt)
    ofCall (report index receipt)
    return receipt :: (← submitFrom s report (index + 1) rest)

/-- Submit transactions one after another, up to the first that fails. -/
def submitAll (s : Submitter) (report : Report ω) (intents : List (Intent ω)) :
    BatchRun ω (List Receipt) :=
  submitFrom s report 1 intents

end StakeRegistry.Tx
