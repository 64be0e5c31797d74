/-
A node as the chain of a submission.

Each call of the chain becomes a program that asks the node. A payload is a call of a contract with
the account that signs it and the identity of the chain; it is built anew for every attempt, signed
and sent. The suggested fee cap is the gas price of the node, which covers the tip and the base fee.
-/
import StakeRegistry.Account.Address
import StakeRegistry.Host.Call
import StakeRegistry.Tx.Batch

namespace StakeRegistry.Node

open Tx

/-- What is signed and sent. -/
structure Payload where
  call : ContractCall
  account : String
  chainId : Int
  deriving Repr, DecidableEq

/-- How long to wait between two questions for a receipt. -/
def defaultPoll : Seconds := .fractional (.finite false 1 1)

/-- Ask a node. -/
def ask (c : NodeCall) : Program Host c.Answer :=
  Program.call (I := Host) (.node c)

/-- A value that has to be readable. -/
def readable {α : Type} : Except ReadError α → Except Fault α
  | .ok a => .ok a
  | .error e => .error (.unreadable e)

/-- The pending nonce of an account. -/
def pendingNonce (address : String) : Program Host (Except Fault Int) :=
  match checkedAddress address with
  | .ok a => ask (.transactionCount a)
  | .error e => .done (.error (.unreadable e))

/-- The integer that a node answers. -/
def integerOf (answer : Except Fault Json.Value) : Except Fault Int := do
  readable (← answer).toInteger

/-- The tip that the node suggests. -/
def priorityFee : Program Host (Except Fault Int) := do
  return integerOf (← ask .priorityFee)

/-- The fee cap that the node suggests. -/
def feeCap : Program Host (Except Fault Int) := do
  return integerOf (← ask .gasPrice)

/-- Wait until a transaction is included. -/
def wait (poll : Seconds) (hash : String) (timeout : Seconds) :
    Program Host (Except Fault Receipt) := do
  let answer : Except Fault RawReceipt ← ask (.wait hash timeout poll)
  return match answer with
    | .ok raw => readable (Receipt.ofRaw raw)
    | .error (.reported .timeExhausted _) => .error (.notIncluded hash timeout.toText)
    | .error f => .error f

/-- The receipt of a transaction, if it is included. -/
def receipt (hash : String) : Program Host (Except Fault (Option Receipt)) := do
  let answer : Except Fault (Option RawReceipt) ← ask (.receipt hash)
  return match answer with
    | .ok (some raw) => (readable (Receipt.ofRaw raw)).map some
    | .ok none => .ok none
    | .error (.reported .transactionNotFound _) => .ok none
    | .error f => .error f

/-- Build a transaction with the given parameters, sign it and send it; its hash in hexadecimal. -/
def submit (p : Payload) (params : Keyed String Json.Value) :
    Program Host (Except Fault String) := do
  let built : Except Fault Transaction ← ask (.build p.call (params.put "chainId" (.int p.chainId)))
  match built with
  | .error f => return .error f
  | .ok transaction =>
    let signed : Except Fault Signed ← ask (.sign p.account transaction)
    match signed with
    | .error f => return .error f
    | .ok signed =>
      let sent : Except Fault Bytes ← ask (.send signed)
      return sent.map fun hash => "0x" ++ hash.toHex

/-- The answer of a node to a call of a chain. -/
def answer (poll : Seconds) : (c : Chain.Call Payload) → Program Host (Chain.Answer c)
  | .pendingNonce address => pendingNonce address
  | .priorityFee => return (← priorityFee).map Json.Value.int
  | .feeCap => return (← feeCap).map Json.Value.int
  | .submit payload params => submit payload params.members
  | .wait hash timeout => wait poll hash timeout
  | .receipt hash => receipt hash
  | .included _ _ => return .ok ()
  | .say line => Program.call (I := Host) (.say line)
  | .log record => Program.call (I := Host) (.log record)

/-- Carry out a run of transactions on a node, with an allocator that knows no nonce yet. -/
def runBatch {α : Type} (address : String) (p : BatchRun Payload α) : Act BatchError α :=
  ExceptT.mk do
    let (result, _) ← Program.expand (I := Chain Payload) (answer defaultPoll)
      (p.run.run { address })
    return result

end StakeRegistry.Node
