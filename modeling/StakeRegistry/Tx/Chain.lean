/-
The chain as the submission of transactions sees it.

`Chain ω` is the interface: questions to the node, the broadcast of a transaction whose content is a
payload of type `ω`, and what the operator and the caller are told on the way.
-/
import StakeRegistry.Fault
import StakeRegistry.Log
import StakeRegistry.Program
import StakeRegistry.Seconds
import StakeRegistry.Tx.Fees
import StakeRegistry.Tx.Receipt

namespace StakeRegistry.Tx

/-- The parameters with which a transaction is built. -/
structure Params where
  sender : String
  value : Int
  gas : Int
  nonce : Int
  maxFeePerGas : Int
  maxPriorityFeePerGas : Int
  deriving Repr, DecidableEq

/-- The parameters by their names. -/
def Params.members (p : Params) : List (String × Json.Value) := [
  ("from", .text p.sender),
  ("value", .int p.value),
  ("gas", .int p.gas),
  ("nonce", .int p.nonce),
  ("maxFeePerGas", .int p.maxFeePerGas),
  ("maxPriorityFeePerGas", .int p.maxPriorityFeePerGas)]

/-- What can be asked of a chain. -/
inductive Chain.Call (ω : Type) where
  /-- The first nonce of an account that no transaction known to the node uses. -/
  | pendingNonce (address : String)
  /-- The tip that the node suggests. -/
  | priorityFee
  /-- The fee cap that the node suggests. -/
  | feeCap
  /-- Build, sign and broadcast one transaction. -/
  | submit (payload : ω) (params : Params)
  /-- Wait until a transaction is included. -/
  | wait (hash : String) (timeout : Seconds)
  /-- Look for the receipt of a transaction. -/
  | receipt (hash : String)
  /-- Tell the caller that the transaction at a place of a batch run is included. -/
  | included (index : Nat) (receipt : Receipt)
  /-- Write a line to the operator. -/
  | say (line : String)
  /-- Keep a record in the log. -/
  | log (record : LogRecord)

/-- What a chain answers. -/
abbrev Chain.Answer {ω : Type} : Chain.Call ω → Type
  | .pendingNonce _ => Except Fault Int
  | .priorityFee => Except Fault Json.Value
  | .feeCap => Except Fault Json.Value
  | .submit _ _ => Except Fault String
  | .wait _ _ => Except Fault Receipt
  | .receipt _ => Except Fault (Option Receipt)
  | .included _ _ => Except Fault Unit
  | .say _ => Unit
  | .log _ => Unit

/-- The interface of a chain that takes payloads of type `ω`. -/
abbrev Chain (ω : Type) : Interface where
  Call := Chain.Call ω
  Answer := Chain.Answer

variable {ω : Type}

/-- A program over a chain that may end with an error. -/
abbrev OnChain (ω ε : Type) : Type → Type := ExceptT ε (Program (Chain ω))

namespace Chain

/-- Ask for the pending nonce of an account. -/
def pendingNonce (address : String) : Program (Chain ω) (Except Fault Int) :=
  Program.call (I := Chain ω) (.pendingNonce address)

/-- Ask for a tip. -/
def priorityFee : Program (Chain ω) (Except Fault Json.Value) :=
  Program.call (I := Chain ω) .priorityFee

/-- Ask for a fee cap. -/
def feeCap : Program (Chain ω) (Except Fault Json.Value) :=
  Program.call (I := Chain ω) .feeCap

/-- Broadcast a transaction and get its hash. -/
def submit (payload : ω) (params : Params) : Program (Chain ω) (Except Fault String) :=
  Program.call (I := Chain ω) (.submit payload params)

/-- Wait for the receipt of a transaction. -/
def wait (hash : String) (timeout : Seconds) : Program (Chain ω) (Except Fault Receipt) :=
  Program.call (I := Chain ω) (.wait hash timeout)

/-- Look for the receipt of a transaction. -/
def receipt (hash : String) : Program (Chain ω) (Except Fault (Option Receipt)) :=
  Program.call (I := Chain ω) (.receipt hash)

/-- Tell the caller about an included transaction. -/
def included (index : Nat) (r : Receipt) : Program (Chain ω) (Except Fault Unit) :=
  Program.call (I := Chain ω) (.included index r)

/-- Write a line to the operator. -/
def say (line : String) : Program (Chain ω) Unit :=
  Program.call (I := Chain ω) (.say line)

/-- Keep a record in the log. -/
def log (level : LogLevel) (source : LogSource) (message : String) : Program (Chain ω) Unit :=
  Program.call (I := Chain ω) (.log { level, source, message })

end Chain
end StakeRegistry.Tx
