/-
The host of a command: what it can ask of the machine that it runs on and of the services that it
reaches.

The calls fall into those to the operator and the clock, to the files, to a node of the chain and to
web services. A node is asked about the chain and about one contract, the registry; byte strings and
numbers come back as the node tells them.

Lines tell their numbers in full. It is taken for granted that these have at most
`Numeral.maxDigits` digits, except where a longer one decides about transactions: in the errors of
fees and in the line about the block of a receipt.
-/
import StakeRegistry.Files.Call
import StakeRegistry.Log
import StakeRegistry.Moment
import StakeRegistry.Program
import StakeRegistry.Seconds
import StakeRegistry.Tx.Receipt
import StakeRegistry.Fault

namespace StakeRegistry

/-- A value that a contract is called with. -/
inductive Argument where
  | keys (ks : List Bytes)
  | address (a : String)
  deriving Repr, DecidableEq

/-- A call of a contract. -/
structure ContractCall where
  contract : String
  method : String
  arguments : List Argument
  deriving Repr, DecidableEq

/-- A transaction that calls a contract, with its parameters. -/
structure Transaction where
  call : ContractCall
  params : Keyed String Json.Value
  deriving Repr

/-- A transaction signed by an account. -/
structure Signed where
  account : String
  transaction : Transaction
  deriving Repr

/-- An event of the registry as the node tells it. -/
structure RawLog where
  originator : String
  pubkey : Bytes
  amount : Json.Value
  block : Json.Value
  deriving Repr

/-- What can be asked of a node. -/
inductive NodeCall where
  /-- Can the node be reached? -/
  | connect (url : String) (timeout : Seconds)
  | chainId
  | blockNumber
  | priorityFee
  | gasPrice
  | balance (address : String)
  /-- The number of transactions of an account, those included that are not yet in a block. -/
  | transactionCount (address : String)
  /-- Prepare calls of the contract at an address, with the methods and events of its interface. -/
  | contract (address : String) (interface : Json.Value)
  /-- The number of staked keys and the version of the set of them. -/
  | stakedCount (registry : String)
  /-- The staked keys at a range of places and the version of the set. -/
  | stakedPage (registry : String) (first stop : Int)
  /-- The events of a type in a range of blocks, both ends included. -/
  | logs (registry : String) (event : String) (fromBlock toBlock : Int)
  | build (call : ContractCall) (params : Keyed String Json.Value)
  | sign (account : String) (transaction : Transaction)
  | send (signed : Signed)
  | wait (hash : String) (timeout poll : Seconds)
  | receipt (hash : String)

/-- What a node answers. -/
def NodeCall.Answer : NodeCall → Type
  | .connect _ _ => Bool
  | .chainId => Except Fault Int
  | .blockNumber => Except Fault Int
  | .priorityFee => Except Fault Json.Value
  | .gasPrice => Except Fault Json.Value
  | .balance _ => Except Fault Int
  | .transactionCount _ => Except Fault Int
  | .contract _ _ => Unit
  | .stakedCount _ => Except Fault (Json.Value × Json.Value)
  | .stakedPage _ _ _ => Except Fault (List Bytes × Json.Value)
  | .logs _ _ _ _ => Except Fault (List RawLog)
  | .build _ _ => Except Fault Transaction
  | .sign _ _ => Except Fault Signed
  | .send _ => Except Fault Bytes
  | .wait _ _ _ => Except Fault Tx.RawReceipt
  | .receipt _ => Except Fault (Option Tx.RawReceipt)

/-- How a web service is asked. -/
inductive WebMethod where
  | get
  | post
  deriving Repr, DecidableEq

/-- A request to a web service. -/
structure WebRequest where
  method : WebMethod
  url : String
  /-- What the request carries beside its address, by name. -/
  headers : Keyed String String := []
  body : Option Json.Value := none
  timeout : Seconds := .whole 30
  deriving Repr

/-- The answer of a web service. -/
structure WebResponse where
  status : Int
  text : String
  deriving Repr, DecidableEq

/-- The places of a number of tasks in the order in which they are finished. -/
structure FinishingOrder (count : Nat) where
  places : List Nat
  perm : places.Perm (List.range count)

namespace FinishingOrder

/-- One task is finished after the other. -/
def inTurn (count : Nat) : FinishingOrder count where
  places := List.range count
  perm := .refl _

/-- What the tasks found, in the order in which they are finished. -/
def arrange {count : Nat} {α : Type} (order : FinishingOrder count) (results : List α) : List α :=
  order.places.filterMap (results[·]?)

end FinishingOrder

/-- What can be asked of a host. -/
inductive Host.Call where
  /-- Write a line to the operator. -/
  | say (line : String)
  /-- Keep a record in the log. -/
  | log (record : LogRecord)
  /-- The local time. -/
  | now
  /-- A clock in microseconds that only measures how long something takes. -/
  | clock
  | sleep (time : Seconds)
  /-- Have a number of workers for as many tasks that follow: in which order are these finished? -/
  | workers (count : Nat)
  /-- The variables of the environment. -/
  | environment
  /-- The private key in a keystore. -/
  | decrypt (keystore password : String)
  | file (call : FileCall)
  | node (call : NodeCall)
  | web (request : WebRequest)

/-- What a host answers. -/
def Host.Answer : Host.Call → Type
  | .say _ => Unit
  | .log _ => Unit
  | .now => Moment
  | .clock => Nat
  | .sleep _ => Unit
  | .workers count => FinishingOrder count
  | .environment => Keyed String String
  | .decrypt _ _ => Except Fault String
  | .file c => c.Answer
  | .node c => c.Answer
  | .web _ => Except Fault WebResponse

/-- The interface of a host. -/
def Host : Interface where
  Call := Host.Call
  Answer := Host.Answer

/-- What a command does on a host; it may end with an error. -/
abbrev Act (ε : Type) : Type → Type := ExceptT ε (Program Host)

namespace Act

variable {ε ε' α : Type}

/-- Ask the host. -/
def ask (c : Host.Call) : Act ε (Host.Answer c) :=
  ExceptT.lift (Program.call (I := Host) c)

/-- Write a line to the operator. -/
def say (line : String) : Act ε Unit :=
  ask (.say line)

/-- The value, or an error made from the other error. -/
def orElse (f : ε' → ε) : Except ε' α → Act ε α
  | .ok a => pure a
  | .error e => throw (f e)

/-- The same act with another type of errors. -/
def withError (f : ε' → ε) (p : Act ε' α) : Act ε α :=
  ExceptT.adapt f p

end Act
end StakeRegistry
