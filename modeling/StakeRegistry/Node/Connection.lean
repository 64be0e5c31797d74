/-
Reaching a node, and what a run asks of it before it sends anything.
-/
import StakeRegistry.Account.Address
import StakeRegistry.Amount
import StakeRegistry.Host.Call
import StakeRegistry.Registry.Interface

namespace StakeRegistry.Node

/-- Why a run cannot begin. -/
inductive NodeError where
  | fault (f : Fault)
  | unreadable (e : ReadError)
  | notConnected (url : String)
  /-- The balance is below what the run needs; both amounts are told in the large unit. -/
  | insufficientBalance (address needed balance : String)
  deriving Repr, DecidableEq

/-- What is told about a run that cannot begin. -/
def NodeError.message : NodeError → Option String
  | fault f => f.message
  | unreadable e => e.message
  | notConnected url => some ("Cannot connect to RPC: " ++ url)
  | insufficientBalance address needed balance =>
    some ("Insufficient balance. Please fund " ++ address ++ " with at least " ++ needed ++
      " ETH (current: " ++ balance ++ " ETH)")

/-- How long a request to a node may take. -/
def requestTimeout : Seconds := .whole 30

/-- Reach the node at an address. -/
def connect (url : String) : Act NodeError Unit := do
  let reached : Bool ← Act.ask (.node (.connect url requestTimeout))
  if !reached then throw (.notConnected url)

/-- The identity of the chain, unless it is configured. Zero configures nothing. -/
def chainId (configured : Option Int) : Act NodeError Int := do
  match configured with
  | some n => if n ≠ 0 then return n else Act.orElse .fault (← Act.ask (.node .chainId))
  | none => Act.orElse .fault (← Act.ask (.node .chainId))

/-- The number of the newest block. -/
def blockNumber : Act NodeError Int := do
  Act.orElse .fault (← Act.ask (.node .blockNumber))

/-- The balance of an account, which has to be at least the given amount. -/
def ensureBalance (address : String) (needed : Int) : Act NodeError Int := do
  let checked ← Act.orElse .unreadable (checkedAddress address)
  let balance ← Act.orElse .fault (← Act.ask (.node (.balance checked)))
  if balance < needed then
    let neededText ← Act.orElse .unreadable (amountText needed)
    let balanceText ← Act.orElse .unreadable (amountText balance)
    throw (.insufficientBalance address neededText balanceText)
  return balance

/-- Prepare calls of the registry at an address. -/
def openRegistry (address : String) : Act NodeError String := do
  let checked ← Act.orElse .unreadable (checkedAddress address)
  Act.ask (.node (.contract checked Registry.interfaceValue))
  return checked

end StakeRegistry.Node
