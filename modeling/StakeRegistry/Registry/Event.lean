/-
Events of the registry.

A key is staked, perhaps several times, then unstaked, then its stake is withdrawn; it may be staked
again later. Each step leaves an event with the account that made it, the amount and the block.
-/
import StakeRegistry.Json.Value
import StakeRegistry.Text.Blank
import StakeRegistry.Text.Lower

namespace StakeRegistry.Registry

/-- The types of events. -/
inductive EventType where
  | staked
  | unstaked
  | withdraw
  deriving Repr, DecidableEq

namespace EventType

/-- All types, in the order of a key's life. -/
def all : List EventType := [staked, unstaked, withdraw]

/-- The name of a type. -/
def name : EventType → String
  | staked => "staked"
  | unstaked => "unstaked"
  | withdraw => "withdraw"

/-- The name under which the registry logs a type. -/
def logName : EventType → String
  | staked => "Staked"
  | unstaked => "Unstaked"
  | withdraw => "StakeWithdrawn"

/-- The type of a name. -/
def ofName? (s : String) : Option EventType :=
  all.find? fun t => t.name = s

/-- The names tell the types apart. -/
theorem ofName?_name (t : EventType) : ofName? t.name = some t := by
  cases t <;> decide

end EventType

/-- An event. -/
structure Event where
  /-- The account that made the step. -/
  originator : String
  /-- The key in hexadecimal. -/
  pubkey : String
  amount : Int
  block : Int
  deriving Repr, DecidableEq

namespace Event

/-- An event as a JSON object. -/
def toValue (e : Event) : Json.Value :=
  .object [
    ("tx_originator", .text e.originator),
    ("val_bls_pub_key", .text e.pubkey),
    ("amount", .int e.amount),
    ("block", .int e.block)]

/-- The form in which a key stands in an event: small letters without a leading `0x`. -/
def plainKey (s : String) : String :=
  Text.dropLeading "0x" (Text.lower s)

/-- Read an event from a JSON value. -/
def ofValue (v : Json.Value) : Except ReadError Event := do
  let originator ← v.field "tx_originator"
  let pubkey ← v.field "val_bls_pub_key"
  let amount ← (← v.field "amount").toInteger
  let block ← (← v.field "block").toInteger
  return { originator := originator.asText, pubkey := plainKey pubkey.asText, amount, block }

end Event
end StakeRegistry.Registry
