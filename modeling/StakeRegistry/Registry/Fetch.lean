/-
The events of the registry, fetched in chunks of blocks.

Each request covers the next `chunk` blocks, or what is left of them. A chunk of at least one block
gets through any range of blocks; with a smaller one the requests would not come to an end while the
node answers, so their number is bounded by a budget.
-/
import StakeRegistry.Account.Address
import StakeRegistry.Registry.LifeCycle
import StakeRegistry.Registry.Query

namespace StakeRegistry.Registry

/-- The event that a node tells. -/
def Event.ofLog (log : RawLog) : Except ReadError Event := do
  let originator ← checkedAddress log.originator
  let amount ← log.amount.toInteger
  let block ← log.block.toInteger
  return { originator, pubkey := log.pubkey.toHex, amount, block }

/-- Which events are fetched, and how. -/
structure Fetch where
  /-- The first block. -/
  fromBlock : Int := 0
  /-- The last block; if none is given, the newest one. -/
  toBlock : Option Int := none
  /-- How many blocks a request covers. -/
  chunk : Int := 50000
  /-- How long to wait after each request. -/
  delay : Seconds := .whole 0
  /-- How many requests are made with a chunk below one block. -/
  budget : Nat := 100000

/-- The number of the newest block. -/
def newestBlock : Act QueryError Int := do
  Act.orElse .fault (← Act.ask (.node .blockNumber))

/-- Wait after a request, if there is a delay at all. -/
def pause {ε : Type} (delay : Seconds) : Act ε Unit := do
  if !delay.isZero then Act.ask (.sleep delay)

/-- The events from a block on, in at most `left` requests. -/
def fetchFrom (registry : String) (t : EventType) (q : Fetch) (toBlock first : Int) :
    (left : Nat) → Act QueryError (List Event)
  | 0 => if toBlock < first then return [] else throw .unfinished
  | left + 1 => do
    if toBlock < first then return []
    let last := min (first + q.chunk - 1) toBlock
    let logs ← Act.orElse .fault (← Act.ask (.node (.logs registry t.logName first last)))
    let events ← Act.orElse .unreadable (logs.mapM Event.ofLog)
    pause q.delay
    return events ++ (← fetchFrom registry t q toBlock (last + 1) left)

/-- How many requests are allowed for a range of blocks. -/
def requestLimit (q : Fetch) (toBlock : Int) : Nat :=
  if 1 ≤ q.chunk then (toBlock - q.fromBlock + 1).toNat else q.budget

/-- The events of a type. -/
def fetchEvents (registry : String) (t : EventType) (q : Fetch) : Act QueryError (List Event) := do
  let toBlock ← match q.toBlock with
    | some b => pure b
    | none => newestBlock
  fetchFrom registry t q toBlock q.fromBlock (requestLimit q toBlock)

/-- The events of a type that is given by its name. -/
def fetchNamed (registry : String) (name : String) (q : Fetch) : Act QueryError (List Event) := do
  match EventType.ofName? name with
  | some t => fetchEvents registry t q
  | none => throw (.unknownType name)

end StakeRegistry.Registry
