/-
Storing snapshots of all events, and validating snapshots against the chain.

Snapshots are valid if the stakes that they give are those that the events on the chain give.
-/
import StakeRegistry.Registry.Artifact
import StakeRegistry.Registry.Fetch

namespace StakeRegistry.Registry

/-- Why snapshots cannot be stored or validated. -/
inductive StoreError where
  | query (e : QueryError)
  | artifact (e : ArtifactError)
  deriving Repr, DecidableEq

/-- What is told about snapshots that cannot be stored or validated. -/
def StoreError.message : StoreError → Option String
  | query e => e.message
  | artifact e => e.message

/-- Fetch the events of a type up to a block and write a snapshot of them. -/
def storeType (registry : String) (directory : Path) (block chunk : Int) (type : EventType) :
    Act StoreError Path := do
  Act.say ("Querying all " ++ type.name ++ " events from chain genesis...")
  let events ← Act.withError .query (fetchEvents registry type { toBlock := some block, chunk })
  let path ← Act.withError .artifact (writeEvents directory type events block)
  Act.say ("  " ++ toString events.length ++ " events -> " ++ path.text)
  return path

/-- Write a snapshot of each type up to a block. -/
def storeAll (registry : String) (directory : Path) (block chunk : Int) :
    Act StoreError (List Path) :=
  EventType.all.mapM (storeType registry directory block chunk)

/-- The stakes that the events on the chain give. -/
def liveStakes (registry : String) (chunk : Int) : Act StoreError (Keyed String Int) := do
  let staked ← Act.withError .query (fetchEvents registry .staked { chunk })
  let withdrawn ← Act.withError .query (fetchEvents registry .withdraw { chunk })
  return netStakes staked withdrawn

/-- Do the newest snapshots give the stakes that the events on the chain give? -/
def validate (registry : String) (directory : Path) (chunk : Int) : Act StoreError Bool := do
  let staked ← Act.withError .artifact (readEvents directory EventType.staked.name)
  let withdrawn ← Act.withError .artifact (readEvents directory EventType.withdraw.name)
  let stored := netStakes staked withdrawn
  let live ← liveStakes registry chunk
  if sameStakes stored live then
    Act.say "Validator lists match."
    return true
  else
    Act.say "Validator lists do not match."
    Act.say ("Reconstructed list length: " ++ toString stored.length)
    Act.say ("Actual list length: " ++ toString live.length)
    return false

end StakeRegistry.Registry
