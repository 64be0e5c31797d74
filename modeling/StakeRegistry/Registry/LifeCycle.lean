/-
What has become of the keys of the registry.

The events are given as three lists, one for each type. The last staked event of a key counts.

* `activeStakes`: the keys that were staked and neither unstaked nor withdrawn.
* `pendingWithdrawals`: the keys that were staked and unstaked, but not withdrawn.
* `netStakes`: the stake of each staked key, less what was withdrawn.
-/
import StakeRegistry.Registry.Event

namespace StakeRegistry.Registry

/-- The last event of each key. -/
def latest (es : List Event) : Keyed String Event :=
  es.foldl (fun m e => m.put e.pubkey e) []

/-- Take the keys of events out. -/
def withoutKeysOf (es : List Event) (m : Keyed String Event) : Keyed String Event :=
  es.foldl (fun m e => m.erase e.pubkey) m

/-- The last staked event of each key that was neither unstaked nor withdrawn. -/
def activeStakes (staked unstaked withdrawn : List Event) : Keyed String Event :=
  withoutKeysOf withdrawn (withoutKeysOf unstaked (latest staked))

/-- Is the key that of one of the events? -/
def hasKey (es : List Event) (pubkey : String) : Bool :=
  es.any fun e => e.pubkey = pubkey

/-- The last staked event of each key that was unstaked but not withdrawn. -/
def pendingWithdrawals (staked unstaked withdrawn : List Event) : Keyed String Event :=
  (latest staked).filter fun p => hasKey unstaked p.1 && !hasKey withdrawn p.1

/-- Add the amount of a staked event to the stake of its key. -/
def addStake (m : Keyed String Int) (e : Event) : Keyed String Int :=
  m.put e.pubkey ((m.find? e.pubkey).getD 0 + e.amount)

/-- Take the amount of a withdrawal off the stake of its key, if the key has one. -/
def takeStake (m : Keyed String Int) (e : Event) : Keyed String Int :=
  match m.find? e.pubkey with
  | some stake => m.put e.pubkey (stake - e.amount)
  | none => m

/-- The stake of each key that was ever staked: what was staked less what was withdrawn. -/
def netStakes (staked withdrawn : List Event) : Keyed String Int :=
  withdrawn.foldl takeStake (staked.foldl addStake [])

/-- Do two accounts of stakes hold the same keys with the same stakes, in whatever order? -/
def sameStakes (a b : Keyed String Int) : Bool :=
  a.length = b.length && a.all fun p => b.find? p.1 = some p.2

/-- The keys of a list whose event was made by an account, in any letter case. -/
def keysOf (originator : String) (pubkeys : List String) (events : Keyed String Event) :
    List String :=
  pubkeys.filter fun k =>
    match events.find? k with
    | some e => Text.lower e.originator = Text.lower originator
    | none => false

/-- Texts in increasing order. -/
def sortedTexts (ss : List String) : List String :=
  ss.mergeSort fun s t => !(t < s)

/-- Entries in the increasing order of their keys. -/
def sortedByKey {α : Type} (m : Keyed String α) : Keyed String α :=
  m.mergeSort fun p q => !(q.1 < p.1)

/-- The keys to unstake: those of the given list that an account staked and that are active. -/
def keysToUnstake (originator : String) (onChain : List String)
    (staked unstaked withdrawn : List Event) : List String :=
  keysOf originator onChain (activeStakes staked unstaked withdrawn)

/-- The keys whose stake is to be withdrawn: those that an account staked and that are pending. -/
def keysToWithdraw (originator : String) (staked unstaked withdrawn : List Event) : List String :=
  let pending := pendingWithdrawals staked unstaked withdrawn
  keysOf originator (sortedTexts pending.keys) pending

/-- The keys of each account, the accounts in the order of their first event. -/
def groupByOriginator (es : List Event) : Keyed String (List String) :=
  es.foldl (fun m e => m.put e.originator ((m.find? e.originator).getD [] ++ [e.pubkey])) []

end StakeRegistry.Registry
