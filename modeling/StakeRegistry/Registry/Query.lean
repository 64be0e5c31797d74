/-
The staked keys, asked page by page.

The registry tells the number of staked keys with a version that grows with every change of the set.
Each page is told with a version too. A page of another version belongs to another set, so the keys
are given only if all versions agree.
-/
import StakeRegistry.Host.Call
import StakeRegistry.Registry.Stake

namespace StakeRegistry.Registry

/-- Why the registry could not be queried. -/
inductive QueryError where
  | fault (f : Fault)
  | unreadable (e : ReadError)
  /-- The name is that of no type of events. -/
  | unknownType (name : String)
  /-- The set of keys changed between two questions. -/
  | versionMismatch (page : String) (version : Int)
  /-- The pages do not hold as many keys as the registry told. -/
  | countMismatch (count : Int) (length : Nat)
  /-- The budget of requests is spent. -/
  | unfinished
  deriving Repr, DecidableEq

/-- What is told about a failed query. -/
def QueryError.message : QueryError → Option String
  | fault f => f.message
  | unreadable e => e.message
  | unknownType name => some ("unknown event type: " ++ name)
  | versionMismatch page version =>
    some ("Valset version mismatch from len query: " ++ page ++ " != " ++ toString version)
  | countMismatch count length =>
    some ("number of staked validators (" ++ toString count ++
      ") does not match aggregated validator set length (" ++ toString length ++ ")")
  | unfinished => some "log requests did not come to an end"

/-- The number of staked keys and the version of the set. -/
def stakedCount (registry : String) : Act QueryError (Int × Int) := do
  let (count, version) ← Act.orElse .fault (← Act.ask (.node (.stakedCount registry)))
  let count ← Act.orElse .unreadable count.toInteger
  let version ← Act.orElse .unreadable version.toInteger
  return (count, version)

/-- How many of the numbers `first`, `first + step`, … come before `stop`. -/
def stepCount (first stop step : Int) : Nat :=
  if 0 < step then ((stop - first + step - 1).fdiv step).toNat
  else ((first - stop - step - 1).fdiv (-step)).toNat

/-- The keys of the next `left` pages. -/
def stakedPages (registry : String) (pageSize count version first : Int) :
    (left : Nat) → Act QueryError (List String)
  | 0 => return []
  | left + 1 => do
    let stop := min (first + pageSize) count
    let (page, pageVersion) ← Act.orElse .fault
      (← Act.ask (.node (.stakedPage registry first stop)))
    if (← Act.orElse .unreadable pageVersion.toInteger) ≠ version then
      throw (.versionMismatch pageVersion.asText version)
    return page.map Bytes.toHex ++
      (← stakedPages registry pageSize count version (first + pageSize) left)

/-- Ask at most this many keys at once. -/
def defaultPageSize : Int := 1000

/-- All staked keys in hexadecimal, asked in pages of a size. -/
def stakedKeys (registry : String) (pageSize : Int) : Act QueryError (List String) := do
  let (count, version) ← stakedCount registry
  if pageSize = 0 then throw (.unreadable .zeroStep)
  let keys ← stakedPages registry pageSize count version 0 (stepCount 0 count pageSize)
  if (keys.length : Int) ≠ count then throw (.countMismatch count keys.length)
  return keys

/-- How many keys are shown at the end of a query. -/
def tailSize : Int := 10

/-- The last `count` elements; all of them for zero, all but the first `-count` for a negative
one. -/
def lastOf {α : Type} (xs : List α) (count : Int) : List α :=
  if 0 < count then xs.drop (xs.length - count.toNat) else xs.drop (-count).toNat

/-- Show the last keys. -/
def sayTail {ε : Type} (keys : List String) (count : Int) : Act ε Unit := do
  Act.say ("Up to last " ++ toString count ++ " of staked validator BLS pubkeys: ")
  Act.say "["
  (lastOf keys count).forM fun k => Act.say (k ++ ",")
  Act.say "]"

/-- Query all staked keys and tell how many there are and how long it took. -/
def queryAll (registry : String) (pageSize : Int) : Act QueryError (List String) := do
  Act.say rule
  Act.say "Querying full set of validators BLS pubkeys staked with the registry contract..."
  Act.say rule
  let start : Nat ← Act.ask .clock
  let (count, version) ← stakedCount registry
  let counted : Nat ← Act.ask .clock
  Act.say
    ("Number of staked validators: " ++ toString count ++ " (valset version " ++
      toString version ++ ")")
  let keys ← stakedKeys registry pageSize
  let finished : Nat ← Act.ask .clock
  Act.say ("Aggregated validator set length: " ++ toString keys.length)
  sayTail keys tailSize
  Act.say ("Time to query number of staked validators: " ++ secondsText 3 (counted - start))
  Act.say ("Time to query all staked validator BLS pubkeys: " ++ secondsText 3 (finished - counted))
  return keys

end StakeRegistry.Registry
