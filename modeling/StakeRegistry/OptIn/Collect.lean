/-
Collecting the opted-in validators from the events of the registry.

The range of blocks is told in full. It is taken for granted that its numbers have at most
`Numeral.maxDigits` digits, as those of a command line do.
-/
import StakeRegistry.OptIn.Validator
import StakeRegistry.Registry.Fetch

namespace StakeRegistry.OptIn

open Registry

/-- The validators whose stakes are active by the events in a range of blocks. If no last block is
given, it is the newest one. -/
def collect (registry : String) (fromBlock : Int) (toBlock : Option Int) (chunk : Int) :
    Act QueryError (List Validator) := do
  let toBlock ← match toBlock with
    | some b => pure b
    | none => newestBlock
  Act.say ("Processing blocks " ++ toString fromBlock ++ " to " ++ toString toBlock ++
    " in chunks of " ++ toString chunk)
  let fetch := fun t => fetchEvents registry t { fromBlock, toBlock := some toBlock, chunk }
  let staked ← fetch .staked
  let unstaked ← fetch .unstaked
  let withdrawn ← fetch .withdraw
  Act.say ("Found " ++ toString staked.length ++ " staked, " ++ toString unstaked.length ++
    " unstaked and " ++ toString withdrawn.length ++ " withdrawn events")
  return ofActive (activeStakes staked unstaked withdrawn)

end StakeRegistry.OptIn
