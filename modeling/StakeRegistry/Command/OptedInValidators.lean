/-
Exporting the opted-in validators.
-/
import StakeRegistry.Command.Setup
import StakeRegistry.OptIn.Collect

namespace StakeRegistry.Command

namespace OptedInValidators

/-- What the command line says. -/
structure Options where
  network : String
  fromBlock : Int
  toBlock : Option Int
  chunk : Int
  output : String
  verbose : Bool
  deriving Repr, DecidableEq

/-- What the command line may hold. -/
def table : OptionTable where
  options := [
    networkOption "mainnet",
    { name := "from-block", kind := .integer, default := .int 0 },
    { name := "to-block", kind := .integer },
    chunkOption,
    outputOption "opted_in_validators.csv",
    verboseOption]

/-- The options of the settings. -/
def Options.ofSettings (s : Settings) : Options where
  network := s.text "network"
  fromBlock := s.integer "from-block"
  toBlock := s.integer? "to-block"
  chunk := s.integer "chunk-size"
  output := s.text "output"
  verbose := s.flag "verbose"

/-- Export the opted-in validators. -/
def run (o : Options) : Act Failure Unit := do
  let n ← setUp o.network
  reach n
  let registry ← openRegistry n.registryAddress
  let validators ← Act.withError .query (OptIn.collect registry o.fromBlock o.toBlock o.chunk)
  Act.withError .table (OptIn.exportValidators (Path.ofText o.output) validators)

end OptedInValidators
end StakeRegistry.Command
