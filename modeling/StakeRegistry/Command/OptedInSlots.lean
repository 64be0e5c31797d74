/-
Exporting the slots that opted-in validators proposed.
-/
import StakeRegistry.Command.Setup

namespace StakeRegistry.Command

namespace OptedInSlots

/-- What the command line says. -/
structure Options where
  validatorsFile : String
  firstEpoch : Int
  lastEpoch : Int
  network : String
  beaconApi : Option String
  workers : Int
  output : String
  verbose : Bool
  deriving Repr, DecidableEq

/-- What the command line may hold. -/
def table : OptionTable where
  options := [
    { name := "validators-csv", kind := .text, required := true },
    { name := "start-epoch", kind := .integer, required := true },
    { name := "end-epoch", kind := .integer, required := true },
    networkOption "mainnet",
    { name := "beacon-api-url", kind := .text },
    { name := "workers", kind := .integer, default := .int 4 },
    outputOption "opted_in_slots.csv",
    verboseOption]

/-- The options of the settings. -/
def Options.ofSettings (s : Settings) : Options where
  validatorsFile := s.text "validators-csv"
  firstEpoch := s.integer "start-epoch"
  lastEpoch := s.integer "end-epoch"
  network := s.text "network"
  beaconApi := s.text? "beacon-api-url"
  workers := s.integer "workers"
  output := s.text "output"
  verbose := s.flag "verbose"

/-- Export the slots that opted-in validators proposed. -/
def run (o : Options) : Act Failure Unit := do
  let n ← setUp o.network
  let api := textOr o.beaconApi n.beaconApiUrl
  let validators ← Act.withError .table (OptIn.loadValidators (Path.ofText o.validatorsFile))
  let slots ← Act.withError .scan
    (OptIn.findSlots api validators o.firstEpoch o.lastEpoch o.workers)
  Act.withError .table (OptIn.exportSlots (Path.ofText o.output) slots)

end OptedInSlots
end StakeRegistry.Command
