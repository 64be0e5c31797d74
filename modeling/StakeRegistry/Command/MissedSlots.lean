/-
Marking the slots without an opened commitment.
-/
import StakeRegistry.Command.Setup
import StakeRegistry.OptIn.Missed

namespace StakeRegistry.Command

namespace MissedSlots

/-- What the command line says. -/
structure Options where
  slotsFile : String
  network : String
  api : Option String
  apiKey : Option String
  output : String
  verbose : Bool
  deriving Repr, DecidableEq

/-- What the command line may hold. -/
def table : OptionTable where
  options := [
    { name := "slots-csv", kind := .text, required := true },
    networkOption "mainnet",
    { name := "api-url", kind := .text },
    { name := "api-key", kind := .text },
    outputOption "missed_slots.csv",
    verboseOption]

/-- The options of the settings. -/
def Options.ofSettings (s : Settings) : Options where
  slotsFile := s.text "slots-csv"
  network := s.text "network"
  api := s.text? "api-url"
  apiKey := s.text? "api-key"
  output := s.text "output"
  verbose := s.flag "verbose"

/-- Mark the slots without an opened commitment. -/
def run (o : Options) : Act Failure Unit := do
  let n ← setUp o.network
  let api := textOr o.api n.analyticsApiUrl
  let key := textOr o.apiKey (textOr n.analyticsApiKey "")
  if key.isEmpty then throw (.setup (.config .noAnalyticsKey))
  let slots ← Act.withError .table (OptIn.loadSlots (Path.ofText o.slotsFile))
  let commits ← Act.withError .analytics (Analytics.openedCommits api key)
  Act.say ("Loaded " ++ toString commits.length ++ " opened commits from the analytics API")
  let checked ← OptIn.markMissed slots commits
  Act.withError .table (OptIn.exportChecked (Path.ofText o.output) checked)

end MissedSlots
end StakeRegistry.Command
