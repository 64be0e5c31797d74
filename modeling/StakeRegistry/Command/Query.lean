/-
Querying all staked keys.
-/
import StakeRegistry.Command.Setup

namespace StakeRegistry.Command

open Registry

namespace Query

/-- What the command line says. -/
structure Options where
  network : String
  pageSize : Int
  output : Option String
  verbose : Bool
  deriving Repr, DecidableEq

/-- What the command line may hold. -/
def table : OptionTable where
  options := [
    networkOption Config.defaultNetwork,
    { name := "page-size", kind := .integer, default := .int defaultPageSize },
    { name := "output", kind := .text },
    verboseOption]

/-- The options of the settings. -/
def Options.ofSettings (s : Settings) : Options where
  network := s.text "network"
  pageSize := s.integer "page-size"
  output := s.text? "output"
  verbose := s.flag "verbose"

/-- The text of a key file. -/
def keyFileText (keys : List String) : String :=
  String.join (keys.map fun k => "0x" ++ k ++ "\n")

/-- Write the keys to a file. -/
def writeKeys (file : String) (keys : List String) : Act Failure Unit := do
  let path := Path.ofText file
  Act.orElse .file (← Act.ask (.file (.write path (keyFileText keys))))
  Act.say ("Wrote " ++ toString keys.length ++ " pubkeys to " ++ path.text)

/-- Query all staked keys, and write them to a file if one is named. -/
def run (o : Options) : Act Failure Unit := do
  let n ← setUp o.network
  reach n
  let chainId ← chainIdOf { n with chainId := none }
  Act.say ("Chain ID: " ++ toString chainId)
  let registry ← openRegistry n.registryAddress
  let keys ← Act.withError .query (queryAll registry o.pageSize)
  match o.output with
  | some file => if !file.isEmpty then writeKeys file keys
  | none => pure ()

end Query
end StakeRegistry.Command
