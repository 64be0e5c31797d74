/-
Storing snapshots of the registry's events, and validating them.
-/
import StakeRegistry.Command.Setup

namespace StakeRegistry.Command

open Registry

namespace Store

/-- What the command line says. -/
structure Options where
  network : String
  artifacts : String
  chunk : Int
  verbose : Bool
  /-- The subcommand: `store` or `validate`. -/
  subcommand : String
  deriving Repr, DecidableEq

/-- What the command line may hold. -/
def table : OptionTable where
  options := [networkOption Config.defaultNetwork, artifactsOption, chunkOption, verboseOption]
  subcommands := ["store", "validate"]

/-- The options of the settings. -/
def Options.ofSettings (s : Settings) : Options where
  network := s.text "network"
  artifacts := s.text "artifacts-dir"
  chunk := s.integer "chunk-size"
  verbose := s.flag "verbose"
  subcommand := s.subcommand.getD "store"

/-- Store snapshots of all events up to the newest block. -/
def storeNow (registry : String) (directory : Path) (chunk : Int) : Act Failure Unit := do
  let block ← Act.withError .node Node.blockNumber
  let _ ← Act.withError .store (storeAll registry directory block chunk)
  Act.say "Events have been serialized to JSON files."

/-- Validate the newest snapshots. -/
def validateNow (registry : String) (directory : Path) (chunk : Int) : Act Failure Unit := do
  if !(← Act.withError .store (validate registry directory chunk)) then
    throw (.snapshotsDiffer directory.text)

/-- Store snapshots, or validate them. -/
def run (o : Options) : Act Failure Unit := do
  let n ← setUp o.network
  reach n
  let registry ← openRegistry n.registryAddress
  let directory := Path.ofText o.artifacts
  if o.subcommand = "store" then storeNow registry directory o.chunk
  else validateNow registry directory o.chunk

end Store
end StakeRegistry.Command
