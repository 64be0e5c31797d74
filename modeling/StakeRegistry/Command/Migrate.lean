/-
Migrating the active stakes into another registry.
-/
import StakeRegistry.Command.Setup
import StakeRegistry.Registry.Migrate

namespace StakeRegistry.Command

open Registry

namespace Migrate

/-- What the command line says. -/
structure Options where
  network : String
  target : Option String
  artifacts : String
  excluded : List String
  batchSize : Int
  valuePerValidator : Int
  gasLimit : Int
  dryRun : Bool
  verbose : Bool
  deriving Repr, DecidableEq

/-- What is sent for a key, if nothing is given: a ten thousandth of the large unit. -/
def defaultValue : Int := 100_000_000_000_000

/-- What the command line may hold. -/
def table : OptionTable where
  options := [
    networkOption "holesky",
    { name := "target", kind := .text },
    artifactsOption,
    { name := "exclude-originator", kind := .texts },
    batchSizeOption 20,
    { name := "value-per-validator-wei", kind := .integer, default := .int defaultValue },
    gasLimitOption,
    dryRunOption,
    verboseOption]

/-- The options of the settings. -/
def Options.ofSettings (s : Settings) : Options where
  network := s.text "network"
  target := s.text? "target"
  artifacts := s.text "artifacts-dir"
  excluded := s.texts "exclude-originator"
  batchSize := s.integer "batch-size"
  valuePerValidator := s.integer "value-per-validator-wei"
  gasLimit := s.integer "gas-limit"
  dryRun := s.flag "dry-run"
  verbose := s.flag "verbose"

/-- The least balance of the account: one of the large unit. -/
def minBalance : Int := 1_000_000_000_000_000_000

/-- The registry that the stakes are migrated into. -/
def targetOf (o : Options) (n : Config.Network) : String :=
  textOr o.target (textOr n.newRegistryAddress n.registryAddress)

/-- The answers of a block explorer to what the selection asks. -/
def explorerAnswer (explorer : String) :
    (c : Explorer.Call) → Program Host (Explorer.Answer Beacon.BeaconError c)
  | .isRegistered pubkey => (Beacon.isRegistered explorer pubkey).run
  | .say line => Program.call (I := Host) (.say line)

/-- The stakes to migrate, as far as a block explorer knows their keys. -/
def select (explorer : String) (active : Keyed String Event) (excluded : List String) :
    Act Failure (List Event) :=
  Act.withError .beacon (ExceptT.mk
    (Program.expand (I := Explorer Beacon.BeaconError) (explorerAnswer explorer)
      (selectEvents active excluded).run))

/-- What is told about the plan. -/
def planText (n : Config.Network) (target : String) (validators : Nat) (plan : List PlannedBatch) :
    List String :=
  ["",
   "=== MIGRATE VALIDATORS ===",
   "Network:          " ++ n.name,
   "Target registry:  " ++ target,
   "Validators:       " ++ toString validators,
   "Batches:          " ++ toString plan.length] ++
  plan.map (fun b => "  " ++ b.originator ++ ": " ++ toString b.pubkeys.length ++ " validators") ++
  [""]

/-- A planned batch with the call that delegates its stakes. -/
def withPayload (registry : String) (account : Account) (chainId : Int) (batch : PlannedBatch) :
    Except ReadError (PlannedBatch × Node.Payload) := do
  let originator ← checkedAddress batch.originator
  let call : ContractCall :=
    { contract := registry, method := "delegateStake",
      arguments := [.keys batch.pubkeys, .address originator] }
  return (batch, { call, account := account.address, chainId })

/-- Send the planned batches. -/
def send (o : Options) (n : Config.Network) (target : String) (plan : List PlannedBatch) :
    Act Failure Unit := do
  let account ← signer n
  reach n
  let chainId ← chainIdOf n
  ensureBalance account minBalance
  let registry ← openRegistry target
  let plan ← Act.orElse .unreadable (plan.mapM (withPayload registry account chainId))
  sendAll account
    (migrateBatches { sender := account.address, gasLimit := o.gasLimit } plan o.valuePerValidator)
  Act.say "All batches completed!"

/-- Migrate the active stakes. -/
def run (o : Options) : Act Failure Unit := do
  let n ← setUp o.network
  let target := targetOf o n
  let directory := Path.ofText o.artifacts
  let staked ← snapshot directory .staked
  let unstaked ← snapshot directory .unstaked
  let withdrawn ← snapshot directory .withdraw
  let active := activeStakes staked unstaked withdrawn
  Act.say ("Active stakes in artifacts: " ++ toString active.length)
  let events ← select n.explorerApiUrl active o.excluded
  let plan ← Act.orElse .plan (planBatches events o.batchSize)
  sayLines (planText n target events.length plan)
  if !o.dryRun && !plan.isEmpty then send o n target plan

end Migrate
end StakeRegistry.Command
