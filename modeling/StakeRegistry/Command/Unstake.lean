/-
Unstaking the keys of an account, or withdrawing their stakes.
-/
import StakeRegistry.Command.Setup
import StakeRegistry.Registry.Unstake

namespace StakeRegistry.Command

open Registry

namespace Unstake

/-- What the command line says. -/
structure Options where
  originator : String
  network : String
  artifacts : String
  batchSize : Int
  withdraw : Bool
  gasLimit : Int
  dryRun : Bool
  verbose : Bool
  deriving Repr, DecidableEq

/-- What the command line may hold. -/
def table : OptionTable where
  options := [
    { name := "originator", kind := .text, required := true },
    networkOption "holesky",
    artifactsOption,
    batchSizeOption 100,
    { name := "withdraw", kind := .flag },
    gasLimitOption,
    dryRunOption,
    verboseOption]

/-- The options of the settings. -/
def Options.ofSettings (s : Settings) : Options where
  originator := s.text "originator"
  network := s.text "network"
  artifacts := s.text "artifacts-dir"
  batchSize := s.integer "batch-size"
  withdraw := s.flag "withdraw"
  gasLimit := s.integer "gas-limit"
  dryRun := s.flag "dry-run"
  verbose := s.flag "verbose"

/-- The least balance of the account: a fifth of the large unit, for gas. -/
def minBalance : Int := 200_000_000_000_000_000

/-- What is done to the keys. -/
def Options.action (o : Options) : String :=
  if o.withdraw then "withdraw" else "unstake"

/-- The staked keys, asked only if they are to be unstaked. -/
def onChainKeys (o : Options) (registry : String) : Act Failure (List String) := do
  if o.withdraw then return []
  Act.say "Querying full set of validators BLS pubkeys staked with the registry contract..."
  Act.withError .query (stakedKeys registry defaultPageSize)

/-- The keys to act on. -/
def select (o : Options) (onChain : List String) (staked unstaked withdrawn : List Event) :
    List String :=
  if o.withdraw then keysToWithdraw o.originator staked unstaked withdrawn
  else keysToUnstake o.originator onChain staked unstaked withdrawn

/-- Send the batches. -/
def send (o : Options) (n : Config.Network) (registry : String) (keys : List String) :
    Act Failure Unit := do
  let account ← signer n
  let chainId ← chainIdOf n
  ensureBalance account minBalance
  let keys ← Act.orElse .plan (keys.mapM keyBytes)
  match splitBatches keys o.batchSize with
  | none => throw .batchSizeNotPositive
  | some batches =>
    let payload := fun batch =>
      { call := { contract := registry, method := o.action, arguments := [.keys batch] },
        account := account.address, chainId : Node.Payload }
    sendAll account
      (sendBatches { sender := account.address, gasLimit := o.gasLimit } payload batches o.action)
    Act.say ("All " ++ o.action ++ " batches completed!")

/-- Unstake the keys of an account, or withdraw their stakes. -/
def run (o : Options) : Act Failure Unit := do
  let n ← setUp o.network
  let directory := Path.ofText o.artifacts
  let staked ← snapshot directory .staked
  let unstaked ← snapshot directory .unstaked
  let withdrawn ← snapshot directory .withdraw
  reach n
  let registry ← openRegistry n.registryAddress
  let onChain ← onChainKeys o registry
  let keys := select o onChain staked unstaked withdrawn
  Act.say ("Number of validators to " ++ o.action ++ ": " ++ toString keys.length)
  if o.dryRun || keys.isEmpty then sayLines (keys.map ("  0x" ++ ·))
  else send o n registry keys

end Unstake
end StakeRegistry.Command
