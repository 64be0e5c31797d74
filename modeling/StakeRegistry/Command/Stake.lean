/-
Staking the keys of a file.
-/
import StakeRegistry.Command.Setup

namespace StakeRegistry.Command

open Registry

namespace Stake

/-- What the command line says. -/
structure Options where
  keysFile : String
  network : String
  batchSize : Int
  stakePerValidator : Int
  gasLimit : Int
  verbose : Bool
  deriving Repr, DecidableEq

/-- The stake of a key, if none is given: 3.1 of the large unit. -/
def defaultStake : Int := 3_100_000_000_000_000_000

/-- What the command line may hold. -/
def table : OptionTable where
  options := [
    { name := "keys-file", kind := .text, required := true },
    networkOption Config.defaultNetwork,
    batchSizeOption 20,
    { name := "stake-per-validator-wei", kind := .integer, default := .int defaultStake },
    gasLimitOption,
    verboseOption]

/-- The options of the settings. -/
def Options.ofSettings (s : Settings) : Options where
  keysFile := s.text "keys-file"
  network := s.text "network"
  batchSize := s.integer "batch-size"
  stakePerValidator := s.integer "stake-per-validator-wei"
  gasLimit := s.integer "gas-limit"
  verbose := s.flag "verbose"

/-- The keys of a file, of which there has to be at least one. -/
def readKeys (file : String) : Act Failure (List Bytes) := do
  let working : Path ← Act.ask (.file .workingDirectory)
  if (Path.ofText file).hasNul then throw .keysFileHasNul
  let path := (Path.ofText file).resolve working
  if !(← Act.orElse .file
    (← Act.ask (.file (.isThere path)))) then throw (.keysFileMissing path.text)
  let bytes ← Act.orElse .file (← Act.ask (.file (.read path)))
  let text ← Act.orElse .unreadable (textFile bytes)
  let keys ← Act.orElse .pubkey (readPubkeys text)
  if keys.isEmpty then throw (.noPubkeys path.text)
  return keys

/-- What is told before the batches are sent. -/
def heading (n : Config.Network) (o : Options) (chainId : Int) (account : Account)
    (keys batches : Nat) : List String := [
  "",
  "=== STAKE VALIDATORS ===",
  "Network:          " ++ n.name ++ " (chain id " ++ toString chainId ++ ")",
  "Registry:         " ++ n.registryAddress,
  "Staker:           " ++ account.address,
  "Validators:       " ++ toString keys,
  "Batches:          " ++ toString batches ++ " x up to " ++ toString o.batchSize,
  ""]

/-- Stake the keys of a file. -/
def run (o : Options) : Act Failure Unit := do
  let n ← setUp o.network
  let account ← signer n
  let keys ← readKeys o.keysFile
  match splitBatches keys o.batchSize with
  | none => throw .batchSizeNotPositive
  | some batches =>
    reach n
    let chainId ← chainIdOf n
    ensureBalance account (o.stakePerValidator * keys.length)
    let registry ← openRegistry n.registryAddress
    sayLines (heading n o chainId account keys.length batches.length)
    let payload := fun batch =>
      { call := { contract := registry, method := "stake", arguments := [.keys batch] },
        account := account.address, chainId : Node.Payload }
    sendAll account (stakeBatches { sender := account.address, gasLimit := o.gasLimit }
        payload batches o.stakePerValidator)
    Act.say "All staking batches completed!"

end Stake
end StakeRegistry.Command
