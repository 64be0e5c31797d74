/-
What the commands have in common: their network, their node and their account.
-/
import StakeRegistry.Command.Failure
import StakeRegistry.Command.Options

namespace StakeRegistry.Command

open Config

/-- The gas limit of a transaction, if none is given. -/
def defaultGasLimit : Int := 3000000

/-- The number of blocks in a request, if none is given. -/
def defaultChunk : Int := 50000

/-- The option that names a network. -/
def networkOption (default : String) : OptionSpec :=
  { name := "network", kind := .choice networkNames, default := .text default }

/-- The flag that asks for all records of the log. -/
def verboseOption : OptionSpec := { name := "verbose", kind := .flag }

/-- The flag that asks to send nothing. -/
def dryRunOption : OptionSpec := { name := "dry-run", kind := .flag }

/-- The option for the number of keys in a transaction. -/
def batchSizeOption (default : Int) : OptionSpec :=
  { name := "batch-size", kind := .integer, default := .int default }

/-- The option for the gas limit of a transaction. -/
def gasLimitOption : OptionSpec :=
  { name := "gas-limit", kind := .integer, default := .int defaultGasLimit }

/-- The option for the directory of the snapshots. -/
def artifactsOption : OptionSpec :=
  { name := "artifacts-dir", kind := .text, default := .text "artifacts" }

/-- The option for the number of blocks in a request. -/
def chunkOption : OptionSpec :=
  { name := "chunk-size", kind := .integer, default := .int defaultChunk }

/-- The option for the file that is written. -/
def outputOption (default : String) : OptionSpec :=
  { name := "output", kind := .text, default := .text default }

/-- The network of a run: that of the name, with what the environment and the file of environment
variables say about it. -/
def setUp (network : String) : Act Failure Network := do
  let start : Path ← Act.ask (.file .programDirectory)
  let env : Keyed String String ← Act.ask .environment
  let (_, added) ← Act.withError .setup (loadEnvFile start env)
  Act.orElse (fun e => .setup (.config e)) (loadNetwork network (env ++ added))

/-- The account that signs. -/
def signer (n : Network) : Act Failure Account :=
  Act.withError .setup (loadAccount n)

/-- Reach the node of a network. -/
def reach (n : Network) : Act Failure Unit :=
  Act.withError .node (Node.connect n.rpcUrl)

/-- The identity of the chain of a network. -/
def chainIdOf (n : Network) : Act Failure Int :=
  Act.withError .node (Node.chainId n.chainId)

/-- Prepare calls of the registry at an address. -/
def openRegistry (address : String) : Act Failure String :=
  Act.withError .node (Node.openRegistry address)

/-- See to it that an account has at least an amount. -/
def ensureBalance (account : Account) (needed : Int) : Act Failure Unit := do
  let _ ← Act.withError .node (Node.ensureBalance account.address needed)

/-- Carry out a run of transactions of an account. -/
def sendAll {α : Type} (account : Account) (p : Tx.BatchRun Node.Payload α) : Act Failure Unit := do
  let _ ← Act.withError .batch (Node.runBatch account.address p)

/-- The events in the newest snapshot of a type. -/
def snapshot (directory : Path) (type : Registry.EventType) : Act Failure (List Registry.Event) :=
  Act.withError (fun e => .store (.artifact e)) (Registry.readEvents directory type.name)

/-- The text, if it is not empty, or else a default. -/
def textOr (given : Option String) (default : String) : String :=
  match given with
  | some s => if s.isEmpty then default else s
  | none => default

/-- Write lines to the operator. -/
def sayLines (lines : List String) : Act Failure Unit :=
  lines.forM Act.say

end StakeRegistry.Command
