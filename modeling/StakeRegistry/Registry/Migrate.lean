/-
Migrating stakes into another registry.

Each batch of the plan holds keys of one originator, for whom the stake is delegated.
-/
import StakeRegistry.Registry.Stake

namespace StakeRegistry.Registry

open Tx

variable {ω : Type}

/-- A batch of keys of one originator. -/
structure PlannedBatch where
  originator : String
  pubkeys : List Bytes
  deriving Repr, DecidableEq

/-- The transaction that delegates the stakes of a batch. -/
def delegateIntent (r : Sending) (payload : ω) (valuePerValidator : Int) (place : Nat)
    (batch : PlannedBatch) : Intent ω where
  payload
  sender := r.sender
  value := valuePerValidator * batch.pubkeys.length
  gasLimit := r.gasLimit
  description := "DelegateStake batch " ++ toString place ++ " for " ++ batch.originator

/-- What is told about the batch whose transaction was included and failed. -/
def sayReverted (batch : PlannedBatch) : Program (Chain ω) Unit := do
  Chain.say ("Stake originator: " ++ batch.originator)
  Chain.say ("Number of validators in this batch: " ++ toString batch.pubkeys.length)
  batch.pubkeys.forM fun k => Chain.say ("Validator pubkey: " ++ k.toHex)

/-- Delegate the stakes of the planned batches one after another, each with its payload. -/
def migrateBatches (r : Sending) (plan : List (PlannedBatch × ω)) (valuePerValidator : Int) :
    BatchRun ω (List Receipt) :=
  let report : Report ω := fun place _ =>
    sayCompleted ("Batch " ++ toString place ++ "/" ++ toString plan.length)
  let intents := plan.mapIdx fun i (batch, payload) =>
    delegateIntent r payload valuePerValidator (i + 1) batch
  tryCatch (submitAll r.submitter report intents) fun e => do
    match e with
    | .reverted place _ _ =>
      match plan[place - 1]? with
      | some (batch, _) => told (sayReverted batch)
      | none => pure ()
    | _ => pure ()
    throw e

end StakeRegistry.Registry
