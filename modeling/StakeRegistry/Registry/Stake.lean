/-
Staking batches of validators.
-/
import StakeRegistry.Hex
import StakeRegistry.Tx.Batch

namespace StakeRegistry.Registry

open Tx

variable {ω : Type}

/-- The line around what is told about a completed batch. -/
def rule : String := "-------------------"

/-- What is told about a completed batch. -/
def sayCompleted (what : String) : Program (Chain ω) (Except Fault Unit) := do
  Chain.say rule
  Chain.say (what ++ " completed")
  Chain.say rule
  return .ok ()

/-- What all transactions of a run have in common. -/
structure Sending where
  submitter : Submitter := .standard
  sender : String
  gasLimit : Int := 3000000

/-- The transaction that stakes a batch: it carries the stake of each of its keys. -/
def stakeIntent (r : Sending) (payload : List Bytes → ω) (stakePerValidator : Int) (place : Nat)
    (batch : List Bytes) : Intent ω where
  payload := payload batch
  sender := r.sender
  value := stakePerValidator * batch.length
  gasLimit := r.gasLimit
  description := "Stake batch " ++ toString place

/-- Stake batches of keys one after another. -/
def stakeBatches (r : Sending) (payload : List Bytes → ω) (batches : List (List Bytes))
    (stakePerValidator : Int) : BatchRun ω (List Receipt) :=
  submitAll r.submitter (fun place _ => sayCompleted ("Batch " ++ toString place))
    (batches.mapIdx fun i batch => stakeIntent r payload stakePerValidator (i + 1) batch)

end StakeRegistry.Registry
