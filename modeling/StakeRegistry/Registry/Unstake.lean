/-
Unstaking batches of validators, or withdrawing their stakes.
-/
import StakeRegistry.Registry.Stake

namespace StakeRegistry.Registry

open Tx

variable {ω : Type}

/-- What is told about a completed batch: its place, the number of batches and of its keys. -/
def sayBatch (batches : List (List Bytes)) (place : Nat) :
    Program (Chain ω) (Except Fault Unit) := do
  let size := ((batches[place - 1]?).getD []).length
  Chain.say ("  ✓ batch " ++ toString place ++ "/" ++ toString batches.length ++ " (" ++
    toString size ++ " validators)")
  return .ok ()

/-- The transaction that acts on a batch. -/
def actionIntent (r : Sending) (payload : List Bytes → ω) (action : String) (place : Nat)
    (batch : List Bytes) : Intent ω where
  payload := payload batch
  sender := r.sender
  gasLimit := r.gasLimit
  description := Text.capitalize action ++ " batch " ++ toString place

/-- Act on batches of keys one after another. -/
def sendBatches (r : Sending) (payload : List Bytes → ω) (batches : List (List Bytes))
    (action : String) : BatchRun ω (List Receipt) :=
  submitAll r.submitter (fun place _ => sayBatch batches place)
    (batches.mapIdx fun i batch => actionIntent r payload action (i + 1) batch)

end StakeRegistry.Registry
