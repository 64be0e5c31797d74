/-
Which stakes are migrated, and in which batches.

The active stakes are gone through in the order of their keys. Those of excluded accounts are left
out, and so are keys that an explorer does not know; the explorer is asked only about the rest. The
selected keys are then divided into batches of one account each.
-/
import StakeRegistry.Program
import StakeRegistry.Registry.Batches
import StakeRegistry.Registry.LifeCycle
import StakeRegistry.Registry.Migrate

namespace StakeRegistry.Registry

/-- What the selection asks. -/
inductive Explorer.Call where
  /-- Is the key registered? -/
  | isRegistered (pubkey : String)
  /-- Write a line to the operator. -/
  | say (line : String)

/-- What is answered. An explorer may fail with an `ε`. -/
def Explorer.Answer (ε : Type) : Explorer.Call → Type
  | .isRegistered _ => Except ε Bool
  | .say _ => Unit

/-- An explorer that may fail with an `ε`. -/
def Explorer (ε : Type) : Interface where
  Call := Explorer.Call
  Answer := Explorer.Answer ε

variable {ε : Type}

/-- Ask whether a key is registered. -/
def askRegistered (pubkey : String) : ExceptT ε (Program (Explorer ε)) Bool :=
  Program.call (I := Explorer ε) (.isRegistered pubkey)

/-- Tell the operator that a key is left out. -/
def sayUnregistered (pubkey : String) : ExceptT ε (Program (Explorer ε)) Unit :=
  ExceptT.lift (Program.call (I := Explorer ε)
    (.say ("Skipping validator who is not registered with beacon chain: " ++ pubkey)))

/-- The events whose keys are registered. -/
def selectRegistered : Keyed String Event → ExceptT ε (Program (Explorer ε)) (List Event)
  | [] => return []
  | (pubkey, e) :: rest => do
    if ← askRegistered pubkey then
      return e :: (← selectRegistered rest)
    else
      sayUnregistered pubkey
      selectRegistered rest

/-- Is the account one of the excluded, in any letter case? -/
def isExcluded (excluded : List String) (originator : String) : Bool :=
  (excluded.map Text.lower).contains (Text.lower originator)

/-- The stakes to migrate, in the order of their keys. -/
def selectEvents (active : Keyed String Event) (excluded : List String) :
    ExceptT ε (Program (Explorer ε)) (List Event) :=
  selectRegistered ((sortedByKey active).filter fun p => !isExcluded excluded p.2.originator)

/-- Why no batches are planned. -/
inductive PlanError where
  | sizeNotPositive
  | notHex
  deriving Repr, DecidableEq

/-- The bytes of a key. -/
def keyBytes (pubkey : String) : Except PlanError Bytes :=
  match hexBytes? pubkey.toList with
  | some bs => .ok bs
  | none => .error .notHex

/-- The batches of one account. -/
def planGroup (size : Int) (group : String × List String) : Except PlanError (List PlannedBatch) :=
  match splitBatches group.2 size with
  | none => .error .sizeNotPositive
  | some batches => batches.mapM fun batch => do
    return { originator := group.1, pubkeys := ← batch.mapM keyBytes }

/-- The batches in which the keys of the events are migrated. -/
def planBatches (es : List Event) (size : Int) : Except PlanError (List PlannedBatch) := do
  return (← (groupByOriginator es).mapM (planGroup size)).flatten

end StakeRegistry.Registry
