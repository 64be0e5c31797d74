/-
Finding the slots that opted-in validators proposed.

The proposers of each epoch of a range are asked for. A slot counts if its proposer is an opted-in
validator, if it has a block, and if that block is not before the one from which on the validator
counts. A range of epochs can be divided among several workers; their findings are joined in the
order in which the workers finish.
-/
import StakeRegistry.Beacon
import StakeRegistry.OptIn.Validator

namespace StakeRegistry.OptIn

open Beacon

/-- Why the slots cannot be found. -/
inductive ScanError where
  | beacon (e : BeaconError)
  | unreadable (e : ReadError)
  /-- The last epoch is before the first one. -/
  | endBeforeStart (last first : Int)
  /-- The range is to be divided into less than one part. -/
  | noParts
  deriving Repr, DecidableEq

/-- What is told when the slots cannot be found. -/
def ScanError.message : ScanError → Option String
  | beacon e => e.message
  | unreadable e => e.message
  | endBeforeStart last first =>
    some ("end epoch " ++ toString last ++ " is before start epoch " ++ toString first)
  | noParts => some "parts must be positive"

/-- The next `count` ranges of epochs from an epoch on: each has `size` epochs, the first `extra` of
them one more. -/
def evenRanges (size : Nat) (lo : Int) : (extra count : Nat) → List (Int × Int)
  | _, 0 => []
  | 0, count + 1 => (lo, lo + size - 1) :: evenRanges size (lo + size) 0 count
  | extra + 1, count + 1 => (lo, lo + size) :: evenRanges size (lo + size + 1) extra count

/-- Divide a range of epochs, both ends included, into at most `parts` ranges whose sizes differ by
at most one, the larger ones first. -/
def splitEpochs (first last parts : Int) : Except ScanError (List (Int × Int)) :=
  if last < first then .error (.endBeforeStart last first)
  else if parts ≤ 0 then .error .noParts
  else
    let total := (last - first + 1).toNat
    let parts := min parts.toNat total
    .ok (evenRanges (total / parts) first (total % parts) parts)

/-- The key of the proposer in a duty. -/
def proposerOf (duty : Json.Value) : Except ReadError String := do
  match ← duty.field "pubkey" with
  | .text s => return Registry.Event.plainKey s.toString
  | _ => throw .noMembers

/-- The slot of one duty, if it counts. -/
def slotOfDuty (api : String) (validators : Keyed String Validator) (duty : Json.Value) :
    Act ScanError (Option Slot) := do
  let pubkey ← Act.orElse .unreadable (proposerOf duty)
  match validators.find? pubkey with
  | none => return none
  | some validator =>
    let number ← Act.orElse .unreadable (duty.field "slot" >>= Json.Value.toInteger)
    match ← Act.withError .beacon (blockOfSlot api number) with
    | none =>
      Act.say ("Missed slot " ++ toString number ++ " for pubkey " ++ pubkey)
      return none
    | some block =>
      if block < validator.block then return none
      Act.say ("Found opted-in slot. Slot number: " ++ toString number ++ ", block number: " ++
        toString block ++ ", pubkey: " ++ pubkey)
      return some { number, block, validator }

/-- The slots of duties that count. -/
def slotsOfDuties (api : String) (validators : Keyed String Validator) (duties : List Json.Value) :
    Act ScanError (List Slot) := do
  return (← duties.mapM (slotOfDuty api validators)).filterMap id

/-- The slots of an epoch that count. -/
def scanEpoch (api : String) (validators : Keyed String Validator) (epoch : Int) :
    Act ScanError (List Slot) := do
  let start : Nat ← Act.ask .clock
  Act.say ("Fetching proposer duties for epoch " ++ toString epoch)
  let duties ← Act.withError .beacon (proposerDuties api epoch)
  let duties ← Act.orElse .unreadable duties.elements
  let slots ← slotsOfDuties api validators duties
  let finished : Nat ← Act.ask .clock
  Act.say ("Time taken for epoch " ++ toString epoch ++ ": " ++ secondsText 2 (finished - start))
  return slots

/-- The slots of the next `count` epochs that count. -/
def scanFrom (api : String) (validators : Keyed String Validator) (epoch : Int) :
    (count : Nat) → Act ScanError (List Slot)
  | 0 => return []
  | count + 1 => do
    let slots ← scanEpoch api validators epoch
    return slots ++ (← scanFrom api validators (epoch + 1) count)

/-- The slots of a range of epochs that count, both ends included. -/
def scanEpochs (api : String) (validators : Keyed String Validator) (first last : Int) :
    Act ScanError (List Slot) :=
  scanFrom api validators first (last - first + 1).toNat

/-- Scan each of several ranges to its end or error. -/
def scanRanges (api : String) (validators : Keyed String Validator) (ranges : List (Int × Int)) :
    Program Host (List (Except ScanError (List Slot))) :=
  ranges.mapM fun r => (scanEpochs api validators r.1 r.2).run

/-- The slots of a range of epochs that count, found by a number of workers. -/
def findSlots (api : String) (validators : Keyed String Validator) (first last workers : Int) :
    Act ScanError (List Slot) := do
  let ranges ← Act.orElse id (splitEpochs first last workers)
  let order : FinishingOrder ranges.length ← Act.ask (.workers ranges.length)
  let results ← ExceptT.lift (scanRanges api validators ranges)
  return (← Act.orElse id ((order.arrange results).mapM id)).flatten

end StakeRegistry.OptIn
