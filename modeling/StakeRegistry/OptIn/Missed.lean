/-
Slots without an opened commitment.
-/
import StakeRegistry.Analytics
import StakeRegistry.OptIn.Validator

namespace StakeRegistry.OptIn

open Analytics

/-- Slots under their blocks, by the number of the slot. -/
def bySlot (slots : Keyed Int Slot) : Keyed Int Slot :=
  slots.mergeSort fun p q => p.2.number ≤ q.2.number

/-- Does no commitment exist for a block? -/
def isMissed (commits : Keyed Int OpenedCommit) (block : Int) : Bool :=
  (commits.find? block).isNone

/-- The finding about a slot, as it is told. -/
def findingText (c : CheckedSlot) (block : Int) : String :=
  (if c.missed then "Missed" else "Not missed") ++ ": " ++ toString c.slot.number ++ " " ++
    toString block

/-- Check each slot, by its number, and tell the findings. -/
def markMissed {ε : Type} (slots : Keyed Int Slot) (commits : Keyed Int OpenedCommit) :
    Act ε (List CheckedSlot) :=
  (bySlot slots).mapM fun (block, slot) => do
    let checked := { slot, missed := isMissed commits block : CheckedSlot }
    Act.say (findingText checked block)
    return checked

end StakeRegistry.OptIn
