/-
Validators that opted in, and the slots that they proposed.
-/
import StakeRegistry.Registry.LifeCycle

namespace StakeRegistry.OptIn

/-- A validator that opted in. -/
structure Validator where
  /-- The key: small letters, no `0x`. -/
  pubkey : String
  /-- The block from which on it counts. -/
  block : Int
  kind : String
  podOwner : String
  vault : String
  operator : String
  withdrawalAddress : String
  deriving Repr, DecidableEq

/-- The columns of a table of validators. -/
def validatorHeader : List String :=
  ["pubKey", "optInBlock", "optInType", "podOwner", "vault", "operator", "withdrawalAddr"]

/-- A validator as a row of a table. -/
def Validator.row (v : Validator) : List String :=
  [v.pubkey, toString v.block, v.kind, v.podOwner, v.vault, v.operator, v.withdrawalAddress]

/-- A slot that an opted-in validator proposed. -/
structure Slot where
  number : Int
  block : Int
  validator : Validator
  deriving Repr, DecidableEq

/-- The columns of a table of slots. -/
def slotHeader : List String :=
  "slot" :: "blockNumber" :: validatorHeader

/-- A slot as a row of a table. -/
def Slot.row (s : Slot) : List String :=
  toString s.number :: toString s.block :: s.validator.row

/-- A slot with the finding whether it was missed. -/
structure CheckedSlot where
  slot : Slot
  missed : Bool
  deriving Repr, DecidableEq

/-- The columns of a table of checked slots. -/
def checkedHeader : List String :=
  slotHeader ++ ["missed"]

/-- A checked slot as a row of a table. -/
def CheckedSlot.row (c : CheckedSlot) : List String :=
  c.slot.row ++ [if c.missed then "true" else "false"]

/-- The address of nobody. -/
def zeroAddress : String :=
  "0x0000000000000000000000000000000000000000"

/-- The validator of an active stake. -/
def Validator.ofStake (pubkey : String) (e : Registry.Event) : Validator where
  pubkey
  block := e.block
  kind := "Vanilla"
  podOwner := zeroAddress
  vault := zeroAddress
  operator := zeroAddress
  withdrawalAddress := e.originator

/-- Does a validator stand before another: by its block, then by its key? -/
def Validator.before (v w : Validator) : Bool :=
  v.block < w.block || (v.block = w.block && !(w.pubkey < v.pubkey))

/-- The validators of active stakes, by their blocks and then by their keys. -/
def ofActive (active : Keyed String Registry.Event) : List Validator :=
  (active.map fun p => Validator.ofStake p.1 p.2).mergeSort Validator.before

end StakeRegistry.OptIn
