/-
Receipts of included transactions.

A node tells about an included transaction in named values, each a JSON value or a byte string.
-/
import StakeRegistry.Hex
import StakeRegistry.Json.Value

namespace StakeRegistry.Tx

/-- What is known of an included transaction. -/
structure Receipt where
  hash : String
  blockNumber : Int
  /-- One if the transaction did what it should. -/
  status : Int
  gasUsed : Int
  deriving Repr, DecidableEq

/-- Did the transaction do what it should? -/
def Receipt.succeeded (r : Receipt) : Bool :=
  r.status = 1

/-- A value of a receipt as the node tells it. -/
inductive RawField where
  | plain (v : Json.Value)
  | bytes (bs : Bytes)
  deriving Repr

/-- A receipt as the node tells it. -/
abbrev RawReceipt : Type := Keyed String RawField

namespace RawField

/-- The integer that a value stands for. -/
def toInteger : RawField → Except ReadError Int
  | plain v => v.toInteger
  | bytes bs => readIntegerBytes bs

/-- The hash that a value stands for: bytes are written in hexadecimal. -/
def toHash : RawField → String
  | plain v => v.asText
  | bytes bs => "0x" ++ bs.toHex

end RawField

/-- The value under a name that has to be there. -/
def RawReceipt.field (raw : RawReceipt) (name : String) : Except ReadError RawField :=
  match Keyed.find? name raw with
  | some v => .ok v
  | none => .error (.missingKey name)

/-- Read a receipt. The gas used counts as zero if it is not told. -/
def Receipt.ofRaw (raw : RawReceipt) : Except ReadError Receipt := do
  let hash ← raw.field "transactionHash"
  let blockNumber ← (← raw.field "blockNumber").toInteger
  let status ← (← raw.field "status").toInteger
  let gasUsed ← ((Keyed.find? "gasUsed" raw).getD (.plain (.int 0))).toInteger
  return { hash := hash.toHash, blockNumber, status, gasUsed }

end StakeRegistry.Tx
