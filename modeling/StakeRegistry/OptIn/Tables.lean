/-
Tables of opted-in validators and slots in files.

A table of validators is read leniently: a row with too few columns or without a block is told to
the operator and left out. A table of slots is read strictly: such a row is an error.

Blocks and slots are written in full. It is taken for granted that they have at most
`Numeral.maxDigits` digits, as many as are read back.
-/
import StakeRegistry.Csv.Writer
import StakeRegistry.Files.Text
import StakeRegistry.Host.Call
import StakeRegistry.OptIn.Validator
import StakeRegistry.Text.Blank
import StakeRegistry.Text.Lower
import StakeRegistry.Text.Quoted

namespace StakeRegistry.OptIn

/-- Why a table cannot be read or written. -/
inductive TableError where
  | file (e : FileError)
  | unreadable (e : ReadError)
  /-- A row has too few columns. -/
  | tooFewColumns (path : String) (line columns : Nat)
  /-- A row holds something that is no number. -/
  | badRow (path : String) (line : Nat) (cause : ReadError)
  deriving Repr, DecidableEq

/-- What is told about a table that cannot be read or written. -/
def TableError.message : TableError → Option String
  | file _ => none
  | unreadable e => e.message
  | tooFewColumns path line columns =>
    some (path ++ ":" ++ toString line ++ ": expected " ++ toString slotHeader.length ++
      " columns, got " ++ toString columns)
  | badRow path line cause => some (path ++ ":" ++ toString line ++ ": " ++ cause.text)

/-- A row of a table as it is told. -/
def quotedRow (fields : List String) : String :=
  (Json.Value.list (fields.map .string)).quoted

/-- The header of a table as it is told. -/
def headerText : List (List String) → String
  | [] => "None"
  | header :: _ => quotedRow header

/-- The records of a file. -/
def recordsOfFile (path : Path) : Act TableError Csv.Records := do
  let bytes ← Act.orElse .file (← Act.ask (.file (.read path)))
  return Csv.records (.ofBytes bytes)

/-- What reading stopped at, once all records before it are dealt with. -/
def checkStopped (rs : Csv.Records) : Act TableError Unit :=
  match rs.stopped with
  | some e => throw (.unreadable e)
  | none => pure ()

/-- Tell the header of a table. -/
def sayHeader (rs : Csv.Records) : Act TableError Unit := do
  if rs.records = [] then checkStopped rs
  Act.say ("CSV Headers: " ++ headerText rs.records)

/-- The key in a table as it is looked up. -/
def normalKey (s : String) : String :=
  Text.dropLeading "0x" (Text.lower (Text.trim s))

/-- What a row of a table of validators holds. -/
inductive ValidatorRow where
  | validator (v : Validator)
  /-- The row has too few columns. -/
  | tooShort
  /-- The block is no number. -/
  | badBlock (text : String)
  deriving Repr, DecidableEq

/-- Read a row of a table of validators. -/
def ValidatorRow.ofRecord : List String → ValidatorRow
  | key :: block :: kind :: podOwner :: vault :: operator :: withdrawalAddress :: _ =>
    match readInteger block with
    | .ok n => .validator { pubkey := normalKey key, block := n, kind, podOwner, vault, operator,
                            withdrawalAddress }
    | .error _ => .badBlock block
  | _ => .tooShort

/-- The validators in rows, each under its key; what is left out is told. -/
def validatorsOfRows (found : Keyed String Validator) :
    List (List String) → Act TableError (Keyed String Validator)
  | [] => return found
  | row :: rest => do
    match ValidatorRow.ofRecord row with
    | .validator v => validatorsOfRows (found.put v.pubkey v) rest
    | .tooShort =>
      Act.say ("Error reading CSV record: " ++ quotedRow row)
      validatorsOfRows found rest
    | .badBlock text =>
      Act.say ("Error parsing optInBlock: " ++ Text.quoted text)
      validatorsOfRows found rest

/-- The validators of a table, each under its key. -/
def loadValidators (path : Path) : Act TableError (Keyed String Validator) := do
  let rs ← recordsOfFile path
  sayHeader rs
  let validators ← validatorsOfRows [] rs.records.tail
  checkStopped rs
  Act.say ("Loaded " ++ toString validators.length ++ " validators from CSV")
  return validators

/-- Read a row of a table of slots. -/
def Slot.ofRecord : List String → Except ReadError (Option Slot)
  | number :: block :: key :: optIn :: kind :: podOwner :: vault :: operator ::
    withdrawalAddress :: _ => do
    let number ← readInteger number
    let block ← readInteger block
    let optIn ← readInteger optIn
    return some { number, block, validator := { pubkey := key, block :=
                                                optIn, kind, podOwner, vault,
                                                operator, withdrawalAddress } }
  | _ => return none

/-- The slots in rows, each under its block; the first row stands on the given line. -/
def slotsOfRows (path : String) (found : Keyed Int Slot) (line : Nat) :
    List (List String) → Except TableError (Keyed Int Slot)
  | [] => .ok found
  | row :: rest =>
    match Slot.ofRecord row with
    | .ok (some s) => slotsOfRows path (found.put s.block s) (line + 1) rest
    | .ok none => .error (.tooFewColumns path line row.length)
    | .error e => .error (.badRow path line e)

/-- The slots of a table, each under its block. -/
def loadSlots (path : Path) : Act TableError (Keyed Int Slot) := do
  let rs ← recordsOfFile path
  sayHeader rs
  let slots ← Act.orElse id (slotsOfRows path.text [] 2 rs.records.tail)
  checkStopped rs
  Act.say ("Loaded " ++ toString slots.length ++ " opted-in slots from CSV")
  return slots

/-- Write a table. -/
def writeTable (path : Path) (header : List String) (rows : List (List String)) :
    Act TableError Unit := do
  Act.orElse .file (← Act.ask (.file (.write path (Csv.ofRecords (header :: rows)))))

/-- Write a table of validators. -/
def exportValidators (path : Path) (vs : List Validator) : Act TableError Unit := do
  Act.say ("Exporting " ++ toString vs.length ++ " opted in validators to csv")
  writeTable path validatorHeader (vs.map Validator.row)
  Act.say ("Exported " ++ toString vs.length ++ " opted in validators to " ++ path.text)

/-- Does a slot stand before another: by the block of its validator, then by its number? -/
def Slot.before (s t : Slot) : Bool :=
  s.validator.block < t.validator.block ||
    (s.validator.block = t.validator.block && s.number ≤ t.number)

/-- Write a table of slots, by the blocks of their validators and then by their numbers. -/
def exportSlots (path : Path) (ss : List Slot) : Act TableError Unit := do
  Act.say ("Exporting " ++ toString ss.length ++ " opted-in slots to csv")
  writeTable path slotHeader ((ss.mergeSort Slot.before).map Slot.row)
  Act.say ("Exported " ++ toString ss.length ++ " opted-in slots to " ++ path.text)

/-- Write a table of checked slots. -/
def exportChecked (path : Path) (cs : List CheckedSlot) : Act TableError Unit := do
  writeTable path checkedHeader (cs.map CheckedSlot.row)
  let missed := (cs.filter CheckedSlot.missed).length
  Act.say
    ("Wrote " ++ toString cs.length ++ " slots (" ++ toString missed ++ " missed) to " ++ path.text)

end StakeRegistry.OptIn
