/-
Why something that was read is not what was expected.
-/
import StakeRegistry.Numeral.Integer
import StakeRegistry.Text.Raw

namespace StakeRegistry

/-- Why a value, a text or a byte string is not what the reader expects. -/
inductive ReadError where
  /-- The text is no integer numeral. -/
  | notInteger (text : RawText)
  /-- The bytes are no integer numeral. -/
  | notIntegerBytes (bytes : List UInt8)
  /-- The integer numeral has too many digits. -/
  | tooManyDigits
  /-- A number that is not a number has no integer part. -/
  | noIntegerPart
  /-- An infinite number has no integer part. -/
  | infinite
  /-- A value of this kind cannot be converted, indexed or walked through. -/
  | wrongKind
  /-- A value of this kind has no members. -/
  | noMembers
  /-- The object lacks the key. -/
  | missingKey (key : String)
  /-- The text is no JSON document. -/
  | notJson
  /-- The JSON document has too many lists and objects inside each other. -/
  | tooDeep
  /-- The bytes are no UTF-8 text. -/
  | notText
  /-- The text is no sequence of bytes in hexadecimal. -/
  | notHex
  /-- The text is no account address. -/
  | notAddress
  /-- The number is no amount of the currency. -/
  | notAmount
  /-- A range cannot be walked with step zero. -/
  | zeroStep
  /-- A field of a record is longer than a reader of records accepts. -/
  | fieldTooLong
  /-- The private key is no number below the order of the curve. -/
  | notPrivateKey
  /-- The digits of the private key are no hexadecimal digits. -/
  | notKeyDigits
  /-- The private key holds a character that is not ASCII. -/
  | notAscii
  deriving Repr, DecidableEq

/-- What is told about a value that could not be read. The causes whose wording is that of the
platform have none. -/
def ReadError.message : ReadError → Option String
  | notInteger s => some (Numeral.notInteger s.quoted)
  | notIntegerBytes bs => some (Numeral.notInteger (Text.quotedBytes bs))
  | missingKey k => some (Text.quoted k)
  | _ => none

/-- Read an integer numeral from a text, which can be one only if it has no lone halves. -/
def readRawInteger (t : RawText) : Except ReadError Int :=
  match Numeral.integer t.toString with
  | .ok i => .ok i
  | .error (.invalid _) => .error (.notInteger t)
  | .error .tooLong => .error .tooManyDigits

/-- Read an integer numeral. -/
def readInteger (s : String) : Except ReadError Int :=
  readRawInteger s

/-- Read an integer numeral from bytes, which can be one only if all of them are ASCII. -/
def readIntegerBytes (bs : List UInt8) : Except ReadError Int :=
  match Numeral.integer (String.ofList (bs.map fun b =>
      if b.toNat < 0x80 then Char.ofNat b.toNat else '?')) with
  | .ok i => .ok i
  | .error .tooLong => .error .tooManyDigits
  | .error (.invalid _) => .error (.notIntegerBytes bs)

end StakeRegistry
