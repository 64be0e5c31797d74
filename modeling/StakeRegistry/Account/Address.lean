/-
Account addresses.

An address is forty hexadecimal digits. Its checked form writes `0x` and the digits, a letter as a
capital where the digit at the same place of the hash of the small digits is at least eight. A
text is read in any letter case, with or without `0x`; the letter case is not checked.
-/
import StakeRegistry.Account.Keccak
import StakeRegistry.ReadError

namespace StakeRegistry

/-- The small digits of an address with the letters raised that the hash of the digits picks. -/
def raiseLetters (digits : List Char) : List Char :=
  let hash := (Keccak.hash256 (digits.map fun c => UInt8.ofNat c.toNat)).flatMap byteDigits
  (digits.zip hash).map fun (c, h) => if '8' ≤ h then c.toUpper else c

/-- The checked form of an address of twenty bytes. -/
def addressOfBytes (bs : Bytes) : String :=
  String.ofList ('0' :: 'x' :: raiseLetters (bs.flatMap byteDigits))

/-- The digits of an address after its marker, if there is one. -/
def addressDigits : List Char → List Char
  | '0' :: 'x' :: r => r
  | '0' :: 'X' :: r => r
  | r => r

/-- The checked form of an address read from a text. -/
def checkedAddress (s : String) : Except ReadError String :=
  match strictHexBytes? (addressDigits s.toList) with
  | some bs => if bs.length = 20 then .ok (addressOfBytes bs) else .error .notAddress
  | none => .error .notAddress

end StakeRegistry
