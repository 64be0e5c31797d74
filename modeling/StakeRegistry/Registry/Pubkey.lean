/-
Public keys of validators.

A key is written as 48 bytes in hexadecimal, in any letter case, with or without one `0x` in front
and with blanks around it. A key file has one key a line; blank lines are ignored.
-/
import StakeRegistry.Hex
import StakeRegistry.Text.Lines
import StakeRegistry.Text.Lower

namespace StakeRegistry.Registry

/-- Bytes of a key. -/
def pubkeyLength : Nat := 48

/-- Why a text is no key. -/
inductive PubkeyError where
  | notHex (text : String)
  | wrongLength (length : Nat) (text : String)
  deriving Repr, DecidableEq

/-- What is told about a text that is no key. -/
def PubkeyError.message : PubkeyError → String
  | notHex text => "invalid hex pubkey: " ++ text
  | wrongLength length text =>
    "BLS pubkey must be " ++ toString pubkeyLength ++ " bytes, got " ++
      toString length ++ ": " ++ text

/-- The digits of a key: small letters, without blanks around them and without one `0x`. -/
def normalizePubkey (s : String) : String :=
  Text.dropLeading "0x" (Text.lower (Text.trim s))

/-- The bytes of a key. -/
def readPubkey (s : String) : Except PubkeyError Bytes :=
  match hexBytes? (normalizePubkey s).toList with
  | some bs => if bs.length = pubkeyLength then .ok bs else .error (.wrongLength bs.length s)
  | none => .error (.notHex s)

/-- The keys of a key file. -/
def readPubkeys (text : String) : Except PubkeyError (List Bytes) :=
  ((Text.splitLines text).filter fun line => !(Text.trim line).isEmpty).mapM readPubkey

end StakeRegistry.Registry
