/-
Private keys written in hexadecimal.
-/
import StakeRegistry.Account.Curve

namespace StakeRegistry

/-- A signing account. -/
structure Account where
  /-- The checked form of its address. -/
  address : String
  deriving Repr, DecidableEq

/-- The digits of a key without one leading `0x` or `0X`, filled up by a zero to an even number. -/
def keyDigits (cs : List Char) : List Char :=
  let digits := addressDigits cs
  if digits.length % 2 = 1 then '0' :: digits else digits

/-- The account of a private key: 32 bytes that denote a number from one to below the order of the
group. -/
def Account.ofKey (s : String) : Except ReadError Account :=
  if s.toList.any fun c => 128 ≤ c.toNat then .error .notAscii
  else
    match strictHexBytes? (keyDigits s.toList) with
    | some bs =>
      if bs.length = 32 ∧ 0 < bs.toNat ∧ bs.toNat < Curve.order then
        .ok ⟨Curve.addressOfKey bs.toNat⟩
      else .error .notPrivateKey
    | none => .error .notKeyDigits

end StakeRegistry
