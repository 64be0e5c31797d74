/-
Reading the checked form of an address.

The checked form of an address writes some of its letters as capitals (`raiseLetters`). These are
read as the small ones are, so that the checked form of twenty bytes is its own checked form
(`checkedAddress_addressOfBytes`). The address of an account is of this kind, since the hash that it
is taken from has 32 bytes (`Account.checkedAddress_of_ofKey`).
-/
import Mathlib.Tactic.Lemma
import StakeRegistry.Account.PrivateKey

namespace StakeRegistry

/-- A digit that is raised is read as it was before. -/
lemma hexValue?_toUpper : ∀ n : Fin 16,
    Text.hexValue? (Text.hexDigit n).toUpper = Text.hexValue? (Text.hexDigit n) := by
  decide

/-- A digit raised or not, as a digit of the hash says. -/
def raised (c h : Char) : Char :=
  if '8' ≤ h then c.toUpper else c

lemma hexValue?_raised {n : Nat} (small : n < 16) (h : Char) :
    Text.hexValue? (raised (Text.hexDigit n) h) = Text.hexValue? (Text.hexDigit n) := by
  unfold raised
  split
  · exact hexValue?_toUpper ⟨n, small⟩
  · rfl

lemma hexPair?_raised (b : UInt8) (h₁ h₂ : Char) :
    hexPair? (raised (Text.hexDigit (b.toNat / 16)) h₁) (raised (Text.hexDigit (b.toNat % 16)) h₂) =
      some b := by
  have small : b.toNat < 256 := b.toNat_lt
  rw [hexPair?, hexValue?_raised (by omega), hexValue?_raised (by omega)]
  exact hexPair?_byteDigits b

/-- Digits some of which are raised are read as the bytes that were written, as long as the hash has
a digit for each of them. -/
lemma strictHexBytes?_raised {bs : Bytes} {hash : List Char} (long : 2 * bs.length ≤ hash.length) :
    strictHexBytes? (((bs.flatMap byteDigits).zip hash).map fun (c, h) => raised c h) =
      some bs := by
  induction bs generalizing hash with
  | nil => rfl
  | cons b bs ih =>
    match hash, long with
    | h₁ :: h₂ :: hash, long =>
      have rest : 2 * bs.length ≤ hash.length := by
        simp only [List.length_cons] at long
        omega
      simp only [List.flatMap_cons, byteDigits, List.cons_append, List.nil_append,
        List.zip_cons_cons, List.map_cons, strictHexBytes?, hexPair?_raised]
      rw [ih rest, Option.map_some]

lemma length_flatMap_byteDigits {bs : Bytes} : (bs.flatMap byteDigits).length = 2 * bs.length := by
  induction bs with
  | nil => rfl
  | cons b bs ih =>
    rw [List.flatMap_cons, List.length_append, ih, List.length_cons, byteDigits]
    simp only [List.length_cons, List.length_nil]
    omega

/-- A hash has 32 bytes. -/
lemma Keccak.length_hash256 {message : Bytes} : (Keccak.hash256 message).length = 32 := by
  have lane (x : UInt64) : (bytesOfLane x).length = 8 := by simp [bytesOfLane]
  simp only [hash256, List.length_flatMap, lane]
  rfl

/-- The checked form of twenty bytes is its own checked form. -/
theorem checkedAddress_addressOfBytes {bs : Bytes} (length : bs.length = 20) :
    checkedAddress (addressOfBytes bs) = .ok (addressOfBytes bs) := by
  have read : strictHexBytes? (raiseLetters (bs.flatMap byteDigits)) = some bs := by
    refine strictHexBytes?_raised ?_
    rw [length_flatMap_byteDigits, Keccak.length_hash256, length]
    decide
  have digits :
      addressDigits (addressOfBytes bs).toList = raiseLetters (bs.flatMap byteDigits) := by
    rw [addressOfBytes, String.toList_ofList, addressDigits]
  rw [checkedAddress, digits, read]
  simp only [length, if_true]

/-- The address of a key is its own checked form. -/
theorem Curve.checkedAddress_addressOfKey (key : Nat) :
    checkedAddress (addressOfKey key) = .ok (addressOfKey key) := by
  unfold addressOfKey
  refine checkedAddress_addressOfBytes ?_
  rw [List.length_drop, Keccak.length_hash256]

/-- The address of an account that was read from a key is its own checked form. -/
theorem Account.checkedAddress_of_ofKey {text : String} {account : Account}
    (h : Account.ofKey text = .ok account) :
    checkedAddress account.address = .ok account.address := by
  unfold Account.ofKey at h
  split at h
  · cases h
  split at h
  · split at h
    · cases h
      exact Curve.checkedAddress_addressOfKey _
    · cases h
  · cases h

end StakeRegistry
