/-
Bytes in hexadecimal.

Writing gives two lower-case digits for a byte. `hexBytes?` reads pairs of digits in either case and
allows ASCII blanks before, between and after the pairs; `strictHexBytes?` allows none.
-/
import StakeRegistry.Text.Blank
import StakeRegistry.Text.Quoted

namespace StakeRegistry

/-- A sequence of bytes. -/
abbrev Bytes : Type := List UInt8

/-- The byte written as two hexadecimal digits. -/
def hexPair? (c d : Char) : Option UInt8 := do
  let high ← Text.hexValue? c
  let low ← Text.hexValue? d
  some (UInt8.ofNat (16 * high + low))

/-- Read pairs of hexadecimal digits, with ASCII blanks around the pairs. -/
def hexBytes? : List Char → Option Bytes
  | [] => some []
  | [c] => if Text.isAsciiBlank c then some [] else none
  | c :: d :: r =>
    if Text.isAsciiBlank c then hexBytes? (d :: r)
    else
      match hexPair? c d with
      | some b => (hexBytes? r).map (b :: ·)
      | none => none

/-- Read pairs of hexadecimal digits with nothing between them. -/
def strictHexBytes? : List Char → Option Bytes
  | [] => some []
  | [_] => none
  | c :: d :: r =>
    match hexPair? c d with
    | some b => (strictHexBytes? r).map (b :: ·)
    | none => none

/-- The two digits of a byte. -/
def byteDigits (b : UInt8) : List Char :=
  [Text.hexDigit (b.toNat / 16), Text.hexDigit (b.toNat % 16)]

/-- Bytes as lower-case hexadecimal digits. -/
def Bytes.toHex (bs : Bytes) : String :=
  String.ofList (bs.flatMap byteDigits)

/-- The number that the bytes denote, the highest byte first. -/
def Bytes.toNat (bs : Bytes) : Nat :=
  bs.foldl (fun n b => 256 * n + b.toNat) 0

/-- The last `width` bytes of a number, the highest first. -/
def Bytes.ofNat : (width : Nat) → (n : Nat) → Bytes
  | 0, _ => []
  | w + 1, n => Bytes.ofNat w (n / 256) ++ [UInt8.ofNat (n % 256)]

/-- The two digits of a byte read back. -/
theorem hexPair?_byteDigits (b : UInt8) :
    hexPair? (Text.hexDigit (b.toNat / 16)) (Text.hexDigit (b.toNat % 16)) = some b := by
  have hb : b.toNat < 256 := b.toNat_lt
  have high := Text.hexValue?_hexDigit (show b.toNat / 16 < 16 by omega)
  have low := Text.hexValue?_hexDigit (show b.toNat % 16 < 16 by omega)
  have hsum : 16 * (b.toNat / 16) + b.toNat % 16 = b.toNat := by omega
  simp only [hexPair?, high, low, Option.bind_eq_bind, Option.bind_some, hsum]
  simp

/-- Reading what was written gives the bytes back. -/
theorem strictHexBytes?_toHex (bs : Bytes) : strictHexBytes? bs.toHex.toList = some bs := by
  simp only [Bytes.toHex, String.toList_ofList]
  induction bs with
  | nil => rfl
  | cons b r ih =>
    simp only [List.flatMap_cons, byteDigits, List.cons_append, List.nil_append, strictHexBytes?,
      hexPair?_byteDigits, ih, Option.map_some]

/-- A text without blanks is read the same by both readers. -/
theorem hexBytes?_eq_strict {cs : List Char} (h : ∀ c ∈ cs, Text.isAsciiBlank c = false) :
    hexBytes? cs = strictHexBytes? cs := by
  fun_induction strictHexBytes? cs with
  | case1 => rfl
  | case2 c => simp [hexBytes?, h c (by simp)]
  | case3 c d r b hb ih =>
    have hr : hexBytes? r = strictHexBytes? r := ih fun x hx => h x (by simp [hx])
    simp [hexBytes?, h c (by simp), hb, hr]
  | case4 c d r hb => simp [hexBytes?, h c (by simp), hb]

end StakeRegistry
