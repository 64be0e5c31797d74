/-
Amounts of the currency.

Amounts are whole numbers of the smallest unit. They are told in the large unit of `10 ^ 18` small
ones: without trailing zeros, and with an exponent where the first digit stands beyond the sixth
decimal place.
-/
import StakeRegistry.ReadError

namespace StakeRegistry

/-- The greatest amount. -/
def maxAmount : Nat := Nat.pow 2 256 - 1

/-- A positive decimal `n / 10 ^ places` without trailing zeros after the point. -/
def reduceDecimal (n : Nat) : (places : Nat) → Nat × Nat
  | 0 => (n, 0)
  | places + 1 => if n % 10 = 0 then reduceDecimal (n / 10) places else (n, places + 1)

/-- The text of the positive decimal `n / 10 ^ places`. -/
def decimalText (n places : Nat) : String :=
  let ds := (toString n).toList
  if places = 0 then String.ofList ds
  else if ds.length ≤ places ∧ 6 ≤ places - ds.length then
    let exponent := "E-" ++ toString (places - ds.length + 1)
    match ds with
    | [] => ""
    | [d] => String.ofList [d] ++ exponent
    | d :: r => String.ofList (d :: '.' :: r) ++ exponent
  else if ds.length ≤ places then
    String.ofList ('0' :: '.' :: List.replicate (places - ds.length) '0' ++ ds)
  else
    let whole := ds.length - places
    String.ofList (ds.take whole ++ '.' :: ds.drop whole)

/-- An amount in the large unit. -/
def amountText (amount : Int) : Except ReadError String :=
  if amount = 0 then .ok "0"
  else if amount < 0 ∨ (maxAmount : Int) < amount then .error .notAmount
  else
    let (n, places) := reduceDecimal amount.toNat 18
    .ok (decimalText n places)

end StakeRegistry
