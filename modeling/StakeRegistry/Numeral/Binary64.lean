/-
Floating-point numbers of 64 bits, in exact arithmetic.

A finite number is a sign, a natural number below `2 ^ 53` and a power of two. `ofDecimal` rounds a
decimal to the nearest of them, a half to the even one; `truncate` cuts off the fraction;
`toText` writes the fewest decimal digits that read back.
-/

namespace StakeRegistry.Numeral

/-- A floating-point number of 64 bits. -/
inductive Binary64 where
  | notANumber
  | infinite (negative : Bool)
  /-- The number `± significand * 2 ^ exponent`. -/
  | finite (negative : Bool) (significand : Nat) (exponent : Int)
  deriving Repr, DecidableEq

namespace Binary64

/-- The least exponent. -/
def minExponent : Int := -1074

/-- The greatest exponent. -/
def maxExponent : Int := 971

/-- The quotient of two numbers rounded to the nearest number, a half to the even one. -/
def roundDiv (a b : Nat) : Nat :=
  let q := a / b
  let r := a % b
  if 2 * r < b then q else if b < 2 * r then q + 1 else if q % 2 = 0 then q else q + 1

/-- `n * 2 ^ k` as the numerator and the denominator of a fraction, for a fraction `n / d`. -/
def scaleBy (n d : Nat) (k : Int) : Nat × Nat :=
  if 0 ≤ k then (n * Nat.pow 2 k.toNat, d) else (n, d * Nat.pow 2 (-k).toNat)

/-- The greatest `k` with `2 ^ k ≤ n / d`, for positive `n` and `d`. -/
def floorLog2 (n d : Nat) : Int :=
  let guess : Int := (n.log2 : Int) - d.log2
  let (a, b) := scaleBy n d (-guess)
  if b ≤ a then guess else guess - 1

/-- The number nearest to `± n / d`. -/
def ofRatio (negative : Bool) (n d : Nat) : Binary64 :=
  if n = 0 then finite negative 0 minExponent
  else
    let e := max minExponent (floorLog2 n d - 52)
    let (a, b) := scaleBy n d (-e)
    let m := roundDiv a b
    let (m, e) := if m = Nat.pow 2 53 then (Nat.pow 2 52, e + 1) else (m, e)
    if maxExponent < e then infinite negative else finite negative m e

/-- The number nearest to `± digits * 10 ^ exponent`, where `count` is the number of decimal digits
of `digits` without zeros in front. A decimal far outside the range is not expanded. -/
def ofDecimal (negative : Bool) (digits count : Nat) (exponent : Int) : Binary64 :=
  if digits = 0 then finite negative 0 minExponent
  else if 400 < exponent + count then infinite negative
  else if exponent + count < -400 then finite negative 0 minExponent
  else if 0 ≤ exponent then ofRatio negative (digits * Nat.pow 10 exponent.toNat) 1
  else ofRatio negative digits (Nat.pow 10 (-exponent).toNat)

/-- Is the number zero, of either sign? -/
def isZero : Binary64 → Bool
  | finite _ m _ => m == 0
  | _ => false

/-- The integer next to a finite number in the direction of zero. -/
def truncate (negative : Bool) (m : Nat) (e : Int) : Int :=
  let n : Int := if 0 ≤ e then (m * Nat.pow 2 e.toNat : Nat) else (m / Nat.pow 2 (-e).toNat : Nat)
  if negative then -n else n

/-- The decimal exponent of the fraction `n / d`: the least `k` with `n / d < 10 ^ k`, searched for
within `fuel` steps upwards from `k`. -/
def decimalExponent (n d : Nat) : (fuel : Nat) → (k : Int) → Int
  | 0, k => k
  | fuel + 1, k =>
    let below := if 0 ≤ k then n < d * Nat.pow 10 k.toNat else n * Nat.pow 10 (-k).toNat < d
    if below then k else decimalExponent n d fuel (k + 1)

/-- The digits and the decimal exponent of the shortest decimal among those with `count` digits or
more that lies between `low` and `high` (all over `d`), the one nearest to `n / d`; `closed` tells
whether the bounds themselves count. -/
def shortestFrom (n low high d : Nat) (closed : Bool) (point : Int) :
    (fuel : Nat) → (count : Nat) → Nat × Int
  | 0, count => (n, count)
  | fuel + 1, count =>
    let shift := (count : Int) - point
    -- the grid of `count` digits, in units of `10 ^ (point - count)`
    let (a, b) :=
      if 0 ≤ shift then (n * Nat.pow 10 shift.toNat, d) else (n, d * Nat.pow 10 (-shift).toNat)
    let scale := fun x : Nat => if 0 ≤ shift then x * Nat.pow 10 shift.toNat else x
    let inside := fun x : Nat =>
      if closed then scale low ≤ x * b && x * b ≤ scale high
      else scale low < x * b && x * b < scale high
    let lower := a / b
    match inside lower, inside (lower + 1) with
    | true, true =>
      let r := a % b
      let upward := b < 2 * r || (b = 2 * r && lower % 2 = 1)
      (if upward then lower + 1 else lower, point - count)
    | true, false => (lower, point - count)
    | false, true => (lower + 1, point - count)
    | false, false => shortestFrom n low high d closed point fuel (count + 1)

/-- The fewest decimal digits, and their exponent, that read back as `m * 2 ^ e`. -/
def shortest (m : Nat) (e : Int) : Nat × Int :=
  let halfGap := if m = Nat.pow 2 52 ∧ minExponent < e then 1 else 2
  let (n, d) := scaleBy (4 * m) 4 e
  let unit := n / (4 * m)
  let point := decimalExponent n d 700 (-330)
  shortestFrom n ((4 * m - halfGap) * unit) ((4 * m + 2) * unit) d (m % 2 == 0) point 17 1

/-- A number without its trailing zeros, counted into the exponent. -/
def dropZeros : (fuel : Nat) → Nat → Int → Nat × Int
  | 0, n, e => (n, e)
  | fuel + 1, n, e => if n ≠ 0 ∧ n % 10 = 0 then dropZeros fuel (n / 10) (e + 1) else (n, e)

/-- A decimal exponent with its sign and at least two digits. -/
def exponentText (e : Int) : String :=
  (if e < 0 then "e-" else "e+") ++ (if e.natAbs < 10 then "0" else "") ++ toString e.natAbs

/-- The text of a positive decimal `n * 10 ^ e`: positional from `0.0001` to below `10 ^ 16`, with
at least one digit after the point, and with an exponent elsewhere. -/
def decimalText (n : Nat) (e : Int) : String :=
  let ds := (toString n).toList
  let point : Int := ds.length + e
  if -4 < point ∧ point ≤ 16 then
    if point ≤ 0 then
      String.ofList ('0' :: '.' :: List.replicate (-point).toNat '0' ++ ds)
    else if 0 ≤ e then
      String.ofList (ds ++ List.replicate e.toNat '0' ++ ['.', '0'])
    else
      String.ofList (ds.take point.toNat ++ '.' :: ds.drop point.toNat)
  else
    match ds with
    | [] => ""
    | d :: [] => String.ofList [d] ++ exponentText (point - 1)
    | d :: r => String.ofList (d :: '.' :: r) ++ exponentText (point - 1)

/-- The text of a number in the fewest digits that read back. -/
def toText : Binary64 → String
  | notANumber => "nan"
  | infinite negative => if negative then "-inf" else "inf"
  | finite negative m e =>
    let body :=
      if m = 0 then "0.0"
      else
        let (n, x) := shortest m e
        let (n, x) := dropZeros 400 n x
        decimalText n x
    if negative then "-" ++ body else body

end Binary64

end StakeRegistry.Numeral
