/-
Lengths of time in seconds.
-/
import StakeRegistry.Json.Value

namespace StakeRegistry

/-- A number of seconds, whole or with a fraction. -/
inductive Seconds where
  | whole (n : Int)
  | fractional (x : Numeral.Binary64)
  deriving Repr, DecidableEq

namespace Seconds

/-- The number in decimal digits. -/
def toText : Seconds → String
  | whole n => toString n
  | fractional x => x.toText

/-- Is it no time at all? -/
def isZero : Seconds → Bool
  | whole n => n == 0
  | fractional x => x.isZero

end Seconds

/-- A time in microseconds as seconds with a fixed number of decimal places, a half going to the
even neighbour. -/
def secondsText (places micros : Nat) : String :=
  let unit := Nat.pow 10 (6 - places)
  let n := Numeral.Binary64.roundDiv micros unit
  let ds := (toString (n % Nat.pow 10 places)).toList
  toString (n / Nat.pow 10 places) ++ "." ++
    String.ofList (List.replicate (places - ds.length) '0' ++ ds) ++ "s"

end StakeRegistry
