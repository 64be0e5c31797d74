/-
Integer numerals.

A numeral is an optional sign and decimal digits of any script, between blanks. One underscore may
stand between two digits. At most 4300 digits are read, and at most as many are written.
-/
import StakeRegistry.Text.Blank
import StakeRegistry.Text.Digit
import StakeRegistry.Text.Quoted

namespace StakeRegistry.Numeral

/-- Why a text is not read as an integer. -/
inductive IntegerError where
  /-- The text is no numeral. -/
  | invalid (text : String)
  /-- The numeral has more digits than are read. -/
  | tooLong
  deriving Repr, DecidableEq

/-- The most digits of a numeral. -/
def maxDigits : Nat := 4300

/-- The least number with too many digits. -/
@[irreducible] def leastTooLong : Nat :=
  Nat.pow 10 maxDigits

/-- Are the digits of a number few enough to be written? -/
def isWritable (i : Int) : Bool :=
  i.natAbs < leastTooLong

/-- A smaller number has no more digits. -/
theorem isWritable_of_le {m n : Nat} (le : m ≤ n) (h : isWritable n = true) :
    isWritable m = true := by
  simp only [isWritable, decide_eq_true_iff, Int.natAbs_natCast] at h ⊢
  omega

/-- A number as it is written, in decimal digits. -/
def text? (i : Int) : Option String :=
  if isWritable i then some (toString i) else none

theorem text?_of_isWritable {i : Int} (h : isWritable i = true) : text? i = some (toString i) :=
  if_pos h

theorem text?_eq_none_iff {i : Int} : text? i = none ↔ isWritable i = false := by
  simp [text?]

/-- A digit of a numeral or the underscore that may divide two of them. -/
def isDigitPart (c : Char) : Bool :=
  c == '_' || (Text.digitValue? c).isSome

/-- Does every underscore stand between two digits? `afterDigit` tells whether the character before
is a digit. -/
def wellDivided (afterDigit : Bool) : List Char → Bool
  | [] => afterDigit
  | c :: r => if c = '_' then afterDigit && wellDivided false r else wellDivided true r

/-- The values of the digits of a numeral, the highest first. -/
def digitValues (cs : List Char) : List Nat :=
  cs.filterMap Text.digitValue?

/-- The number with the given decimal digits, the highest first. -/
def ofDigitValues (ds : List Nat) : Nat :=
  ds.foldl (fun n d => 10 * n + d) 0

/-- The sign of a numeral, and what follows it. -/
def splitSign : List Char → Bool × List Char
  | '-' :: r => (true, r)
  | '+' :: r => (false, r)
  | r => (false, r)

/-- Read an integer numeral. -/
def integer (s : String) : Except IntegerError Int :=
  let (negative, body) := splitSign (Text.trimWith Text.isNumeralBlank s.toList)
  let digits := body.takeWhile isDigitPart
  if !wellDivided false digits then .error (.invalid s)
  else if maxDigits < (digitValues digits).length then .error .tooLong
  else if digits.length < body.length then .error (.invalid s)
  else
    let n : Int := ofDigitValues (digitValues digits)
    .ok (if negative then -n else n)

/-- What is told about a text that is no numeral: at most two hundred characters of its quoted
form. -/
def notInteger (quotedText : String) : String :=
  "invalid literal for int() with base 10: " ++ String.ofList (quotedText.toList.take 200)

end StakeRegistry.Numeral
