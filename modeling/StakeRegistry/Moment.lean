/-
Local times.
-/
namespace StakeRegistry

/-- A local time. -/
structure Moment where
  year : Nat
  month : Nat
  day : Nat
  hour : Nat
  minute : Nat
  second : Nat
  deriving Repr, DecidableEq

/-- A number in at least two digits. -/
def twoDigits (n : Nat) : String :=
  if n < 10 then "0" ++ toString n else toString n

namespace Moment

/-- A time as part of the name of a file. -/
def stamp (m : Moment) : String :=
  toString m.year ++ "-" ++ twoDigits m.month ++ "-" ++ twoDigits m.day ++ "_" ++
    twoDigits m.hour ++ "-" ++ twoDigits m.minute ++ "-" ++ twoDigits m.second

/-- A time as it stands in a log, with milliseconds. -/
def logText (m : Moment) (milliseconds : Nat) : String :=
  let ms := (toString milliseconds).toList
  toString m.year ++ "-" ++ twoDigits m.month ++ "-" ++ twoDigits m.day ++ " " ++
    twoDigits m.hour ++ ":" ++ twoDigits m.minute ++ ":" ++ twoDigits m.second ++ "," ++
    String.ofList (List.replicate (3 - ms.length) '0' ++ ms)

/-- The number in some digits of a text. -/
def numberAt (cs : List Char) (start length : Nat) : Nat :=
  ((cs.drop start).take length).foldl (fun n c => 10 * n + (c.toNat - 48)) 0

/-- The time written as a date and a time of day in digits, such as `2024-04-24T09:05:07`. -/
def ofText (s : String) : Moment :=
  let number := numberAt s.toList
  { year := number 0 4, month := number 5 2, day := number 8 2
    hour := number 11 2, minute := number 14 2, second := number 17 2 }

/-- The date that is a number of days after the first of March of the year zero: the years are
counted in cycles of 400, 100, 4 and 1, each from March to February. -/
def dateOfDays (days : Nat) : Nat × Nat × Nat :=
  let cycle := days / 146097
  let inCycle := days % 146097
  let year := (inCycle - inCycle / 1460 + inCycle / 36524 - inCycle / 146096) / 365
  let inYear := inCycle - (365 * year + year / 4 - year / 100)
  let march := (5 * inYear + 2) / 153
  let day := inYear - (153 * march + 2) / 5 + 1
  let month := if march < 10 then march + 3 else march - 9
  (cycle * 400 + year + (if month ≤ 2 then 1 else 0), month, day)

/-- The time that is a number of seconds after the start of the year 1970. -/
def ofSeconds (seconds : Nat) : Moment :=
  let (year, month, day) := dateOfDays (seconds / 86400 + 719468)
  let rest := seconds % 86400
  { year, month, day, hour := rest / 3600, minute := rest / 60 % 60, second := rest % 60 }

end Moment
end StakeRegistry
