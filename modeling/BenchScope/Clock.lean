/-!
# Points in time

The text of a point in time: date, time of day and the offset of UTC. The date is counted in cycles of
400 years, whose years start in March so that the day that is added in some years comes last. The days
that lie before a date are counted year by year and month by month.
-/

namespace BenchScope.Clock

/-- A day of the calendar. -/
structure Date where
  year : Nat
  month : Nat
  day : Nat
  deriving DecidableEq, Repr

/-- The days of 400 years. -/
def daysOfCycle : Nat := 146097

/-- The day that comes a number of days after the first of January 1970. -/
def dateOf (days : Nat) : Date :=
  let shifted := days + 719468
  let cycle := shifted / daysOfCycle
  let inCycle := shifted % daysOfCycle
  let yearOfCycle := (inCycle - inCycle / 1460 + inCycle / 36524 - inCycle / 146096) / 365
  let dayOfYear := inCycle - (365 * yearOfCycle + yearOfCycle / 4 - yearOfCycle / 100)
  let shiftedMonth := (5 * dayOfYear + 2) / 153
  let month := if shiftedMonth < 10 then shiftedMonth + 3 else shiftedMonth - 9
  { year := yearOfCycle + cycle * 400 + if month ≤ 2 then 1 else 0
    month
    day := dayOfYear - (153 * shiftedMonth + 2) / 5 + 1 }

/-- Whether a year has a day more. -/
def isLeap (year : Nat) : Bool := year % 4 == 0 && (year % 100 != 0 || year % 400 == 0)

/-- The days of the months in front of a month, in a year without a day more. -/
def daysBefore (month : Nat) : Nat :=
  ([31, 28, 31, 30, 31, 30, 31, 31, 30, 31, 30].take (month - 1)).foldl (· + ·) 0

/-- The years with a day more from 1970 to the year in front of a year. -/
def leapYearsBefore (year : Nat) : Nat :=
  let past := year - 1
  past / 4 - past / 100 + past / 400 - 477

/-- The days from the first of January 1970 to a date. -/
def daysTo (date : Date) : Nat :=
  (date.year - 1970) * 365 + leapYearsBefore date.year + daysBefore date.month +
    (if isLeap date.year ∧ 2 < date.month then 1 else 0) + (date.day - 1)

/-- A number with at least `width` digits. -/
def padded (width n : Nat) : String :=
  let digits := Nat.toDigits 10 n
  String.ofList (List.replicate (width - digits.length) '0' ++ digits)

/-- The point that comes a number of seconds after the start of 1970. -/
def textOf (seconds : Nat) : String :=
  let date := dateOf (seconds / 86400)
  padded 4 date.year ++ "-" ++ padded 2 date.month ++ "-" ++ padded 2 date.day ++ "T" ++
    padded 2 (seconds / 3600 % 24) ++ ":" ++ padded 2 (seconds / 60 % 60) ++ ":" ++
    padded 2 (seconds % 60) ++ "+00:00"

end BenchScope.Clock
