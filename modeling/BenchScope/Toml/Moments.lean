import BenchScope.Toml.Numbers

/-!
# Dates and times

A date, a time of day, or both with or without the distance from universal time. They are kept in their
usual spelling: `T` between date and time, a fraction of a second without zeros at its end, and `+00:00`
for no distance.
-/

namespace BenchScope.Toml.Scan

/-- A number of a fixed count of digits within bounds. -/
def fixedDigits (count low high : Nat) : Scanner (List Char) := fun text =>
  let digits := text.take count
  let n := Decimal.natOfDigits digits
  if digits.length = count ∧ digits.all Char.isDigit then
    if low ≤ n ∧ n ≤ high then .ok (digits, text.drop count)
    else .error (faultBy .outOfRange text)
  else .error (faultAt text)

/-- The number of days of a month. -/
def daysIn (year month : Nat) : Nat :=
  if month = 2 then
    if year % 4 = 0 ∧ (year % 100 ≠ 0 ∨ year % 400 = 0) then 29 else 28
  else if month = 4 ∨ month = 6 ∨ month = 9 ∨ month = 11 then 30
  else 31

/-- A date. A year and a hyphen can only be one. -/
def date : Scanner (List Char) := fun text => do
  let (year, rest) ← fixedDigits 4 0 9999 text
  let (_, rest) ← Scanner.char '-' rest
  let (month, rest) ← (fixedDigits 2 1 12).final rest
  let (_, rest) ← (Scanner.char '-').final rest
  let days := daysIn (Decimal.natOfDigits year) (Decimal.natOfDigits month)
  let (day, rest) ← (fixedDigits 2 1 days).final rest
  return (year ++ '-' :: month ++ '-' :: day, rest)

/-- A fraction of a second: at most nine digits count, and zeros at its end do not show. -/
def secondFraction : Scanner (List Char) := fun text => do
  let (_, rest) ← Scanner.char '.' text
  let digits := rest.takeWhile Char.isDigit
  if digits.isEmpty then .error (faultAt rest)
  else
    let kept := ((digits.take 9).reverse.dropWhile (· = '0')).reverse
    return (if kept.isEmpty then [] else '.' :: kept, rest.dropWhile Char.isDigit)

/-- Minutes and seconds, behind an hour and a colon. -/
def minutesAndSeconds : Scanner (List Char) := fun text => do
  let (minutes, rest) ← fixedDigits 2 0 59 text
  let (_, rest) ← Scanner.char ':' rest
  let (seconds, rest) ← fixedDigits 2 0 60 rest
  let (part, rest) ← secondFraction.optional rest
  return (minutes ++ ':' :: seconds ++ part.getD [], rest)

/-- A time of day. An hour and a colon can only be one. -/
def time : Scanner (List Char) := fun text => do
  let (hours, rest) ← fixedDigits 2 0 23 text
  let (_, rest) ← Scanner.char ':' rest
  let (tail, rest) ← minutesAndSeconds.final rest
  return (hours ++ ':' :: tail, rest)

/-- Hours and minutes of a distance, behind its sign. -/
def distance : Scanner (List Char) := fun text => do
  let (hours, rest) ← fixedDigits 2 0 23 text
  let (_, rest) ← Scanner.char ':' rest
  let (minutes, rest) ← fixedDigits 2 0 59 rest
  return (hours ++ ':' :: minutes, rest)

/-- The distance from universal time. -/
def offset : Scanner (List Char) := Scanner.inPart .offset fun text =>
  match text with
  | [] => .error (faultAt text)
  | c :: rest =>
    if c = 'Z' ∨ c = 'z' then .ok (['Z'], rest)
    else if c = '+' ∨ c = '-' then do
      let (length, rest) ← distance.final rest
      return ((if length = "00:00".toList then '+' else c) :: length, rest)
    else .error (faultAt text)

/-- A time after a date and what divides them. -/
def timeOfDate : Scanner (List Char) := fun text => do
  let (_, rest) ← Scanner.one (fun c => c = 'T' ∨ c = 't' ∨ c = ' ') text
  let (clock, rest) ← time rest
  let (zone, rest) ← offset.optional rest
  return ('T' :: clock ++ zone.getD [], rest)

/-- A date with or without a time. -/
def dateWithTime : Scanner (List Char) := Scanner.inPart .moment fun text => do
  let (day, rest) ← date text
  let (clock, rest) ← timeOfDate.optional rest
  return (day ++ clock.getD [], rest)

/-- A date, a time or both, in its usual spelling. -/
def moment : Scanner Toml :=
  (dateWithTime.orElse (time.inPart .time)).map fun text => .moment (String.ofList text)

end BenchScope.Toml.Scan
