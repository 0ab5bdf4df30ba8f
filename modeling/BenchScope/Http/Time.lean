import BenchScope.Clock
import BenchScope.Decimal.Reading
import BenchScope.Text.Characters

/-!
# Points in time in headers

A header gives a point in time in one of three formats:

* `Sun, 06 Nov 1994 08:49:37 GMT`,
* `Sunday, 06-Nov-94 08:49:37 GMT`, with the last two digits of a year from 1970 to 2069,
* `Sun Nov  6 08:49:37 1994`, with a blank in place of the first digit of a small day.

A format is a list of fields that are read one after the other. The name of the day of the week must be
one, but it need not be the right one.
-/

namespace BenchScope.Http

/-- A day with a time of day. -/
structure Time where
  date : Clock.Date
  hour : Nat
  minute : Nat
  second : Nat
  deriving DecidableEq, Repr

namespace Time

/-- The seconds from the start of 1970. -/
def toSeconds (time : Time) : Nat :=
  ((Clock.daysTo time.date * 24 + time.hour) * 60 + time.minute) * 60 + time.second

/-- Whether the parts of a time are within their limits. Every month may have 31 days. -/
def isValid (time : Time) : Bool :=
  time.second < 60 && time.minute < 60 && time.hour < 24 && 1 ≤ time.date.day &&
    time.date.day ≤ 31 && 1970 ≤ time.date.year && time.date.year ≤ 9999

/-! ## Fields -/

/-- A part of a format. -/
inductive Field where
  | fixed (text : String)
  | anything
  | shortDayName
  | longDayName
  | monthName
  | day
  | paddedDay
  | year
  | shortYear
  | hour
  | minute
  | second
  deriving DecidableEq, Repr

/-- The names of the days of the week. -/
def dayNames : List String :=
  ["Monday", "Tuesday", "Wednesday", "Thursday", "Friday", "Saturday", "Sunday"]

/-- The short names of the days of the week. -/
def shortDayNames : List String := ["Mon", "Tue", "Wed", "Thu", "Fri", "Sat", "Sun"]

/-- The names of the months. -/
def monthNames : List String :=
  ["Jan", "Feb", "Mar", "Apr", "May", "Jun", "Jul", "Aug", "Sep", "Oct", "Nov", "Dec"]

/-- A number of exactly `width` digits, and the rest of the text. -/
def number? (width : Nat) (text : List Char) : Option (Nat × List Char) :=
  let digits := text.take width
  if digits.length = width ∧ digits.all Char.isDigit then
    some (Decimal.natOfDigits digits, text.drop width)
  else none

/-- The place of the first of a list of names that a text starts with, and the rest of the text. -/
def name? (names : List String) (text : List Char) : Option (Nat × List Char) :=
  (names.findIdx? fun name => name.toList.isPrefixOf text).map fun place =>
    (place, text.drop (names.getD place "").length)

/-- Reads a field: the time with what the field tells of it, and the rest of the text. -/
def readField? (time : Time) (text : List Char) : Field → Option (Time × List Char)
  | .fixed expected =>
    if expected.toList.isPrefixOf text then some (time, text.drop expected.length) else none
  | .anything => if text.isEmpty then none else some (time, text.drop 1)
  | .shortDayName => (name? shortDayNames text).map fun (_, rest) => (time, rest)
  | .longDayName => (name? dayNames text).map fun (_, rest) => (time, rest)
  | .monthName => (name? monthNames text).map fun (place, rest) =>
    ({ time with date := { time.date with month := place + 1 } }, rest)
  | .day => (number? 2 text).map fun (day, rest) =>
    ({ time with date := { time.date with day } }, rest)
  | .paddedDay =>
    (if text.head? = some ' ' then number? 1 (text.drop 1) else number? 2 text).map fun (day, rest) =>
      ({ time with date := { time.date with day } }, rest)
  | .year => (number? 4 text).map fun (year, rest) =>
    ({ time with date := { time.date with year } }, rest)
  | .shortYear => (number? 2 text).map fun (year, rest) =>
    let year := if year < 70 then 2000 + year else 1900 + year
    ({ time with date := { time.date with year } }, rest)
  | .hour => (number? 2 text).map fun (hour, rest) => ({ time with hour }, rest)
  | .minute => (number? 2 text).map fun (minute, rest) => ({ time with minute }, rest)
  | .second => (number? 2 text).map fun (second, rest) => ({ time with second }, rest)

/-! ## Formats -/

/-- The fields of a time of day. -/
def timeOfDay : List Field := [.hour, .fixed ":", .minute, .fixed ":", .second]

/-- The formats. -/
def formats : List (List Field) :=
  [[.shortDayName, .fixed ", ", .day, .fixed " ", .monthName, .fixed " ", .year, .fixed " "] ++
     timeOfDay ++ [.fixed " GMT"],
   [.longDayName, .fixed ", ", .day, .fixed "-", .monthName, .fixed "-", .shortYear, .anything] ++
     timeOfDay ++ [.fixed " GMT"],
   [.shortDayName, .fixed " ", .monthName, .fixed " ", .paddedDay, .fixed " "] ++
     timeOfDay ++ [.fixed " ", .year]]

/-- Reads fields up to the end of a text. -/
def readFields? (time : Time) (text : List Char) : List Field → Option Time
  | [] => if text.isEmpty then some time else none
  | field :: fields =>
    (readField? time text field).bind fun (time, rest) => readFields? time rest fields

/-- A point in time in one of the formats, perhaps with blanks around it. -/
def ofText? (text : String) : Option Time :=
  let chars := Text.dropEnds Text.isBlank text.toList
  if !text.toList.all (·.toNat < 128) then none
  else (formats.findSome? (readFields? ⟨⟨0, 0, 0⟩, 0, 0, 0⟩ chars)).filter isValid

end Time

end BenchScope.Http
