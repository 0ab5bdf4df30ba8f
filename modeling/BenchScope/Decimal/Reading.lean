import BenchScope.Decimal.Binary64

/-!
# Reading decimal numbers

Text to double, rounded to the nearest double. `float?` takes an optional sign, then digits with an
optional point and an optional exponent, or one of the names of infinity and not-a-number in any case.
`integer?` takes an optional sign and digits.
-/

namespace BenchScope.Decimal

/-- The number that digits spell. -/
def natOfDigits (digits : List Char) : Nat :=
  digits.foldl (fun n c => n * 10 + (c.toNat - '0'.toNat)) 0

/-- The double nearest to `digits · 10 ^ exponent`. Exponents far outside the range of doubles are cut
off first. -/
def nearest (digits : Nat) (exponent : Int) : Float :=
  let top := (Nat.toDigits 10 digits).length + exponent
  if digits = 0 ∨ top < -400 then 0
  else if 400 < top then 1 / 0
  else Float.ofScientific digits (exponent < 0) exponent.natAbs

/-- A sign in front of a text: whether it is a minus, and the text after it. -/
def splitSign : List Char → Bool × List Char
  | '-' :: rest => (true, rest)
  | '+' :: rest => (false, rest)
  | text => (false, text)

/-- A sign and at least one digit. -/
def integer? (text : List Char) : Option Int :=
  let (negative, digits) := splitSign text
  if digits.isEmpty ∨ ¬ digits.all Char.isDigit then none
  else some (if negative then -(natOfDigits digits : Int) else natOfDigits digits)

/-- The exponent after its mark; the end of the text is the exponent zero. -/
def exponent? : List Char → Option Int
  | [] => some 0
  | c :: rest => if c = 'e' ∨ c = 'E' then integer? rest else none

/-- An unsigned number with digits before or after the point. -/
def magnitude? (text : List Char) : Option Float := do
  let whole := text.takeWhile Char.isDigit
  let rest := text.dropWhile Char.isDigit
  let (part, rest) := match rest with
    | '.' :: tail => (tail.takeWhile Char.isDigit, tail.dropWhile Char.isDigit)
    | _ => ([], rest)
  if whole.isEmpty ∧ part.isEmpty then none
  else
    let exponent ← exponent? rest
    return nearest (natOfDigits (whole ++ part)) (exponent - part.length)

/-- The value of a name of infinity or not-a-number. -/
def named? (text : List Char) : Option Float :=
  match String.ofList (text.map Char.toLower) with
  | "inf" => some (1 / 0)
  | "infinity" => some (1 / 0)
  | "nan" => some (0 / 0)
  | _ => none

/-- A double. -/
def float? (text : List Char) : Option Float :=
  let (negative, rest) := splitSign text
  ((named? rest).orElse fun _ => magnitude? rest).map (signed negative)

end BenchScope.Decimal
