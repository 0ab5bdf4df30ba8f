import BenchScope.Decimal.Shortest

/-!
# Number texts

Three notations occur in what the viewer writes:

* `display`: the shortest digits, always positional (`1000000`, `0.5`, `NaN`, `inf`); of two that are
  equally near the one farther from zero;
* `interchange`: the shortest digits, positional for leading exponents from -5 to 15 and always with
  a point there, scientific with a signed exponent elsewhere (`1.0`, `1e+16`, `1.5e-10`); of two that
  are equally near the one with the even last digit;
* `fixed`: a stated number of places, the exact value rounded, halves to even.
-/

namespace BenchScope.Decimal

/-- The decimal digits of a natural number. -/
def digitsOf (n : Nat) : List Char := Nat.toDigits 10 n

/-- The sign in front of a number text. -/
def sign (negative : Bool) : List Char := if negative then ['-'] else []

/-- Digits and the position of the point, counted from the first digit, as positional text. -/
def positional (digits : List Char) (point : Int) : List Char :=
  if point ≤ 0 then '0' :: '.' :: (List.replicate (-point).toNat '0' ++ digits)
  else if digits.length ≤ point.toNat then
    digits ++ List.replicate (point.toNat - digits.length) '0'
  else digits.take point.toNat ++ '.' :: digits.drop point.toNat

/-- `positional`, with a final `.0` where there would be no point. -/
def positionalWithPoint (digits : List Char) (point : Int) : List Char :=
  let text := positional digits point
  if '.' ∈ text then text else text ++ ['.', '0']

/-- One digit before the point, and the exponent with its sign. -/
def scientific (digits : List Char) (exponent : Int) : List Char :=
  let lead := digits.take 1
  let rest := digits.drop 1
  lead ++ (if rest.isEmpty then [] else '.' :: rest) ++
    'e' :: (if exponent < 0 then '-' else '+') :: digitsOf exponent.natAbs

/-- The digits of the shortest decimal, and where its point stands. A zero is one digit. -/
def shortestDigits (tie : Tie) (mantissa : Nat) (exponent : Int) : List Char × Int :=
  if mantissa = 0 then (['0'], 1)
  else
    let s := shortest tie mantissa exponent
    let digits := digitsOf s.digits
    (digits, digits.length + s.exponent)

/-- How doubles that are not finite are spelled. -/
def unusual (negative : Bool) : List Char := sign negative ++ ['i', 'n', 'f']

/-- The shortest digits in positional notation. -/
def displayChars (x : Float) : List Char :=
  match Reading.ofFloat x with
  | .notANumber => ['N', 'a', 'N']
  | .infinite negative => unusual negative
  | .finite negative mantissa exponent =>
    let (digits, point) := shortestDigits .awayFromZero mantissa exponent
    sign negative ++ positional digits point

/-- `displayChars` as text. -/
def display (x : Float) : String := String.ofList (displayChars x)

/-- The shortest digits in positional notation, with a point in any case. -/
def displayWithPoint (x : Float) : String :=
  match Reading.ofFloat x with
  | .finite negative mantissa exponent =>
    let (digits, point) := shortestDigits .awayFromZero mantissa exponent
    String.ofList (sign negative ++ positionalWithPoint digits point)
  | _ => display x

/-- The least and greatest exponent of the leading digit that `interchange` writes positionally. -/
def interchangeRange : Int × Int := (-5, 15)

/-- The text of a finite double in documents that other programs read. -/
def interchangeChars (x : Float) : List Char :=
  match Reading.ofFloat x with
  | .finite negative mantissa exponent =>
    let (digits, point) := shortestDigits .toEven mantissa exponent
    let lead := point - 1
    sign negative ++
      if interchangeRange.1 ≤ lead ∧ lead ≤ interchangeRange.2 then positionalWithPoint digits point
      else scientific digits lead
  | _ => displayChars x

/-- `interchangeChars` as text. -/
def interchange (x : Float) : String := String.ofList (interchangeChars x)

/-- The exact value with a stated number of places, halves to even. -/
def fixedChars (x : Float) (places : Nat) : List Char :=
  match Reading.ofFloat x with
  | .notANumber => ['N', 'a', 'N']
  | .infinite negative => unusual negative
  | .finite negative mantissa exponent =>
    let (num, den) := fraction mantissa exponent
    let scaled := roundDiv (num * Nat.pow 10 places) den .toEven
    let whole := digitsOf (scaled / Nat.pow 10 places)
    let part := digitsOf (scaled % Nat.pow 10 places)
    sign negative ++ whole ++
      if places = 0 then [] else '.' :: (List.replicate (places - part.length) '0' ++ part)

/-- `fixedChars` as text. -/
def fixed (x : Float) (places : Nat) : String := String.ofList (fixedChars x places)

end BenchScope.Decimal
