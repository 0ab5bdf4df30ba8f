import BenchScope.Decimal.Reading
import BenchScope.Toml.Strings

/-!
# Numbers

Whole numbers have 64 bits and may be written in base ten, sixteen, eight or two. A number with a point or
an exponent is a double. Single underscores may stand between digits.
-/

namespace BenchScope.Toml.Scan

/-! ## Digits -/

/-- Digits that follow a digit, with single underscores between them. -/
def moreDigits (isDigit : Char → Bool) : Scanner (List Char)
  | '_' :: rest =>
    match rest with
    | c :: tail =>
      if isDigit c then (moreDigits isDigit tail).map fun (digits, rest) => (c :: digits, rest)
      else .error ((faultAt rest).expecting [.digit]).final
    | [] => .error ((faultAt rest).expecting [.digit]).final
  | c :: rest =>
    if isDigit c then (moreDigits isDigit rest).map fun (digits, rest) => (c :: digits, rest)
    else .ok ([], c :: rest)
  | [] => .ok ([], [])

/-- Digits, with single underscores between them. -/
def digits (isDigit : Char → Bool) : Scanner (List Char) := fun text => do
  let (first, rest) ← Scanner.one isDigit text
  let (more, rest) ← moreDigits isDigit rest
  return (first :: more, rest)

/-- A whole decimal number: whether it is negative, and its digits. No zero stands before other
digits. -/
def whole : Scanner (Bool × List Char) := Scanner.inPart .integer fun text =>
  let (negative, rest) := Decimal.splitSign text
  match rest with
  | '0' :: rest => .ok ((negative, ['0']), rest)
  | _ => (digits Char.isDigit rest).map fun (digits, rest) => ((negative, digits), rest)

/-! ## Whole numbers -/

/-- A whole number in 64 bits. -/
def bounded (n : Int) : Except Cause Toml :=
  if Nat.pow 2 63 ≤ n then .error .tooLarge
  else if n < -Nat.pow 2 63 then .error .tooSmall
  else .ok (.integer n)

/-- A whole number with a mark of its base in front. -/
def based (part : Part) (base : Nat) (isDigit : Char → Bool) : Scanner Toml :=
  Scanner.final <| Scanner.meaning (fun digits => bounded (inBase base digits)) <|
    Scanner.inPart part fun text => digits isDigit (text.drop 2)

/-- A whole number. -/
def integer : Scanner Toml := fun text =>
  match text with
  | '0' :: 'x' :: _ => based .hexadecimal 16 (fun c => (hexDigit? c).isSome) text
  | '0' :: 'o' :: _ => based .octal 8 (fun c => '0' ≤ c ∧ c ≤ '7') text
  | '0' :: 'b' :: _ => based .binary 2 (fun c => c = '0' ∨ c = '1') text
  | _ => do
    let ((negative, digits), rest) ← whole text
    let n : Int := Decimal.natOfDigits digits
    match bounded (if negative then -n else n) with
    | .ok value => return (value, rest)
    | .error cause => .error (faultBy cause text).final

/-! ## Doubles -/

/-- The exponent of a number, behind its mark. -/
def exponent : Scanner Int := fun text => do
  let (_, rest) ← Scanner.one (fun c => c = 'e' ∨ c = 'E') text
  let (negative, rest) := Decimal.splitSign rest
  let (digits, rest) ← (digits Char.isDigit).final rest
  let n : Int := Decimal.natOfDigits digits
  return (if negative then -n else n, rest)

/-- The digits behind a point. -/
def fraction : Scanner (List Char) := fun text => do
  let (_, rest) ← Scanner.char '.' text
  ((digits Char.isDigit).expecting [.digit]).final rest

/-- The digits behind a point and the exponent of a double, one of which must be there. -/
def doubleTail : Scanner (List Char × Int) :=
  Scanner.orElse (exponent.map fun n => ([], n)) fun text => do
    let (part, rest) ← fraction text
    let (n, rest) ← exponent.optional rest
    return ((part, n.getD 0), rest)

/-- A double in digits; one too large for a double is refused if it is positive. -/
def double : Scanner Toml := fun text => do
  let ((negative, digits), rest) ← whole text
  let ((part, n), rest) ← doubleTail rest
  let x := Decimal.signed negative
    (Decimal.nearest (Decimal.natOfDigits (digits ++ part)) (n - part.length))
  if x == 1 / 0 then .error (faultAt text).final else return (.float x, rest)

/-- Infinity by its name. -/
def infinity : Scanner Float
  | 'i' :: 'n' :: 'f' :: rest => .ok (1 / 0, rest)
  | text => .error (faultAt text)

/-- The value that is no number, by its name. -/
def notANumber : Scanner Float
  | 'n' :: 'a' :: 'n' :: rest => .ok (0 / 0, rest)
  | text => .error (faultAt text)

/-- Infinity or no number, with or without sign. -/
def namedDouble : Scanner Toml := fun text =>
  let (negative, rest) := Decimal.splitSign text
  (infinity.orElse notANumber).map (fun x => .float (Decimal.signed negative x)) rest

/-- A double. -/
def float : Scanner Toml := Scanner.inPart .float (double.orElse namedDouble)

end BenchScope.Toml.Scan
