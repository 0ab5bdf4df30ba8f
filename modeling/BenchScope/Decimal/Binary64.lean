/-!
# Doubles as exact values

A finite double is `± mantissa · 2 ^ exponent`. Everything that prints or rounds a double in this
library starts from that exact value, so that each printed digit is a fact of integer arithmetic.

* `Reading` and `Reading.ofFloat`: the kind of a double, with its exact value when it is finite;
* `roundDiv`: a quotient of naturals rounded to nearest, ties by a stated rule;
* `roundHalfAway`: the nearest integral double, halves away from zero;
* `powTen`: the power of ten by repeated squaring that scales a number to a count of places.
-/

namespace BenchScope.Decimal

/-- What a double denotes: a finite one is `± mantissa · 2 ^ exponent`. -/
inductive Reading where
  | notANumber
  | infinite (negative : Bool)
  | finite (negative : Bool) (mantissa : Nat) (exponent : Int)
  deriving DecidableEq, Repr

/-- The sign bit as a truth value. -/
def isNegative : Float.Model.UnpackedFloat.Sign → Bool
  | .negative => true
  | .positive => false

/-- The kind and exact value of a double. -/
def Reading.ofFloat (x : Float) : Reading :=
  match x.toModel.unpack with
  | .notANumber => .notANumber
  | .infinity sign => .infinite (isNegative sign)
  | .zero sign => .finite (isNegative sign) 0 0
  | .finite sign mantissa exponent _ => .finite (isNegative sign) mantissa exponent

/-- Which integer a quotient exactly halfway between two integers becomes. -/
inductive Tie where
  | toEven
  | awayFromZero
  deriving DecidableEq, Repr

/-- The integer nearest to `num / den`; an exact half goes where `tie` says. -/
def roundDiv (num den : Nat) (tie : Tie) : Nat :=
  let floor := num / den
  let twice := 2 * (num % den)
  if twice < den then floor
  else if den < twice then floor + 1
  else match tie with
    | .awayFromZero => floor + 1
    | .toEven => if floor % 2 = 0 then floor else floor + 1

/-- `num / den` for the magnitude `mantissa · 2 ^ exponent`. -/
def fraction (mantissa : Nat) (exponent : Int) : Nat × Nat :=
  (mantissa * Nat.pow 2 exponent.toNat, Nat.pow 2 (-exponent).toNat)

/-- A double with the given sign and magnitude. -/
def signed (negative : Bool) (magnitude : Float) : Float :=
  if negative then -magnitude else magnitude

/-- The nearest integral double; a half goes away from zero, and the sign is kept, also of zero.
A double with no bits below the point is its own answer. -/
def roundHalfAway (x : Float) : Float :=
  match Reading.ofFloat x with
  | .finite negative mantissa (.negSucc e) =>
    signed negative (Float.ofNat (roundDiv mantissa (Nat.pow 2 (e + 1)) .awayFromZero))
  | _ => x

/-- `square ^ n` by repeated squaring, `acc` holding the product of the squares taken so far.
`fuel` bounds the number of binary digits of `n`. -/
def powSquaring : Nat → Float → Float → Nat → Float
  | 0, acc, _, _ => acc
  | fuel + 1, acc, square, n =>
    let acc := if n % 2 = 1 then acc * square else acc
    if n / 2 = 0 then acc else powSquaring fuel acc (square * square) (n / 2)

/-- The power `10 ^ n`, the reciprocal of the positive power when `n` is negative. -/
def powTen (n : Int) : Float :=
  let power := powSquaring 64 1 10 n.natAbs
  if n < 0 then 1 / power else power

/-- A count of places kept in 32 bits, the upper half of the range counting down from zero. -/
def placesOfUInt32 (digits : UInt32) : Int :=
  if digits.toNat < Nat.pow 2 31 then (digits.toNat : Int)
  else (digits.toNat : Int) - Nat.pow 2 32

/-- `x` rounded to a number of decimal places: scale up, round halves away from zero, scale back.
Each of the three steps is one operation on doubles. -/
def toPlaces (x : Float) (digits : UInt32) : Float :=
  let power := powTen (placesOfUInt32 digits)
  roundHalfAway (x * power) / power

end BenchScope.Decimal
