import BenchScope.Decimal.Binary64

/-!
# The fewest digits that read back

Every double owns the interval of reals that round to it. The shortest decimal of the double is the
point of the coarsest decimal grid that meets this interval, and of two such points the one nearer
to the double. Where both are equally near, the printers of decimals differ, so the caller says which
one is meant.
-/

namespace BenchScope.Decimal

/-- The positive decimal `digits · 10 ^ exponent`. -/
structure Scientific where
  digits : Nat
  exponent : Int
  deriving DecidableEq, Repr

/-- The interval of reals that round to `mantissa · 2 ^ exponent`, in quarters of the last binary
place: its two ends, and whether they belong to it. -/
structure Rounding where
  low : Nat
  high : Nat
  closed : Bool

/-- Halfway to the neighbouring doubles. Below a power of two the lower neighbour is half as far. -/
def Rounding.around (mantissa : Nat) (exponent : Int) : Rounding where
  low := if mantissa = Nat.pow 2 52 ∧ -1074 < exponent then 4 * mantissa - 1 else 4 * mantissa - 2
  high := 4 * mantissa + 2
  closed := mantissa % 2 = 0

/-- Whether a value, in the same unit as the ends scaled by `unit`, lies in the interval. -/
def Rounding.contains (r : Rounding) (unit value : Nat) : Bool :=
  if r.closed then r.low * unit ≤ value ∧ value ≤ r.high * unit
  else r.low * unit < value ∧ value < r.high * unit

/-- The point of the grid of multiples of `10 ^ place` that rounds to `mantissa · 2 ^ exponent`, if
there is one; the nearer one if both neighbours do. -/
def onGrid? (tie : Tie) (mantissa : Nat) (exponent place : Int) : Option Scientific :=
  let unit := Nat.pow 2 (exponent - 2).toNat * Nat.pow 10 (-place).toNat
  let step := Nat.pow 2 (2 - exponent).toNat * Nat.pow 10 place.toNat
  let interval := Rounding.around mantissa exponent
  let value := 4 * mantissa * unit
  let below := value / step
  let above := below + 1
  let hitsBelow := 0 < below ∧ interval.contains unit (below * step)
  let hitsAbove := interval.contains unit (above * step)
  if hitsBelow ∧ hitsAbove then some ⟨roundDiv value step tie, place⟩
  else if hitsBelow then some ⟨below, place⟩
  else if hitsAbove then some ⟨above, place⟩
  else none

/-- All digits of `mantissa · 2 ^ exponent`. -/
def allDigits (mantissa : Nat) (exponent : Int) : Scientific :=
  if 0 ≤ exponent then ⟨mantissa * Nat.pow 2 exponent.toNat, 0⟩
  else ⟨mantissa * Nat.pow 5 (-exponent).toNat, exponent⟩

/-- A decimal place above the leading digit of `mantissa · 2 ^ exponent`. -/
def topPlace (mantissa : Nat) (exponent : Int) : Int :=
  Int.fdiv ((mantissa.log2 + exponent + 1) * 30103) 100000 + 1

/-- The shortest decimal that reads back as `mantissa · 2 ^ exponent`: the coarsest grid with a
point in the interval wins. -/
def shortest (tie : Tie) (mantissa : Nat) (exponent : Int) : Scientific :=
  let top := topPlace mantissa exponent
  let places := (List.range 24).map fun (i : Nat) => top - (i : Int)
  (places.findSome? (onGrid? tie mantissa exponent)).getD (allDigits mantissa exponent)

end BenchScope.Decimal
