import BenchScope.Decimal.Numeral

/-!
# Quantities for people

Large numbers are shown with a unit letter: the number is divided by the base until it is below the
base or the units run out. The least unit is `k`, so also small numbers are divided once.
-/

namespace BenchScope.Units

/-- What is shown where there is no value. -/
def placeholder : String := "—"

/-- Powers of a thousand or of 1024. -/
inductive Base where
  | decimal
  | binary
  deriving DecidableEq, Repr

/-- The factor between two neighbouring units. -/
def Base.divisor : Base → Float
  | .decimal => 1000
  | .binary => 1024

/-- The least unit. -/
def Base.least : Base → String
  | .decimal => "k"
  | .binary => "ki"

/-- The units above the least one, in order. -/
def Base.larger : Base → List String
  | .decimal => ["M", "G", "T", "P", "E", "Z", "Y"]
  | .binary => ["Mi", "Gi", "Ti", "Pi", "Ei", "Zi", "Yi"]

/-- Divides a value counted in `unit` by the base, moving up a unit each time, as long as it is not
below the base and there is a larger unit. -/
def climb (divisor : Float) (value : Float) (unit : String) : List String → Float × String
  | [] => (value, unit)
  | next :: larger =>
    if divisor ≤ value then climb divisor (value / divisor) next larger else (value, unit)

/-- A quantity with the unit it is shown in. -/
def inUnits (size : Float) (base : Base) : Float × String :=
  climb base.divisor (size / base.divisor) base.least base.larger

/-- A quantity with a unit letter and a stated number of places. -/
def humanReadable (size : Float) (base : Base) (places : Nat) : String :=
  let (value, unit) := inUnits size base
  Decimal.fixed value places ++ unit

/-- A number with the fewest digits; both zeros are `0`. -/
def displayNumber (x : Float) : String := if x == 0 then "0" else Decimal.display x

/-- A number that is present and finite through `render`; else the placeholder. -/
def displayOrPlaceholder (x : Option Float) (render : Float → String) : String :=
  match x with
  | some x => if x.isFinite then render x else placeholder
  | none => placeholder

end BenchScope.Units
