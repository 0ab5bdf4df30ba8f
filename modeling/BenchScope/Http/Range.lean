import BenchScope.Decimal.Reading
import BenchScope.Text.Characters

/-!
# Ranges

A request may ask for parts of a file: `bytes=` with ranges `first-last`, `first-` or `-count` between
commas. Positions count from zero and both ends belong to the range. A header is only served if every
range in it can be served and no two of them overlap.
-/

namespace BenchScope.Http

/-- A part of a file as it is asked for. -/
inductive Range where
  | between (first last : Nat)
  | startingAt (first : Nat)
  | ending (count : Nat)
  deriving DecidableEq, Repr

namespace Range

/-! ## Reading a header -/

/-- A number without a sign and without needless zeros, of at most 64 bits. -/
def number? (text : List Char) : Option Nat :=
  if text.isEmpty ∨ ¬ text.all Char.isDigit ∨ (1 < text.length ∧ text.head? = some '0') then none
  else
    let number := Decimal.natOfDigits text
    if number < Nat.pow 2 64 then some number else none

/-- One range. -/
def ofText? (text : List Char) : Option Range :=
  let first := text.takeWhile (· ≠ '-')
  match text.dropWhile (· ≠ '-') with
  | [] => none
  | _ :: last =>
    if first.isEmpty then (number? last).bind fun n => if n = 0 then none else some (.ending n)
    else if last.isEmpty then (number? first).map .startingAt
    else do return .between (← number? first) (← number? last)

/-- The pieces of a text between commas. -/
def pieces : List Char → List (List Char)
  | [] => [[]]
  | c :: rest =>
    match pieces rest with
    | [] => [[c]]
    | piece :: more => if c = ',' then [] :: piece :: more else (c :: piece) :: more

/-- A piece without the blank in front of it; none if it ends in a blank or has more than one. -/
def withoutBlank? (piece : List Char) : Option (List Char) :=
  if piece.getLast?.any Text.isBlank ∨ 1 < piece.countP Text.isBlank then none
  else some (piece.dropWhile Text.isBlank)

/-- The ranges of a header; none if it cannot be read. -/
def ofHeader? (value : String) : Option (List Range) :=
  let mark := "bytes=".toList
  if mark.isPrefixOf value.toList then
    (pieces (value.toList.drop mark.length)).mapM fun piece => (withoutBlank? piece).bind ofText?
  else none

/-! ## Ranges of a file -/

/-- How far a range would reach in a file of a given size. The last position of an empty file is the
first one. -/
def reach? (size : Nat) : Range → Option (Nat × Nat)
  | .between first last => some (first, min last (size - 1))
  | .startingAt first => some (first, size - 1)
  | .ending count => if count ≤ size then some (size - count, size - 1) else none

/-- The first and the last position of a range in a file of a given size; none if nothing of the file is
in it. -/
def ends? (size : Nat) (range : Range) : Option (Nat × Nat) :=
  (reach? size range).filter fun ends => ends.1 ≤ ends.2

/-- Whether two stretches have a position in common. -/
def overlaps (a b : Nat × Nat) : Bool := a.1 ≤ b.2 && b.1 ≤ a.2

/-- The stretches of a file of a given size that a header asks for; none if it cannot be served. -/
def select? (value : String) (size : Nat) : Option (List (Nat × Nat)) :=
  ((ofHeader? value).bind (·.mapM (ends? size))).filter fun stretches =>
    decide (stretches.Pairwise fun a b => overlaps a b = false)

end Range

end BenchScope.Http
