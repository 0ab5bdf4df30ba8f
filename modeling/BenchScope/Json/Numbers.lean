import BenchScope.Json.Fault

/-!
# Reading numbers

A number without point and exponent that fits 64 bits stays a whole number. Every other number is a
double found in two steps: the digits are gathered into a 64-bit significand as long as they fit, and
the significand is then scaled by one power of ten. The result may differ from the nearest double in
its last place.
-/

namespace BenchScope.Json

/-- The value of a decimal digit. -/
def digitValue (c : Char) : Nat := c.toNat - '0'.toNat

/-- Adds digits to a significand as long as it stays below `2 ^ 64`; the digits from the first that
would not fit are left over. -/
def gather : Nat → List Char → Nat × List Char
  | significand, [] => (significand, [])
  | significand, c :: rest =>
    let next := significand * 10 + digitValue c
    if next < Nat.pow 2 64 then gather next rest else (significand, c :: rest)

/-- The digits of an exponent, added to `exponent`: its value, or none as soon as it passes
`2 ^ 31 - 1`, and the text after the last digit taken. -/
def exponentDigits : Nat → List Char → Option Nat × List Char
  | exponent, c :: rest =>
    if c.isDigit then
      let next := exponent * 10 + digitValue c
      if next < Nat.pow 2 31 then exponentDigits next rest else (none, rest)
    else (some exponent, c :: rest)
  | exponent, [] => (some exponent, [])

/-- `f · 10 ^ exponent` in one multiplication or division by a power of ten no greater than `1e308`;
smaller scales divide by `1e308` repeatedly. None if the result is not finite. -/
def scale (f : Float) (exponent : Int) : Option Float :=
  if exponent.natAbs ≤ 308 then
    if 0 ≤ exponent then
      let product := f * Float.ofScientific 1 false exponent.toNat
      if product.isInf then none else some product
    else some (f / Float.ofScientific 1 false exponent.natAbs)
  else if f == 0 then some f
  else if 0 ≤ exponent then none
  else scale (f / Float.ofScientific 1 false 308) (exponent + 308)
termination_by (-exponent).toNat

/-- A double from its sign, significand and decimal exponent. -/
def assemble (negative : Bool) (significand : Nat) (exponent : Int) (rest : List Char) :
    Except Fault (Json × List Char) :=
  match scale (UInt64.ofNat significand).toFloat exponent with
  | some f => .ok (.real (Decimal.signed negative f), rest)
  | none => consumed .numberOutOfRange rest

/-- What follows the exponent mark. -/
def exponentPart (negative : Bool) (significand : Nat) (start : Int) (text : List Char) :
    Except Fault (Json × List Char) :=
  let (down, text) := match text with
    | '+' :: rest => (false, rest)
    | '-' :: rest => (true, rest)
    | _ => (false, text)
  match text with
  | [] => consumed .endInValue []
  | c :: rest =>
    if c.isDigit then
      match exponentDigits (digitValue c) rest with
      | (some e, rest) =>
        assemble negative significand (if down then start - e else start + e) rest
      | (none, rest) =>
        if significand ≠ 0 ∧ ¬ down then consumed .numberOutOfRange rest
        else .ok (.real (Decimal.signed negative 0), rest.dropWhile Char.isDigit)
    else peeked .invalidNumber text

/-- What follows the digits of a number: an exponent or nothing. -/
def afterDigits (negative : Bool) (significand : Nat) (exponent : Int) (text : List Char) :
    Except Fault (Json × List Char) :=
  match text with
  | 'e' :: rest => exponentPart negative significand exponent rest
  | 'E' :: rest => exponentPart negative significand exponent rest
  | _ => assemble negative significand exponent text

/-- What follows the point. -/
def fractionPart (negative : Bool) (significand : Nat) (exponent : Int) (text : List Char) :
    Except Fault (Json × List Char) :=
  let digits := text.takeWhile Char.isDigit
  let rest := text.dropWhile Char.isDigit
  if digits.isEmpty then
    if rest.isEmpty then peeked .endInValue rest else peeked .invalidNumber rest
  else
    let (significand, dropped) := gather significand digits
    afterDigits negative significand (exponent - (digits.length - dropped.length : Nat)) rest

/-- A whole number that fits 64 bits; one that does not, and negative zero, is a double. -/
def wholeNumber (negative : Bool) (n : Nat) : Json :=
  if negative then
    if 0 < n ∧ n ≤ Nat.pow 2 63 then .integer (-n) else .real (-(UInt64.ofNat n).toFloat)
  else .integer n

/-- A number after its sign. -/
def number (negative : Bool) (text : List Char) : Except Fault (Json × List Char) :=
  match text with
  | [] => consumed .endInValue []
  | c :: tail =>
    if ¬ c.isDigit then peeked .invalidNumber text
    else if c = '0' ∧ (tail.head?.map Char.isDigit).getD false then peeked .invalidNumber tail
    else
      let digits := text.takeWhile Char.isDigit
      let rest := text.dropWhile Char.isDigit
      let (significand, dropped) := gather 0 digits
      match rest with
      | '.' :: rest => fractionPart negative significand dropped.length rest
      | _ =>
        if dropped.isEmpty ∧ rest.head? ≠ some 'e' ∧ rest.head? ≠ some 'E' then
          .ok (wholeNumber negative significand, rest)
        else afterDigits negative significand dropped.length rest

/-- Passes over an exponent. -/
def skipExponent (text : List Char) : Except Fault (List Char) :=
  let text := match text with
    | '+' :: rest => rest
    | '-' :: rest => rest
    | _ => text
  match text with
  | [] => consumed .invalidNumber []
  | c :: rest =>
    if c.isDigit then .ok (rest.dropWhile Char.isDigit) else peeked .invalidNumber text

/-- Passes over what follows the digits of a number. -/
def skipAfterDigits : List Char → Except Fault (List Char)
  | 'e' :: rest => skipExponent rest
  | 'E' :: rest => skipExponent rest
  | rest => .ok rest

/-- Passes over a number after its sign; its size does not matter. -/
def skipNumber (text : List Char) : Except Fault (List Char) :=
  match text with
  | [] => consumed .invalidNumber []
  | c :: tail =>
    if ¬ c.isDigit then peeked .invalidNumber text
    else if c = '0' ∧ (tail.head?.map Char.isDigit).getD false then peeked .invalidNumber tail
    else match text.dropWhile Char.isDigit with
      | '.' :: rest =>
        if (rest.takeWhile Char.isDigit).isEmpty then peeked .invalidNumber rest
        else skipAfterDigits (rest.dropWhile Char.isDigit)
      | rest => skipAfterDigits rest

end BenchScope.Json
