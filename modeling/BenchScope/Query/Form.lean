import BenchScope.Text.Bytes

/-!
# Form encoding

Pairs of names and values in a query string: `name=value` pieces joined by `&`. Writing keeps ASCII
letters, digits and `*-._`, turns a space into `+` and every other byte into `%` and two digits.
Reading turns `+` into a space first and percent escapes second, leaves malformed escapes as they are,
and puts the replacement character where the bytes are not UTF-8.
-/

namespace BenchScope.Query.Form

/-- Bytes that are written as they are. -/
def isPlain (b : UInt8) : Bool :=
  (0x30 ≤ b && b ≤ 0x39) || (0x41 ≤ b && b ≤ 0x5A) || (0x61 ≤ b && b ≤ 0x7A) ||
    b == 0x2A || b == 0x2D || b == 0x2E || b == 0x5F

/-- One byte of a name or value. -/
def encodeByte (b : UInt8) : List Char :=
  if isPlain b then [Char.ofNat b.toNat]
  else if b = 0x20 then ['+']
  else Text.Percent.encodeByte b

/-- A name or value as it stands in a query string. -/
def encode (text : String) : List Char := (Text.Utf8.encode text.toList).flatMap encodeByte

/-- A name or value read from a query string. -/
def decode (bytes : List UInt8) : String :=
  let spaced := bytes.map fun b => if b = 0x2B then 0x20 else b
  String.ofList (Text.Utf8.decodeLossy (Text.Percent.decode spaced))

/-- A piece split at its first `=`; a piece without one is a name with an empty value. -/
def splitPair (piece : List UInt8) : String × String :=
  (decode (piece.takeWhile (· ≠ 0x3D)), decode ((piece.dropWhile (· ≠ 0x3D)).drop 1))

/-- The pieces of bytes between separators. -/
def pieces (separator : UInt8) : List UInt8 → List (List UInt8)
  | [] => [[]]
  | b :: rest =>
    match pieces separator rest with
    | [] => [[b]]
    | piece :: more => if b = separator then [] :: piece :: more else (b :: piece) :: more

/-- The pairs of a query string, in order; empty pieces hold none. -/
def parse (query : List Char) : List (String × String) :=
  ((pieces 0x26 (Text.Utf8.encode query)).filter (!·.isEmpty)).map splitPair

/-- The query string of a list of pairs. -/
def write (pairs : List (String × String)) : String :=
  String.ofList (List.intercalate ['&'] (pairs.map fun p => encode p.1 ++ '=' :: encode p.2))

end BenchScope.Query.Form
