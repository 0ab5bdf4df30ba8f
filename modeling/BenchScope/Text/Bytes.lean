/-!
# Texts as bytes

Text travels as bytes in query strings, addresses and files. `Utf8.encode` writes characters as bytes,
`Utf8.decode?` reads well-formed bytes back, and `Utf8.decodeLossy` reads any bytes, putting the
replacement character for each longest ill-formed piece.

A byte that may not stand in an address is written as `%` and two hexadecimal digits. Reading replaces
the escapes and leaves a `%` without two digits as it is.
-/

namespace BenchScope.Text

/-! ## UTF-8 -/

namespace Utf8

/-- The bytes of a text. -/
def encode (text : List Char) : List UInt8 := text.flatMap String.utf8EncodeChar

/-- The number of bytes of a text. -/
def size (text : List Char) : Nat := text.foldl (fun n c => n + c.utf8Size) 0

/-- What a first byte promises: its share of the code point, the range of the second byte, and the
number of bytes after the second. -/
structure Lead where
  payload : Nat
  low : UInt8
  high : UInt8
  more : Nat

/-- The first bytes of sequences of two, three and four bytes. The narrow ranges of the second byte
keep out overlong forms, surrogates and numbers past the last code point. -/
def lead? (b : UInt8) : Option Lead :=
  if b < 0xC2 then none
  else if b < 0xE0 then some ⟨b.toNat - 0xC0, 0x80, 0xBF, 0⟩
  else if b < 0xF0 then
    some ⟨b.toNat - 0xE0, if b = 0xE0 then 0xA0 else 0x80, if b = 0xED then 0x9F else 0xBF, 1⟩
  else if b < 0xF5 then
    some ⟨b.toNat - 0xF0, if b = 0xF0 then 0x90 else 0x80, if b = 0xF4 then 0x8F else 0xBF, 2⟩
  else none

/-- Whether a byte continues a sequence. -/
def isContinuation (b : UInt8) : Bool := 0x80 ≤ b ∧ b ≤ 0xBF

/-- Takes `count` more continuation bytes into the code point `code`; the rest starts at the first
byte that does not continue. -/
def continuation : Nat → Nat → List UInt8 → Option Nat × List UInt8
  | 0, code, bytes => (some code, bytes)
  | _ + 1, _, [] => (none, [])
  | count + 1, code, b :: bytes =>
    if isContinuation b then continuation count (code * 64 + b.toNat % 64) bytes
    else (none, b :: bytes)

/-- The character that starts with byte `b`, or none for an ill-formed piece, and the bytes after
it. -/
def next (b : UInt8) (bytes : List UInt8) : Option Char × List UInt8 :=
  if b < 0x80 then (some (Char.ofNat b.toNat), bytes)
  else match lead? b, bytes with
    | none, _ => (none, bytes)
    | some _, [] => (none, [])
    | some lead, c :: rest =>
      if lead.low ≤ c ∧ c ≤ lead.high then
        let (code, rest) := continuation lead.more (lead.payload * 64 + c.toNat % 64) rest
        (code.map Char.ofNat, rest)
      else (none, c :: rest)

theorem length_continuation_le (count code : Nat) (bytes : List UInt8) :
    (continuation count code bytes).2.length ≤ bytes.length := by
  fun_induction continuation count code bytes with
  | case1 code bytes => exact Nat.le_refl _
  | case2 => exact Nat.le_refl _
  | case3 count code b bytes hb ih => exact Nat.le_succ_of_le ih
  | case4 count code b bytes hb => exact Nat.le_refl _

theorem length_next_le (b : UInt8) (bytes : List UInt8) :
    (next b bytes).2.length ≤ bytes.length := by
  unfold next
  split
  · exact Nat.le_refl _
  · split
    · exact Nat.le_refl _
    · simp
    · split
      · exact Nat.le_trans (length_continuation_le _ _ _) (by simp)
      · exact Nat.le_refl _

/-- Reads any bytes; each longest ill-formed piece becomes U+FFFD. -/
def decodeLossy : List UInt8 → List Char
  | [] => []
  | b :: bytes =>
    have := length_next_le b bytes
    (next b bytes).1.getD '\uFFFD' :: decodeLossy (next b bytes).2
termination_by bytes => bytes.length

/-- Reads well-formed bytes. -/
def decode? : List UInt8 → Option (List Char)
  | [] => some []
  | b :: bytes =>
    have := length_next_le b bytes
    match (next b bytes).1 with
    | none => none
    | some c => (decode? (next b bytes).2).map (c :: ·)
termination_by bytes => bytes.length

end Utf8

/-! ## Percent escapes -/

namespace Percent

/-- The value of a byte that is a hexadecimal digit. -/
def hexValue? (b : UInt8) : Option UInt8 :=
  if 0x30 ≤ b ∧ b ≤ 0x39 then some (b - 0x30)
  else if 0x41 ≤ b ∧ b ≤ 0x46 then some (b - 0x37)
  else if 0x61 ≤ b ∧ b ≤ 0x66 then some (b - 0x57)
  else none

/-- Bytes with their percent escapes replaced; a `%` without two digits stays. -/
def decode : List UInt8 → List UInt8
  | 0x25 :: a :: b :: rest =>
    match hexValue? a, hexValue? b with
    | some high, some low => (high * 16 + low) :: decode rest
    | _, _ => 0x25 :: decode (a :: b :: rest)
  | b :: rest => b :: decode rest
  | [] => []

/-- The text that a text with percent escapes stands for, if its bytes are well-formed. -/
def decodeText? (text : List Char) : Option (List Char) := Utf8.decode? (decode (Utf8.encode text))

/-- A digit of a percent escape. -/
def upperHexDigit (n : Nat) : Char :=
  if n < 10 then Char.ofNat (0x30 + n) else Char.ofNat (0x37 + n)

/-- A byte as a percent escape. -/
def encodeByte (b : UInt8) : List Char :=
  ['%', upperHexDigit (b.toNat / 16), upperHexDigit (b.toNat % 16)]

/-- A character, as it is unless it belongs to a class of characters to escape. -/
def encodeChar (escaped : Char → Bool) (c : Char) : List Char :=
  if escaped c then (String.utf8EncodeChar c).flatMap encodeByte else [c]

/-- A text with the characters of a class escaped. -/
def encode (escaped : Char → Bool) (text : List Char) : List Char :=
  text.flatMap (encodeChar escaped)

end Percent

end BenchScope.Text
