import BenchScope.Query.Params
import BenchScope.Proofs.Entries

/-!
# Encodings that read back

A text that is written as bytes, as percent escapes or as a form is read back as it was. Each statement
leaves room for what follows in the input, so that they build on each other: characters are read back
from their bytes, bytes from their escapes, names and values from a form, and the pairs of a form from
its pieces.
-/

namespace BenchScope.Text.Utf8

/-! ## UTF-8 -/

theorem toNat_ofNat_byte {n : Nat} (h : n < 256) : (UInt8.ofNat n).toNat = n := by
  rw [UInt8.toNat_ofNat']
  omega

/-- A byte built from a number compares like the number. -/
theorem ofNat_lt_iff {n : Nat} (h : n < 256) (b : UInt8) : UInt8.ofNat n < b ↔ n < b.toNat := by
  rw [UInt8.lt_iff_toNat_lt, toNat_ofNat_byte h]

theorem le_ofNat_iff {n : Nat} (h : n < 256) (b : UInt8) : b ≤ UInt8.ofNat n ↔ b.toNat ≤ n := by
  rw [UInt8.le_iff_toNat_le, toNat_ofNat_byte h]

theorem ofNat_le_iff {n : Nat} (h : n < 256) (b : UInt8) : UInt8.ofNat n ≤ b ↔ n ≤ b.toNat := by
  rw [UInt8.le_iff_toNat_le, toNat_ofNat_byte h]

theorem ofNat_eq_iff {n : Nat} (h : n < 256) (b : UInt8) : UInt8.ofNat n = b ↔ n = b.toNat := by
  rw [← UInt8.toNat_inj, toNat_ofNat_byte h]

/-- A continuation byte adds six bits. -/
theorem continuation_succ (count code : Nat) {x : Nat} (hx : x < 64) (rest : List UInt8) :
    continuation (count + 1) code (UInt8.ofNat (x + 128) :: rest) =
      continuation count (code * 64 + x) rest := by
  have hcontinues : isContinuation (UInt8.ofNat (x + 128)) = true := by
    have hlow : (0x80 : UInt8) ≤ UInt8.ofNat (x + 128) :=
      (le_ofNat_iff (by omega) _).2 (by simp)
    have hhigh : UInt8.ofNat (x + 128) ≤ 0xBF :=
      (ofNat_le_iff (by omega) _).2 (by simp; omega)
    exact decide_eq_true ⟨hlow, hhigh⟩
  have hbits : (UInt8.ofNat (x + 128)).toNat % 64 = x := by
    rw [toNat_ofNat_byte (by omega)]
    omega
  rw [continuation, if_pos hcontinues, hbits]

/-- A first byte, and a second one in its range, take the bytes that the first one promises. -/
theorem next_lead {b : UInt8} {lead : Lead} {x : Nat} (hb : ¬ b < 0x80) (hlead : lead? b = some lead)
    (hx : x < 64) (hlow : lead.low.toNat ≤ x + 128) (hhigh : x + 128 ≤ lead.high.toNat)
    (rest : List UInt8) :
    next b (UInt8.ofNat (x + 128) :: rest) =
      let read := continuation lead.more (lead.payload * 64 + x) rest
      (read.1.map Char.ofNat, read.2) := by
  have hrange : lead.low ≤ UInt8.ofNat (x + 128) ∧ UInt8.ofNat (x + 128) ≤ lead.high :=
    ⟨(le_ofNat_iff (by omega) _).2 hlow, (ofNat_le_iff (by omega) _).2 hhigh⟩
  have hbits : (UInt8.ofNat (x + 128)).toNat % 64 = x := by
    rw [toNat_ofNat_byte (by omega)]
    omega
  unfold next
  rw [if_neg hb, hlead]
  dsimp only
  rw [if_pos hrange, hbits]

theorem lead?_two {n : Nat} (hlow : 2 ≤ n) (hhigh : n < 32) :
    lead? (UInt8.ofNat (n + 192)) = some ⟨n, 0x80, 0xBF, 0⟩ := by
  have hbyte : n + 192 < 256 := by omega
  rw [lead?, if_neg (by rw [ofNat_lt_iff hbyte]; simp; omega),
    if_pos (by rw [ofNat_lt_iff hbyte]; simp; omega), toNat_ofNat_byte hbyte]
  simp

theorem lead?_three {n : Nat} (h : n < 16) :
    lead? (UInt8.ofNat (n + 224)) =
      some ⟨n, if n = 0 then 0xA0 else 0x80, if n = 13 then 0x9F else 0xBF, 1⟩ := by
  have hbyte : n + 224 < 256 := by omega
  have hfirst : UInt8.ofNat (n + 224) = 0xE0 ↔ n = 0 := by
    rw [ofNat_eq_iff hbyte]
    simp
  have hlast : UInt8.ofNat (n + 224) = 0xED ↔ n = 13 := by
    rw [ofNat_eq_iff hbyte]
    simp
  rw [lead?, if_neg (by rw [ofNat_lt_iff hbyte]; simp),
    if_neg (by rw [ofNat_lt_iff hbyte]; simp), if_pos (by rw [ofNat_lt_iff hbyte]; simp; omega),
    toNat_ofNat_byte hbyte]
  simp only [hfirst, hlast, Nat.add_sub_cancel]

theorem lead?_four {n : Nat} (h : n < 5) :
    lead? (UInt8.ofNat (n + 240)) =
      some ⟨n, if n = 0 then 0x90 else 0x80, if n = 4 then 0x8F else 0xBF, 2⟩ := by
  have hbyte : n + 240 < 256 := by omega
  have hfirst : UInt8.ofNat (n + 240) = 0xF0 ↔ n = 0 := by
    rw [ofNat_eq_iff hbyte]
    simp
  have hlast : UInt8.ofNat (n + 240) = 0xF4 ↔ n = 4 := by
    rw [ofNat_eq_iff hbyte]
    simp
  rw [lead?, if_neg (by rw [ofNat_lt_iff hbyte]; simp),
    if_neg (by rw [ofNat_lt_iff hbyte]; simp), if_neg (by rw [ofNat_lt_iff hbyte]; simp),
    if_pos (by rw [ofNat_lt_iff hbyte]; simp; omega), toNat_ofNat_byte hbyte]
  simp only [hfirst, hlast, Nat.add_sub_cancel]

/-- A single byte stands for itself. -/
theorem next_one {v : Nat} (h : v < 128) (rest : List UInt8) :
    next (UInt8.ofNat v) rest = (some (Char.ofNat v), rest) := by
  unfold next
  rw [if_pos ((ofNat_lt_iff (by omega) _).2 (by simp; omega)), toNat_ofNat_byte (by omega)]

/-- Two bytes carry five and six bits. -/
theorem next_two {a x : Nat} (hlow : 2 ≤ a) (ha : a < 32) (hx : x < 64) (rest : List UInt8) :
    next (UInt8.ofNat (a + 192)) (UInt8.ofNat (x + 128) :: rest) =
      (some (Char.ofNat (a * 64 + x)), rest) := by
  rw [next_lead (by rw [ofNat_lt_iff (by omega)]; simp) (lead?_two hlow ha) hx (by simp)
    (by simp; omega)]
  simp only [continuation, Option.map_some]

/-- Three bytes carry four bits and twice six; overlong forms and surrogates are what the narrow ranges
of the second byte keep out. -/
theorem next_three {a x y : Nat} (ha : a < 16) (hx : x < 64) (hy : y < 64) (hlow : a = 0 → 32 ≤ x)
    (hhigh : a = 13 → x < 32) (rest : List UInt8) :
    next (UInt8.ofNat (a + 224)) (UInt8.ofNat (x + 128) :: UInt8.ofNat (y + 128) :: rest) =
      (some (Char.ofNat ((a * 64 + x) * 64 + y)), rest) := by
  have hleast : (if a = 0 then (0xA0 : UInt8) else 0x80).toNat ≤ x + 128 := by
    split
    · simp
      omega
    · simp
  have hgreatest : x + 128 ≤ (if a = 13 then (0x9F : UInt8) else 0xBF).toNat := by
    split
    · simp
      omega
    · simp
      omega
  rw [next_lead (by rw [ofNat_lt_iff (by omega)]; simp) (lead?_three ha) hx hleast hgreatest]
  dsimp only
  rw [continuation_succ 0 _ hy]
  simp only [continuation, Option.map_some]

/-- Four bytes carry three bits and three times six; the second byte keeps out overlong forms and numbers
behind the last character. -/
theorem next_four {a x y z : Nat} (ha : a < 5) (hx : x < 64) (hy : y < 64) (hz : z < 64)
    (hlow : a = 0 → 16 ≤ x) (hhigh : a = 4 → x < 16) (rest : List UInt8) :
    next (UInt8.ofNat (a + 240))
        (UInt8.ofNat (x + 128) :: UInt8.ofNat (y + 128) :: UInt8.ofNat (z + 128) :: rest) =
      (some (Char.ofNat (((a * 64 + x) * 64 + y) * 64 + z)), rest) := by
  have hleast : (if a = 0 then (0x90 : UInt8) else 0x80).toNat ≤ x + 128 := by
    split
    · simp
      omega
    · simp
  have hgreatest : x + 128 ≤ (if a = 4 then (0x8F : UInt8) else 0xBF).toNat := by
    split
    · simp
      omega
    · simp
      omega
  rw [next_lead (by rw [ofNat_lt_iff (by omega)]; simp) (lead?_four ha) hx hleast hgreatest]
  dsimp only
  rw [continuation_succ 1 _ hy, continuation_succ 0 _ hz]
  simp only [continuation, Option.map_some]

/-- The bytes of a character read back as the character, whatever follows. -/
theorem next_utf8EncodeChar (c : Char) : ∃ b bytes, String.utf8EncodeChar c = b :: bytes ∧
    ∀ rest, next b (bytes ++ rest) = (some c, rest) := by
  have hvalid : c.val.toNat < 55296 ∨ 57343 < c.val.toNat ∧ c.val.toNat < 1114112 := c.valid
  have hchar : Char.ofNat c.val.toNat = c := Char.ofNat_toNat c
  unfold String.utf8EncodeChar
  generalize c.val.toNat = v at hvalid hchar
  dsimp only
  by_cases h₁ : v ≤ 127
  · rw [if_pos h₁]
    refine ⟨_, _, rfl, fun rest => ?_⟩
    rw [List.nil_append, next_one (by omega), hchar]
  rw [if_neg h₁]
  by_cases h₂ : v ≤ 2047
  · rw [if_pos h₂]
    refine ⟨_, _, rfl, fun rest => ?_⟩
    have hcode : v / 64 % 32 * 64 + v % 64 = v := by omega
    simp only [List.cons_append, List.nil_append]
    rw [next_two (by omega) (by omega) (by omega), hcode, hchar]
  rw [if_neg h₂]
  by_cases h₃ : v ≤ 65535
  · rw [if_pos h₃]
    refine ⟨_, _, rfl, fun rest => ?_⟩
    have hcode : (v / 4096 % 16 * 64 + v / 64 % 64) * 64 + v % 64 = v := by omega
    simp only [List.cons_append, List.nil_append]
    rw [next_three (by omega) (by omega) (by omega) (by omega) (by omega), hcode, hchar]
  · rw [if_neg h₃]
    refine ⟨_, _, rfl, fun rest => ?_⟩
    have hcode : ((v / 262144 % 8 * 64 + v / 4096 % 64) * 64 + v / 64 % 64) * 64 + v % 64 = v := by
      omega
    simp only [List.cons_append, List.nil_append]
    rw [next_four (by omega) (by omega) (by omega) (by omega) (by omega) (by omega), hcode, hchar]

theorem encode_cons (c : Char) (text : List Char) :
    encode (c :: text) = String.utf8EncodeChar c ++ encode text := List.flatMap_cons

theorem encode_append (first second : List Char) :
    encode (first ++ second) = encode first ++ encode second := List.flatMap_append

/-- Bytes of a text read back as the text. -/
theorem decodeLossy_encode (text : List Char) : decodeLossy (encode text) = text := by
  induction text with
  | nil => rw [encode, List.flatMap_nil, decodeLossy]
  | cons c rest ih =>
    obtain ⟨b, bytes, hbytes, hnext⟩ := next_utf8EncodeChar c
    rw [encode_cons, hbytes, List.cons_append, decodeLossy, hnext, ih]
    rfl

theorem decode?_encode (text : List Char) : decode? (encode text) = some text := by
  induction text with
  | nil => rw [encode, List.flatMap_nil, decode?]
  | cons c rest ih =>
    obtain ⟨b, bytes, hbytes, hnext⟩ := next_utf8EncodeChar c
    rw [encode_cons, hbytes, List.cons_append, decode?, hnext, ih]
    rfl

end BenchScope.Text.Utf8

namespace BenchScope.Text

open Utf8

/-! ## Percent escapes -/

namespace Percent

/-- The byte of a digit of an escape. -/
def digitByte (n : Nat) : UInt8 := UInt8.ofNat (upperHexDigit n).toNat

/-- A digit of an escape is one byte that reads back as the digit, and no sign of a form. -/
theorem digit_spec {n : Nat} (h : n < 16) :
    String.utf8EncodeChar (upperHexDigit n) = [digitByte n] ∧
      hexValue? (digitByte n) = some (UInt8.ofNat n) ∧
      digitByte n ∉ ([0x2B, 0x26, 0x3D] : List UInt8) ∧ upperHexDigit n ≠ '?' := by
  have hall : ∀ n < 16, String.utf8EncodeChar (upperHexDigit n) = [digitByte n] ∧
      hexValue? (digitByte n) = some (UInt8.ofNat n) ∧
      digitByte n ∉ ([0x2B, 0x26, 0x3D] : List UInt8) ∧ upperHexDigit n ≠ '?' := by
    decide +kernel
  exact hall n h

theorem encode_encodeByte (b : UInt8) :
    Utf8.encode (encodeByte b) = [0x25, digitByte (b.toNat / 16), digitByte (b.toNat % 16)] := by
  have hb := b.toNat_lt
  have hhigh := (digit_spec (n := b.toNat / 16) (by omega)).1
  have hlow := (digit_spec (n := b.toNat % 16) (by omega)).1
  have hsign : String.utf8EncodeChar '%' = [0x25] := by decide
  rw [encodeByte, encode_cons, encode_cons, encode_cons, hhigh, hlow, hsign]
  rfl

/-- A byte that starts no escape stays. -/
theorem decode_cons_of_ne {b : UInt8} (h : b ≠ 0x25) (rest : List UInt8) :
    decode (b :: rest) = b :: decode rest := by
  rw [decode]
  intro first second tail hb
  exact absurd hb h

/-- An escape reads back as its byte, whatever follows. -/
theorem decode_escape (b : UInt8) (rest : List UInt8) :
    decode (0x25 :: digitByte (b.toNat / 16) :: digitByte (b.toNat % 16) :: rest) =
      b :: decode rest := by
  have hb := b.toNat_lt
  have hhigh := (digit_spec (n := b.toNat / 16) (by omega)).2.1
  have hlow := (digit_spec (n := b.toNat % 16) (by omega)).2.1
  have hbyte : UInt8.ofNat (b.toNat / 16) * 16 + UInt8.ofNat (b.toNat % 16) = b := by
    apply UInt8.toNat_inj.1
    rw [UInt8.toNat_add, UInt8.toNat_mul, toNat_ofNat_byte (by omega), toNat_ofNat_byte (by omega)]
    simp
    omega
  rw [decode, hhigh, hlow]
  dsimp only
  rw [hbyte]

/-- A text whose bytes are all escaped reads back as the text. -/
theorem decodeText?_escaped (text : List Char) :
    decodeText? ((Utf8.encode text).flatMap encodeByte) = some text := by
  have hbytes : ∀ bytes : List UInt8, decode (Utf8.encode (bytes.flatMap encodeByte)) = bytes := by
    intro bytes
    induction bytes with
    | nil => rfl
    | cons b rest ih =>
      rw [List.flatMap_cons, encode_append, encode_encodeByte, List.cons_append, List.cons_append, List.cons_append, List.nil_append,
        decode_escape, ih]
  rw [decodeText?, hbytes, decode?_encode]

end Percent

end BenchScope.Text

namespace BenchScope.Query.Form

open Text Text.Utf8

/-! ## Forms -/

/-- A plus sign stands for a space. -/
def spaced (b : UInt8) : UInt8 := if b = 0x2B then 0x20 else b

/-- What is known of a byte that is written as it is: it is one character, and no sign of a form. -/
theorem isPlain_bounds {b : UInt8} (h : isPlain b = true) :
    String.utf8EncodeChar (Char.ofNat b.toNat) = [b] ∧ Char.ofNat b.toNat ≠ '?' ∧
      b ∉ ([0x2B, 0x25, 0x26, 0x3D] : List UInt8) := by
  have hall : ∀ n < 256, isPlain (UInt8.ofNat n) = true →
      String.utf8EncodeChar (Char.ofNat n) = [UInt8.ofNat n] ∧ Char.ofNat n ≠ '?' ∧
        UInt8.ofNat n ∉ ([0x2B, 0x25, 0x26, 0x3D] : List UInt8) := by
    decide +kernel
  have hb := hall b.toNat b.toNat_lt
  rw [UInt8.ofNat_toNat] at hb
  exact hb h

/-- The bytes of a byte that is written in a form: itself, a plus sign, or an escape. -/
theorem encode_encodeByte_cases (b : UInt8) :
    (isPlain b = true ∧ Utf8.encode (encodeByte b) = [b]) ∨
      (b = 0x20 ∧ Utf8.encode (encodeByte b) = [0x2B]) ∨
      Utf8.encode (encodeByte b) =
        [0x25, Percent.digitByte (b.toNat / 16), Percent.digitByte (b.toNat % 16)] := by
  by_cases hplain : isPlain b = true
  · refine Or.inl ⟨hplain, ?_⟩
    rw [encodeByte, if_pos hplain, encode_cons, (isPlain_bounds hplain).1]
    rfl
  · by_cases hspace : b = 0x20
    · refine Or.inr (Or.inl ⟨hspace, ?_⟩)
      rw [hspace]
      decide +kernel
    · refine Or.inr (Or.inr ?_)
      rw [encodeByte, if_neg hplain, if_neg hspace, Percent.encode_encodeByte]

/-- A byte of a form reads back as the byte, whatever follows. -/
theorem decode_spaced_encodeByte (b : UInt8) (rest : List UInt8) :
    Percent.decode ((Utf8.encode (encodeByte b)).map spaced ++ rest) = b :: Percent.decode rest := by
  rcases encode_encodeByte_cases b with ⟨hplain, hbytes⟩ | ⟨rfl, hbytes⟩ | hbytes
  · have hsigns := (isPlain_bounds hplain).2.2
    simp only [List.mem_cons, not_or] at hsigns
    rw [hbytes, List.map_singleton, List.singleton_append, spaced, if_neg hsigns.1,
      Percent.decode_cons_of_ne hsigns.2.1]
  · rw [hbytes, List.map_singleton, List.singleton_append, spaced, if_pos rfl,
      Percent.decode_cons_of_ne (by decide)]
  · have hb := b.toNat_lt
    have hhigh := (Percent.digit_spec (n := b.toNat / 16) (by omega)).2.2.1
    have hlow := (Percent.digit_spec (n := b.toNat % 16) (by omega)).2.2.1
    simp only [List.mem_cons, not_or] at hhigh hlow
    rw [hbytes, List.map_cons, List.map_cons, List.map_singleton, spaced, if_neg (by decide), spaced,
      if_neg hhigh.1, spaced, if_neg hlow.1]
    exact Percent.decode_escape b rest

/-- A name or value reads back as it was. -/
theorem decode_encode (text : String) : decode (Utf8.encode (encode text)) = text := by
  have hbytes : ∀ bytes : List UInt8,
      Percent.decode ((Utf8.encode (bytes.flatMap encodeByte)).map spaced) = bytes := by
    intro bytes
    induction bytes with
    | nil => rfl
    | cons b rest ih =>
      rw [List.flatMap_cons, encode_append, List.map_append, decode_spaced_encodeByte, ih]
  have hspaced : (fun b : UInt8 => if b = 0x2B then 0x20 else b) = spaced := rfl
  rw [decode, encode, hspaced, hbytes, decodeLossy_encode, String.ofList_toList]

/-- No sign that parts a form occurs in an encoded name or value. -/
theorem separator_not_mem_encode (text : String) :
    (0x26 : UInt8) ∉ Utf8.encode (encode text) ∧ (0x3D : UInt8) ∉ Utf8.encode (encode text) := by
  have hbytes : ∀ bytes : List UInt8, (0x26 : UInt8) ∉ Utf8.encode (bytes.flatMap encodeByte) ∧
      (0x3D : UInt8) ∉ Utf8.encode (bytes.flatMap encodeByte) := by
    intro bytes
    induction bytes with
    | nil => simp [Utf8.encode]
    | cons b rest ih =>
      rw [List.flatMap_cons, encode_append, List.mem_append, List.mem_append, not_or, not_or]
      have hb : (0x26 : UInt8) ∉ Utf8.encode (encodeByte b) ∧
          (0x3D : UInt8) ∉ Utf8.encode (encodeByte b) := by
        rcases encode_encodeByte_cases b with ⟨hplain, hbytes⟩ | ⟨-, hbytes⟩ | hbytes
        · have hsigns := (isPlain_bounds hplain).2.2
          simp only [List.mem_cons, not_or] at hsigns
          rw [hbytes]
          simp [Ne.symm hsigns.2.2.1, Ne.symm hsigns.2.2.2.1]
        · rw [hbytes]
          decide
        · have hlt := b.toNat_lt
          have hhigh := (Percent.digit_spec (n := b.toNat / 16) (by omega)).2.2.1
          have hlow := (Percent.digit_spec (n := b.toNat % 16) (by omega)).2.2.1
          simp only [List.mem_cons, not_or] at hhigh hlow
          rw [hbytes]
          simp [Ne.symm hhigh.2.1, Ne.symm hhigh.2.2.1, Ne.symm hlow.2.1, Ne.symm hlow.2.2.1]
      exact ⟨⟨hb.1, ih.1⟩, hb.2, ih.2⟩
  exact hbytes _

/-- The mark in front of a query does not occur in an encoded name or value. -/
theorem mark_not_mem_encode (text : String) : '?' ∉ encode text := by
  rw [encode, List.mem_flatMap]
  rintro ⟨b, -, hmem⟩
  rw [encodeByte] at hmem
  split at hmem
  · rename_i hplain
    rw [List.mem_singleton] at hmem
    exact (isPlain_bounds hplain).2.1 hmem.symm
  · split at hmem
    · simp at hmem
    · have hlt := b.toNat_lt
      have hhigh := (Percent.digit_spec (n := b.toNat / 16) (by omega)).2.2.2
      have hlow := (Percent.digit_spec (n := b.toNat % 16) (by omega)).2.2.2
      simp [Percent.encodeByte, Ne.symm hhigh, Ne.symm hlow] at hmem

/-! ## Pieces -/

theorem pieces_ne_nil (separator : UInt8) (bytes : List UInt8) : pieces separator bytes ≠ [] := by
  cases bytes with
  | nil => simp [pieces]
  | cons b rest =>
    rw [pieces]
    split
    · simp
    · split <;> simp

/-- Bytes without a separator are one piece. -/
theorem pieces_of_not_mem {separator : UInt8} {bytes : List UInt8} (h : separator ∉ bytes) :
    pieces separator bytes = [bytes] := by
  induction bytes with
  | nil => rfl
  | cons b rest ih =>
    rw [List.mem_cons, not_or] at h
    rw [pieces, ih h.2]
    exact if_neg (Ne.symm h.1)

/-- Bytes up to a separator are the first piece. -/
theorem pieces_append {separator : UInt8} {bytes : List UInt8} (h : separator ∉ bytes)
    (rest : List UInt8) :
    pieces separator (bytes ++ separator :: rest) = bytes :: pieces separator rest := by
  induction bytes with
  | nil =>
    rw [List.nil_append, pieces]
    split
    · rename_i hnil
      exact absurd hnil (pieces_ne_nil separator rest)
    · rename_i piece more hpieces
      rw [if_pos rfl, hpieces]
  | cons b bytes ih =>
    rw [List.mem_cons, not_or] at h
    rw [List.cons_append, pieces, ih h.2]
    exact if_neg (Ne.symm h.1)

/-- A written pair as bytes. -/
theorem encode_pair (pair : String × String) :
    Utf8.encode (encode pair.1 ++ '=' :: encode pair.2) =
      Utf8.encode (encode pair.1) ++ 0x3D :: Utf8.encode (encode pair.2) := by
  have hsign : String.utf8EncodeChar '=' = [0x3D] := by decide
  rw [encode_append, encode_cons, hsign]
  rfl

/-- A written pair reads back as it was. -/
theorem splitPair_encode (pair : String × String) :
    splitPair (Utf8.encode (encode pair.1 ++ '=' :: encode pair.2)) = pair := by
  have hname : ∀ b ∈ Utf8.encode (encode pair.1), decide (b ≠ (0x3D : UInt8)) = true := by
    intro b hb
    exact decide_eq_true fun heq => (separator_not_mem_encode pair.1).2 (heq ▸ hb)
  rw [encode_pair, splitPair, List.takeWhile_append_of_pos hname, List.dropWhile_append_of_pos hname]
  simp [decode_encode]

/-- Written pairs read back as they were. -/
theorem parse_write (pairs : List (String × String)) : parse (write pairs).toList = pairs := by
  -- a written pair holds no separator and is not empty
  have hpiece : ∀ pair : String × String,
      (0x26 : UInt8) ∉ Utf8.encode (encode pair.1 ++ '=' :: encode pair.2) := by
    intro pair
    rw [encode_pair, List.mem_append, List.mem_cons]
    have hname := (separator_not_mem_encode pair.1).1
    have hvalue := (separator_not_mem_encode pair.2).1
    simp [hname, hvalue]
  have hfull : ∀ pair : String × String,
      (Utf8.encode (encode pair.1 ++ '=' :: encode pair.2)).isEmpty = false := by
    intro pair
    rw [encode_pair]
    simp
  have hsign : String.utf8EncodeChar '&' = [0x26] := by decide
  rw [write, String.toList_ofList, parse]
  induction pairs with
  | nil => rfl
  | cons pair rest ih =>
    cases rest with
    | nil =>
      rw [List.map_singleton, List.intercalate_singleton, pieces_of_not_mem (hpiece pair)]
      simp [hfull, splitPair_encode]
    | cons second rest =>
      rw [List.map_cons, List.map_cons, List.intercalate_cons_cons, List.append_assoc, encode_append,
        List.singleton_append, encode_cons, hsign, List.singleton_append,
        pieces_append (hpiece pair), List.filter_cons_of_pos (by simp [hfull]), List.map_cons,
        splitPair_encode]
      rw [List.map_cons] at ih
      rw [ih]

end BenchScope.Query.Form

namespace BenchScope.Query

/-- A written query has no mark in front. -/
theorem withoutMark_write (pairs : List (String × String)) :
    withoutMark (Form.write pairs).toList = (Form.write pairs).toList := by
  have hmark : '?' ∉ (Form.write pairs).toList := by
    rw [Form.write, String.toList_ofList]
    induction pairs with
    | nil => simp
    | cons pair rest ih =>
      have hpair : '?' ∉ Form.encode pair.1 ++ '=' :: Form.encode pair.2 := by
        simp [Form.mark_not_mem_encode]
      cases rest with
      | nil => rwa [List.map_singleton, List.intercalate_singleton]
      | cons second rest =>
        rw [List.map_cons, List.map_cons, List.intercalate_cons_cons, List.append_assoc,
          List.mem_append, List.singleton_append, List.mem_cons]
        rw [List.map_cons] at ih
        simp [hpair, ih]
  unfold withoutMark
  split
  · rename_i rest heq
    rw [heq] at hmark
    exact absurd (List.mem_cons_self ..) hmark
  · rfl

/-- The query that written pairs make: those without a name do not count. -/
theorem parse_write (pairs : List (String × String)) :
    parse (Form.write pairs) = ⟨Entries.ofPairs (pairs.filter fun pair => pair.1 ≠ "")⟩ := by
  rw [parse, withoutMark_write, Form.parse_write]

end BenchScope.Query
