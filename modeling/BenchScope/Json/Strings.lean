import BenchScope.Json.Fault

/-!
# Reading quoted text

`stringBody` reads what follows an opening quote, up to and with the closing one. `skipString` only
checks the form: it does not ask for surrogates to come in pairs, and it stops in front of a control
character instead of behind it.
-/

namespace BenchScope.Json

/-- The value of a hexadecimal digit. -/
def hexValue? (c : Char) : Option Nat :=
  if '0' ≤ c ∧ c ≤ '9' then some (c.toNat - '0'.toNat)
  else if 'a' ≤ c ∧ c ≤ 'f' then some (c.toNat - 'a'.toNat + 10)
  else if 'A' ≤ c ∧ c ≤ 'F' then some (c.toNat - 'A'.toNat + 10)
  else none

/-- The number that four hexadecimal digits spell, and the text after them. -/
def hexFour? : List Char → Option (Nat × List Char)
  | a :: b :: c :: d :: rest => do
    let a ← hexValue? a
    let b ← hexValue? b
    let c ← hexValue? c
    let d ← hexValue? d
    return (((a * 16 + b) * 16 + c) * 16 + d, rest)
  | _ => none

/-- Four hexadecimal digits; four bytes are taken before they are judged. -/
def hexEscape (text : List Char) : Except Fault (Nat × List Char) :=
  match hexFour? text with
  | some read => .ok read
  | none =>
    if Text.Utf8.size text < 4 then .error ⟨.endInString, 0⟩
    else .error ⟨.invalidEscape, Text.Utf8.size text - 4⟩

/-- Numbers that stand for the first half of a pair. -/
def isHighSurrogate (n : Nat) : Bool := 0xD800 ≤ n && n ≤ 0xDBFF

/-- Numbers that stand for the second half of a pair. -/
def isLowSurrogate (n : Nat) : Bool := 0xDC00 ≤ n && n ≤ 0xDFFF

/-- The character that a pair of surrogates spells. -/
def pairedChar (high low : Nat) : Char :=
  Char.ofNat (0x10000 + (high - 0xD800) * 0x400 + (low - 0xDC00))

/-- The second half of a pair, after the first half `high`. -/
def lowSurrogate (high : Nat) (text : List Char) : Except Fault (Char × List Char) :=
  match text with
  | [] => consumed .endInString []
  | ['\\'] => consumed .endInString []
  | '\\' :: 'u' :: rest => do
    let (low, after) ← hexEscape rest
    if isLowSurrogate low then .ok (pairedChar high low, after)
    else consumed .loneSurrogate after
  | '\\' :: rest => peeked .unexpectedEndOfHexEscape rest
  | rest => peeked .unexpectedEndOfHexEscape rest

/-- What follows `\u`. -/
def unicodeEscape (text : List Char) : Except Fault (Char × List Char) := do
  let (n, rest) ← hexEscape text
  if isLowSurrogate n then consumed .loneSurrogate rest
  else if isHighSurrogate n then lowSurrogate n rest
  else .ok (Char.ofNat n, rest)

/-- Escapes of one letter. -/
def shortEscape? (c : Char) : Option Char :=
  if c = '"' then some '"'
  else if c = '\\' then some '\\'
  else if c = '/' then some '/'
  else if c = 'b' then some '\x08'
  else if c = 'f' then some '\x0c'
  else if c = 'n' then some '\n'
  else if c = 'r' then some '\r'
  else if c = 't' then some '\t'
  else none

/-- What follows a backslash. -/
def escape : List Char → Except Fault (Char × List Char)
  | [] => consumed .endInString []
  | c :: rest =>
    if c = 'u' then unicodeEscape rest
    else match shortEscape? c with
      | some d => .ok (d, rest)
      | none => peeked .invalidEscape (c :: rest)

theorem length_hexEscape {text rest : List Char} {n : Nat} (h : hexEscape text = .ok (n, rest)) :
    rest.length + 4 = text.length := by
  unfold hexEscape at h
  split at h
  · rename_i read hread
    cases h
    unfold hexFour? at hread
    split at hread
    · simp only [Option.bind_eq_bind, Option.bind_eq_some_iff] at hread
      obtain ⟨_, _, _, _, _, _, _, _, h⟩ := hread
      cases h
      simp
    · cases hread
  · split at h <;> cases h

theorem length_lowSurrogate_lt {high : Nat} {text rest : List Char} {c : Char}
    (h : lowSurrogate high text = .ok (c, rest)) : rest.length < text.length := by
  unfold lowSurrogate at h
  split at h
  · cases h
  · cases h
  · rename_i tail
    cases hx : hexEscape tail with
    | error e => rw [hx] at h; cases h
    | ok read =>
      obtain ⟨low, after⟩ := read
      rw [hx] at h
      have hl := length_hexEscape hx
      simp only [bind, Except.bind] at h
      split at h
      · simp only [Except.ok.injEq, Prod.mk.injEq] at h
        obtain ⟨_, rfl⟩ := h
        simp only [List.length_cons]
        omega
      · cases h
  · cases h
  · cases h

theorem length_unicodeEscape_lt {text rest : List Char} {c : Char}
    (h : unicodeEscape text = .ok (c, rest)) : rest.length < text.length := by
  unfold unicodeEscape at h
  cases hx : hexEscape text with
  | error e => rw [hx] at h; cases h
  | ok read =>
    obtain ⟨n, after⟩ := read
    rw [hx] at h
    have hl := length_hexEscape hx
    simp only [bind, Except.bind] at h
    split at h
    · cases h
    · split at h
      · have := length_lowSurrogate_lt h
        omega
      · cases h
        omega

theorem length_escape_lt {text rest : List Char} {c : Char} (h : escape text = .ok (c, rest)) :
    rest.length < text.length := by
  unfold escape at h
  split at h
  · cases h
  · split at h
    · have := length_unicodeEscape_lt h
      simp only [List.length_cons]
      omega
    · split at h
      · cases h
        simp
      · cases h

/-- The text up to the closing quote, and what follows the quote. -/
def stringBody (text : List Char) : Except Fault (List Char × List Char) :=
  match text with
  | [] => consumed .endInString []
  | c :: rest =>
    if c = '"' then .ok ([], rest)
    else if c = '\\' then
      match h : escape rest with
      | .error e => .error e
      | .ok (d, after) =>
        have := length_escape_lt h
        match stringBody after with
        | .error e => .error e
        | .ok (body, tail) => .ok (d :: body, tail)
    else if c.toNat < 0x20 then consumed .controlCharacter rest
    else match stringBody rest with
      | .error e => .error e
      | .ok (body, tail) => .ok (c :: body, tail)
termination_by text.length

/-- The form of an escape: what follows `\u` need not be a character. -/
def skipEscape : List Char → Except Fault (List Char)
  | [] => consumed .endInString []
  | c :: rest =>
    if c = 'u' then (hexEscape rest).map Prod.snd
    else match shortEscape? c with
      | some _ => .ok rest
      | none => peeked .invalidEscape (c :: rest)

theorem length_skipEscape_lt {text rest : List Char} (h : skipEscape text = .ok rest) :
    rest.length < text.length := by
  unfold skipEscape at h
  split at h
  · cases h
  · rename_i c tail
    split at h
    · cases hx : hexEscape tail with
      | error e => rw [hx] at h; cases h
      | ok read =>
        obtain ⟨n, after⟩ := read
        rw [hx] at h
        cases h
        have := length_hexEscape hx
        simp only [List.length_cons]
        omega
    · split at h
      · cases h
        simp
      · cases h

/-- Passes over a text up to and with its closing quote. -/
def skipString (text : List Char) : Except Fault (List Char) :=
  match text with
  | [] => consumed .endInString []
  | c :: rest =>
    if c = '"' then .ok rest
    else if c = '\\' then
      match h : skipEscape rest with
      | .error e => .error e
      | .ok after =>
        have := length_skipEscape_lt h
        skipString after
    else if c.toNat < 0x20 then consumed .controlCharacter (c :: rest)
    else skipString rest
termination_by text.length

end BenchScope.Json
