/-!
# Punycode

Labels of domain names are ASCII. A label with other characters is written as its ASCII characters,
followed by the other code points in ascending order, each as the difference to the one before. The
differences are numbers of variable length in base 36 whose digit thresholds adapt to the size of the
differences so far.
-/

namespace BenchScope.Url.Punycode

/-- The base of the digits. -/
def base : Nat := 36

/-- The digit of a value: letters first, then decimal digits. -/
def digitChar (d : Nat) : Char :=
  if d < 26 then Char.ofNat (0x61 + d) else Char.ofNat (0x30 + (d - 26))

/-- The value of a digit. -/
def digitValue? (c : Char) : Option Nat :=
  if 'a' ≤ c ∧ c ≤ 'z' then some (c.toNat - 0x61)
  else if 'A' ≤ c ∧ c ≤ 'Z' then some (c.toNat - 0x41)
  else if '0' ≤ c ∧ c ≤ '9' then some (c.toNat - 0x30 + 26)
  else none

/-- The threshold of the digit with weight position `k`. -/
def threshold (k bias : Nat) : Nat :=
  if k ≤ bias then 1 else if bias + 26 ≤ k then 26 else k - bias

theorem one_le_threshold (k bias : Nat) : 1 ≤ threshold k bias := by
  unfold threshold
  split
  · omega
  · split <;> omega

/-- Divides a difference until it is small, counting the digits that takes. -/
def shrink (delta k : Nat) : Nat × Nat :=
  if 455 < delta then shrink (delta / 35) (k + base) else (delta, k)
termination_by delta
decreasing_by omega

/-- The bias after a difference, given how many code points have been written. -/
def adapt (delta count : Nat) (isFirst : Bool) : Nat :=
  let delta := if isFirst then delta / 700 else delta / 2
  let (delta, k) := shrink (delta + delta / count) 0
  k + base * delta / (delta + 38)

/-- The digits of a difference. -/
def digits (bias k q : Nat) : List Char :=
  let t := threshold k bias
  if q < t then [digitChar q]
  else digitChar (t + (q - t) % (base - t)) :: digits bias (k + base) ((q - t) / (base - t))
termination_by q
decreasing_by
  have h := one_le_threshold k bias
  exact Nat.lt_of_le_of_lt (Nat.div_le_self _ _) (by omega)

/-- What has been written of a label: the digits, the difference that is being summed up, the bias and
the number of code points written. -/
structure Writing where
  output : List Char
  delta : Nat
  bias : Nat
  count : Nat

/-- Passes a character of the label while the code point `code` is being written. -/
def Writing.pass (basic code : Nat) (w : Writing) (c : Char) : Writing :=
  if c.toNat < code then { w with delta := w.delta + 1 }
  else if c.toNat = code then
    { output := w.output ++ digits w.bias base w.delta
      delta := 0
      bias := adapt w.delta (w.count + 1) (w.count == basic)
      count := w.count + 1 }
  else w

/-- Writes the code points in ascending order; `last` is one more than the one before. -/
def Writing.run (label : List Char) (basic : Nat) : List Nat → Nat → Writing → Writing
  | [], _, w => w
  | code :: codes, last, w =>
    let w := { w with delta := w.delta + (code - last) * (w.count + 1) }
    let w := label.foldl (Writing.pass basic code) w
    Writing.run label basic codes (code + 1) { w with delta := w.delta + 1 }

/-- Whether a character is ASCII. -/
def isAscii (c : Char) : Bool := c.toNat < 0x80

/-- A label in ASCII, without the mark that tells that it is written so. -/
def encode (label : List Char) : List Char :=
  let ascii := label.filter isAscii
  let codes := (((label.filter (!isAscii ·)).map Char.toNat).mergeSort (· ≤ ·)).eraseDups
  let written := Writing.run label ascii.length codes 0x80 ⟨[], 0, 72, ascii.length⟩
  ascii ++ (if ascii.isEmpty then [] else ['-']) ++ written.output

/-- The numbers that are summed up while reading stay below this. -/
def numberLimit : Nat := Nat.pow 2 32

/-- Reads a number of variable length and adds it to `total`; the rest follows it. -/
def number? (bias k weight total : Nat) : List Char → Option (Nat × List Char)
  | [] => none
  | c :: rest =>
    match digitValue? c with
    | none => none
    | some d =>
      let t := threshold k bias
      if numberLimit ≤ total + d * weight then none
      else if d < t then some (total + d * weight, rest)
      else if numberLimit ≤ weight * (base - t) then none
      else number? bias (k + base) (weight * (base - t)) (total + d * weight) rest

theorem length_number?_lt {bias k weight total : Nat} {text rest : List Char} {n : Nat}
    (h : number? bias k weight total text = some (n, rest)) : rest.length < text.length := by
  induction text generalizing k weight total with
  | nil => simp [number?] at h
  | cons c text ih =>
    unfold number? at h
    split at h
    · simp at h
    · simp only at h
      split at h
      · simp at h
      · split at h
        · simp only [Option.some.injEq, Prod.mk.injEq] at h
          simp [h.2]
        · split at h
          · simp at h
          · have := ih h
            simp; omega

/-- Inserts the code points of the differences into a label. -/
def insertAll (bias code i : Nat) (isFirst : Bool) (label text : List Char) : Option (List Char) :=
  if text.isEmpty then some label
  else match h : number? bias base 1 i text with
    | none => none
    | some (position, rest) =>
      let count := label.length + 1
      let code := code + position / count
      let place := position % count
      have := length_number?_lt h
      if (Char.ofNat code).toNat ≠ code then none
      else insertAll (adapt (position - i) count isFirst) code (place + 1) false
        (label.take place ++ Char.ofNat code :: label.drop place) rest
termination_by text.length

/-- The label that an ASCII form without its mark stands for. A hyphen in front of all digits divides
nothing and is no digit. -/
def decode? (text : List Char) : Option (List Char) :=
  let tail := (text.reverse.takeWhile (· ≠ '-')).reverse
  let ascii := text.take (text.length - tail.length - 1)
  if ¬ text.all isAscii ∨ (ascii.isEmpty ∧ text.head? = some '-') then none
  else insertAll 72 0x80 0 true ascii tail

end BenchScope.Url.Punycode
