import BenchScope.Json.Reader
import Mathlib.Data.List.Forall2
import Mathlib.Data.List.TakeWhile

/-!
# The grammar of JSON documents

What the texts of documents are made of, said without reference to the readers: blanks, numerals, quoted
texts with the characters they spell, arrays of items and objects of named members. An array or object is
described by the texts of its parts, so that a document can be described as far as it matters and no
further. `Value` is the form of any value, `Denotes` gives a value its meaning.

The second half of the module shows that the readers of numbers and texts read just that.
-/

namespace BenchScope.Json.Grammar

/-- A text of blanks. -/
def Blank (text : List Char) : Prop := ∀ c ∈ text, Read.isSpace c = true

/-! ## Numerals -/

/-- One digit or more. -/
def Digits (text : List Char) : Prop := text ≠ [] ∧ ∀ c ∈ text, c.isDigit = true

/-- The part of a numeral behind its point, with the point, or nothing. -/
inductive Fraction : List Char → Prop where
  | absent : Fraction []
  | present {digits : List Char} (h : Digits digits) : Fraction ('.' :: digits)

/-- The exponent of a numeral with its mark, or nothing. -/
inductive Exponent : List Char → Prop where
  | absent : Exponent []
  | present {mark : Char} {sign digits : List Char} (hmark : mark = 'e' ∨ mark = 'E')
      (hsign : sign = [] ∨ sign = ['+'] ∨ sign = ['-']) (h : Digits digits) :
      Exponent (mark :: (sign ++ digits))

/-- A numeral without sign: its whole part has no zero in front. -/
inductive Unsigned : List Char → Prop where
  | mk {whole fraction exponent : List Char} (hwhole : Digits whole)
      (hzero : whole.head? = some '0' → whole = ['0']) (hfraction : Fraction fraction)
      (hexponent : Exponent exponent) : Unsigned (whole ++ fraction ++ exponent)

/-- A numeral. -/
inductive Numeral : List Char → Prop where
  | positive {text : List Char} (h : Unsigned text) : Numeral text
  | negative {text : List Char} (h : Unsigned text) : Numeral ('-' :: text)

/-! ## Quoted texts -/

/-- What stands between quotes for one character: the character itself, a short escape, an escape with
its number, or two of these for a pair of surrogates. -/
inductive Spelling : List Char → Char → Prop where
  | plain {c : Char} (hquote : c ≠ '"') (hescape : c ≠ '\\') (hcontrol : 0x20 ≤ c.toNat) :
      Spelling [c] c
  | short {c d : Char} (h : shortEscape? c = some d) : Spelling ['\\', c] d
  | number {digits : List Char} {n : Nat} (h : hexFour? digits = some (n, []))
      (hlow : isLowSurrogate n = false) (hhigh : isHighSurrogate n = false) :
      Spelling ('\\' :: 'u' :: digits) (Char.ofNat n)
  | pair {first second : List Char} {high low : Nat} (hfirst : hexFour? first = some (high, []))
      (hsecond : hexFour? second = some (low, [])) (hlow : isLowSurrogate low = true)
      (hhigh : isHighSurrogate high = true) :
      Spelling ('\\' :: 'u' :: (first ++ '\\' :: 'u' :: second)) (pairedChar high low)

/-- A text between quotes, and what it spells. -/
def Quoted (text : List Char) (spelled : String) : Prop :=
  ∃ pieces, List.Forall₂ Spelling pieces spelled.toList ∧ text = '"' :: (pieces.flatten ++ ['"'])

/-- What may stand between quotes where it does not matter what is spelled: surrogates need no
partner. -/
inductive LoosePiece : List Char → Prop where
  | plain {c : Char} (hquote : c ≠ '"') (hescape : c ≠ '\\') (hcontrol : 0x20 ≤ c.toNat) :
      LoosePiece [c]
  | short {c d : Char} (h : shortEscape? c = some d) : LoosePiece ['\\', c]
  | number {digits : List Char} {n : Nat} (h : hexFour? digits = some (n, [])) :
      LoosePiece ('\\' :: 'u' :: digits)

/-- A text between quotes of which only the form matters. -/
def LooselyQuoted (text : List Char) : Prop :=
  ∃ pieces : List (List Char), (∀ piece ∈ pieces, LoosePiece piece) ∧ text = '"' :: (pieces.flatten ++ ['"'])

/-! ## Arrays and objects -/

variable {ν : Type}

/-- The parts of a bracket up to and with the closing one, separated by commas. Every part is a lead and
the text of a value; `started` tells whether a part stands in front already. -/
inductive Parts (closing : Char) (lead : List Char → ν → Prop) :
    (started : Bool) → List Char → List (ν × List Char) → Prop where
  | close {started : Bool} {blank : List Char} (hblank : Blank blank) :
      Parts closing lead started (blank ++ [closing]) []
  | first {front value rest : List Char} {name : ν} {parts : List (ν × List Char)}
      (hfront : lead front name) (h : Parts closing lead true rest parts) :
      Parts closing lead false (front ++ value ++ rest) ((name, value) :: parts)
  | next {blank front value rest : List Char} {name : ν} {parts : List (ν × List Char)}
      (hblank : Blank blank) (hfront : lead front name) (h : Parts closing lead true rest parts) :
      Parts closing lead true (blank ++ ',' :: (front ++ value ++ rest)) ((name, value) :: parts)

/-- What stands in front of an item of an array. -/
def ItemLead (text : List Char) (_ : Unit) : Prop := Blank text

/-- What stands in front of the value of a member: its name between quotes, and a colon. -/
inductive MemberLead : List Char → String → Prop where
  | mk {before quoted between after : List Char} {name : String} (hbefore : Blank before)
      (hquoted : Quoted quoted name) (hbetween : Blank between) (hafter : Blank after) :
      MemberLead (before ++ quoted ++ between ++ ':' :: after) name

/-- The same where the name does not matter. -/
inductive LooseLead : List Char → Unit → Prop where
  | mk {before quoted between after : List Char} (hbefore : Blank before)
      (hquoted : LooselyQuoted quoted) (hbetween : Blank between) (hafter : Blank after) :
      LooseLead (before ++ quoted ++ between ++ ':' :: after) ()

/-- An array and the texts of its items. -/
def IsArray (text : List Char) (items : List (List Char)) : Prop :=
  ∃ inner, text = '[' :: inner ∧ Parts ']' ItemLead false inner (items.map fun item => ((), item))

/-- An object, and the names of its members with the texts of their values. -/
def IsObject (text : List Char) (members : List (String × List Char)) : Prop :=
  ∃ inner, text = '{' :: inner ∧ Parts '}' MemberLead false inner members

/-- An object of which only the texts of values matter. -/
def IsLooseObject (text : List Char) (values : List (List Char)) : Prop :=
  ∃ inner, text = '{' :: inner ∧ Parts '}' LooseLead false inner (values.map fun value => ((), value))

/-! ## Values -/

/-- The words that stand for values. -/
def words : List (List Char × Json) :=
  [(['n', 'u', 'l', 'l'], .null), (['t', 'r', 'u', 'e'], .bool true),
    (['f', 'a', 'l', 's', 'e'], .bool false)]

/-- The form of a value. -/
inductive Value : List Char → Prop where
  | word {text : List Char} (h : text ∈ words.map Prod.fst) : Value text
  | numeral {text : List Char} (h : Numeral text) : Value text
  | text {text : List Char} (h : LooselyQuoted text) : Value text
  | array {text : List Char} {items : List (List Char)} (h : IsArray text items)
      (hitems : ∀ item ∈ items, Value item) : Value text
  | object {text : List Char} {values : List (List Char)} (h : IsLooseObject text values)
      (hvalues : ∀ value ∈ values, Value value) : Value text

/-- The meaning of a value. A numeral means what the reader of numbers makes of it; of the members of an
object with one name the last counts, in the place of the first. -/
inductive Denotes : List Char → Json → Prop where
  | word {text : List Char} {value : Json} (h : (text, value) ∈ words) : Denotes text value
  | numeral {text rest : List Char} {value : Json} (h : Numeral text)
      (hread : Read.scalar (text ++ rest) = .ok (value, rest)) : Denotes text value
  | text {text : List Char} {spelled : String} (h : Quoted text spelled) :
      Denotes text (.string spelled)
  | array {text : List Char} {items : List (List Char)} {values : List Json}
      (h : IsArray text items) (hitems : List.Forall₂ Denotes items values) :
      Denotes text (.array values)
  | object {text : List Char} {members : List (String × List Char)} {pairs : List (String × Json)}
      (h : IsObject text members) (hnames : members.map Prod.fst = pairs.map Prod.fst)
      (hvalues : List.Forall₂ Denotes (members.map Prod.snd) (pairs.map Prod.snd)) :
      Denotes text (.object (Entries.ofPairs pairs))

/-! ## Reading numerals -/

/-- The reader skips blanks and nothing else. -/
theorem exists_blank (text : List Char) :
    ∃ blank, Blank blank ∧ text = blank ++ Read.skipBlank text := by
  refine ⟨text.takeWhile Read.isSpace, ?_, List.takeWhile_append_dropWhile.symm⟩
  intro c hc
  exact List.mem_takeWhile_imp hc

theorem Blank.nil : Blank [] := by
  intro c hc
  cases hc

theorem Blank.append {first second : List Char} (h₁ : Blank first) (h₂ : Blank second) :
    Blank (first ++ second) := by
  intro c hc
  rcases List.mem_append.1 hc with hc | hc
  · exact h₁ c hc
  · exact h₂ c hc

/-- A text that starts with a digit is digits and the text after them. -/
theorem exists_digits {c : Char} (hc : c.isDigit = true) (rest : List Char) :
    Digits ((c :: rest).takeWhile Char.isDigit) ∧
      c :: rest = (c :: rest).takeWhile Char.isDigit ++ (c :: rest).dropWhile Char.isDigit := by
  refine ⟨⟨?_, ?_⟩, List.takeWhile_append_dropWhile.symm⟩
  · rw [List.takeWhile_cons_of_pos hc]
    exact List.cons_ne_nil _ _
  · intro d hd
    exact List.mem_takeWhile_imp hd

/-- What the reader takes for an exponent are digits. -/
theorem exponentDigits_suffix (exponent : Nat) (text : List Char) :
    ∃ digits, (∀ c ∈ digits, c.isDigit = true) ∧ text = digits ++ (exponentDigits exponent text).2 := by
  induction text generalizing exponent with
  | nil => exact ⟨[], by simp, by simp [exponentDigits]⟩
  | cons c rest ih =>
    rw [exponentDigits]
    by_cases hc : c.isDigit = true
    · rw [if_pos hc]
      dsimp only
      split
      · obtain ⟨digits, hdigits, heq⟩ := ih (exponent * 10 + digitValue c)
        refine ⟨c :: digits, ?_, by rw [List.cons_append, ← heq]⟩
        intro d hd
        rcases List.mem_cons.1 hd with rfl | hd
        · exact hc
        · exact hdigits d hd
      · exact ⟨[c], by simpa using hc, rfl⟩
    · rw [if_neg hc]
      exact ⟨[], by simp, rfl⟩

/-- A sign in front of the digits of an exponent. -/
theorem exponent_of_sign {mark : Char} (hmark : mark = 'e' ∨ mark = 'E') {text sign digits rest : List Char}
    (hsign : sign = [] ∨ sign = ['+'] ∨ sign = ['-']) (hdigits : Digits digits)
    (htext : text = sign ++ (digits ++ rest)) :
    ∃ exponent, Exponent exponent ∧ mark :: text = exponent ++ rest :=
  ⟨mark :: (sign ++ digits), .present hmark hsign hdigits, by rw [htext]; simp⟩

/-- The sign of an exponent, and the text after it. -/
def exponentSign (text : List Char) : Bool × List Char :=
  match text with
  | '+' :: rest => (false, rest)
  | '-' :: rest => (true, rest)
  | _ => (false, text)

/-- The reader takes one sign in front of an exponent, or none. -/
theorem exponentSign_spec (text : List Char) :
    ∃ sign, (sign = [] ∨ sign = ['+'] ∨ sign = ['-']) ∧ text = sign ++ (exponentSign text).2 := by
  unfold exponentSign
  split
  · exact ⟨['+'], by simp, rfl⟩
  · exact ⟨['-'], by simp, rfl⟩
  · exact ⟨[], by simp, rfl⟩

/-- The exponent of a number, with the sign taken off first. -/
theorem exponentPart_eq (negative : Bool) (significand : Nat) (start : Int) (text : List Char) :
    exponentPart negative significand start text =
      match (exponentSign text).2 with
      | [] => consumed .endInValue []
      | c :: rest =>
        if c.isDigit then
          match exponentDigits (digitValue c) rest with
          | (some e, rest) =>
            assemble negative significand (if (exponentSign text).1 then start - e else start + e) rest
          | (none, rest) =>
            if significand ≠ 0 ∧ ¬ (exponentSign text).1 then consumed .numberOutOfRange rest
            else .ok (.real (Decimal.signed negative 0), rest.dropWhile Char.isDigit)
        else peeked .invalidNumber (exponentSign text).2 := rfl

/-- An exponent that is read is a sign, or none, and digits; those past an overflow are digits too. -/
theorem exponentPart_sound {negative : Bool} {significand : Nat} {start : Int} {text rest : List Char}
    {value : Json} (h : exponentPart negative significand start text = .ok (value, rest)) :
    ∃ sign digits, (sign = [] ∨ sign = ['+'] ∨ sign = ['-']) ∧ Digits digits ∧
      text = sign ++ (digits ++ rest) := by
  obtain ⟨sign, hsign, htext⟩ := exponentSign_spec text
  rw [exponentPart_eq] at h
  cases hafter : (exponentSign text).2 with
  | nil =>
    rw [hafter] at h
    cases h
  | cons c tail =>
    rw [hafter] at h
    dsimp only at h
    by_cases hc : c.isDigit = true
    · rw [if_pos hc] at h
      -- the digits taken up to an overflow, or up to the end of the exponent
      obtain ⟨digits, hdigits, htail⟩ := exponentDigits_suffix (digitValue c) tail
      have hmore : ∀ more : List Char, (∀ d ∈ more, d.isDigit = true) → Digits (c :: (digits ++ more)) := by
        intro more hmore
        refine ⟨List.cons_ne_nil _ _, ?_⟩
        intro d hd
        rcases List.mem_cons.1 hd with rfl | hd
        · exact hc
        · rcases List.mem_append.1 hd with hd | hd
          · exact hdigits d hd
          · exact hmore d hd
      split at h
      · rename_i e left heq
        rw [heq] at htail
        unfold assemble at h
        split at h
        · obtain ⟨-, rfl⟩ := Prod.mk.inj (Except.ok.inj h)
          refine ⟨sign, c :: (digits ++ []), hsign, hmore [] (by simp), ?_⟩
          rw [htext, hafter, htail]
          simp
        · cases h
      · rename_i left heq
        rw [heq] at htail
        split at h
        · cases h
        · -- digits that no longer matter are passed over
          obtain ⟨-, rfl⟩ := Prod.mk.inj (Except.ok.inj h)
          refine ⟨sign, c :: (digits ++ left.takeWhile Char.isDigit), hsign,
            hmore _ (fun d hd => List.mem_takeWhile_imp hd), ?_⟩
          rw [htext, hafter, htail]
          simp
    · rw [if_neg hc] at h
      cases h

/-- Behind the digits of a number stands an exponent or nothing. -/
theorem afterDigits_sound {negative : Bool} {significand : Nat} {exponent : Int}
    {text rest : List Char} {value : Json}
    (h : afterDigits negative significand exponent text = .ok (value, rest)) :
    ∃ tail, Exponent tail ∧ text = tail ++ rest := by
  unfold afterDigits at h
  split at h
  · obtain ⟨sign, digits, hsign, hdigits, htext⟩ := exponentPart_sound h
    exact exponent_of_sign (Or.inl rfl) hsign hdigits htext
  · obtain ⟨sign, digits, hsign, hdigits, htext⟩ := exponentPart_sound h
    exact exponent_of_sign (Or.inr rfl) hsign hdigits htext
  · unfold assemble at h
    split at h
    · obtain ⟨-, rfl⟩ := Prod.mk.inj (Except.ok.inj h)
      exact ⟨[], .absent, rfl⟩
    · cases h

/-- Behind the point of a number stand digits, and an exponent or nothing. -/
theorem fractionPart_sound {negative : Bool} {significand : Nat} {exponent : Int}
    {text rest : List Char} {value : Json}
    (h : fractionPart negative significand exponent text = .ok (value, rest)) :
    ∃ digits tail, Digits digits ∧ Exponent tail ∧ text = digits ++ tail ++ rest := by
  unfold fractionPart at h
  dsimp only at h
  by_cases hempty : (text.takeWhile Char.isDigit).isEmpty = true
  · rw [if_pos hempty] at h
    split at h <;> cases h
  · rw [if_neg hempty] at h
    obtain ⟨tail, htail, hrest⟩ := afterDigits_sound h
    refine ⟨text.takeWhile Char.isDigit, tail, ⟨?_, fun c hc => List.mem_takeWhile_imp hc⟩, htail, ?_⟩
    · simpa using hempty
    · rw [List.append_assoc, ← hrest, List.takeWhile_append_dropWhile]

/-- The whole part of a numeral has no zero in front. -/
theorem whole_of_head {c : Char} {tail : List Char} (hc : c.isDigit = true)
    (hzero : ¬ (c = '0' ∧ (tail.head?.map Char.isDigit).getD false = true)) :
    ((c :: tail).takeWhile Char.isDigit).head? = some '0' →
      (c :: tail).takeWhile Char.isDigit = ['0'] := by
  intro hhead
  rw [List.takeWhile_cons_of_pos hc] at hhead ⊢
  obtain rfl : c = '0' := Option.some.inj hhead
  cases tail with
  | nil => rfl
  | cons d tail =>
    have hd : ¬ d.isDigit = true := fun hd => hzero ⟨rfl, hd⟩
    rw [List.takeWhile_cons_of_neg hd]

/-- What the reader of numbers takes is a numeral. -/
theorem number_sound {negative : Bool} {text rest : List Char} {value : Json}
    (h : number negative text = .ok (value, rest)) :
    ∃ numeral, Unsigned numeral ∧ text = numeral ++ rest := by
  unfold number at h
  split at h
  · cases h
  · rename_i c tail
    by_cases hc : c.isDigit = true
    · rw [if_neg (not_not.2 hc)] at h
      by_cases hzero : c = '0' ∧ (tail.head?.map Char.isDigit).getD false = true
      · rw [if_pos hzero] at h
        cases h
      · rw [if_neg hzero] at h
        obtain ⟨hdigits, hsplit⟩ := exists_digits hc tail
        have hwhole := whole_of_head hc hzero
        -- from here on only the form of the digits and of what follows them matters
        generalize (c :: tail).takeWhile Char.isDigit = digits at h hdigits hsplit hwhole
        generalize (c :: tail).dropWhile Char.isDigit = after at h hsplit
        dsimp only at h
        split at h
        · obtain ⟨fraction, exponent, hfraction, hexponent, rfl⟩ := fractionPart_sound h
          refine ⟨digits ++ ('.' :: fraction) ++ exponent,
            .mk hdigits hwhole (.present hfraction) hexponent, ?_⟩
          rw [hsplit]
          simp
        · split at h
          · obtain ⟨-, rfl⟩ := Prod.mk.inj (Except.ok.inj h)
            refine ⟨digits ++ [] ++ [], .mk hdigits hwhole .absent .absent, ?_⟩
            rw [hsplit]
            simp
          · obtain ⟨exponent, hexponent, rfl⟩ := afterDigits_sound h
            refine ⟨digits ++ [] ++ exponent, .mk hdigits hwhole .absent hexponent, ?_⟩
            rw [hsplit]
            simp
    · rw [if_pos hc] at h
      cases h

/-- Passing over an exponent, with the sign taken off first. -/
theorem skipExponent_eq (text : List Char) : skipExponent text = match (exponentSign text).2 with
    | [] => consumed .invalidNumber []
    | c :: rest =>
      if c.isDigit then .ok (rest.dropWhile Char.isDigit)
      else peeked .invalidNumber (exponentSign text).2 := by
  unfold skipExponent
  split
  · rfl
  · rfl
  · rename_i hplus hminus
    have hsign : exponentSign text = (false, text) := by
      unfold exponentSign
      split
      · exact absurd rfl (hplus _)
      · exact absurd rfl (hminus _)
      · rfl
    exact hsign ▸ rfl

/-- An exponent that is passed over has the same form as one that is read. -/
theorem skipExponent_sound {text rest : List Char} (h : skipExponent text = .ok rest) :
    ∃ sign digits, (sign = [] ∨ sign = ['+'] ∨ sign = ['-']) ∧ Digits digits ∧
      text = sign ++ (digits ++ rest) := by
  have hpart : ∀ after, (match after with
      | [] => consumed .invalidNumber []
      | c :: rest =>
        if c.isDigit then .ok (rest.dropWhile Char.isDigit)
        else peeked .invalidNumber after) = Except.ok rest →
      ∃ digits, Digits digits ∧ after = digits ++ rest := by
    intro after hafter
    split at hafter
    · cases hafter
    · rename_i c tail
      by_cases hc : c.isDigit = true
      · rw [if_pos hc] at hafter
        obtain rfl := Except.ok.inj hafter
        obtain ⟨hdigits, hsplit⟩ := exists_digits hc tail
        refine ⟨_, hdigits, ?_⟩
        rwa [List.dropWhile_cons_of_pos hc] at hsplit
      · rw [if_neg hc] at hafter
        cases hafter
  rw [skipExponent_eq] at h
  obtain ⟨sign, hsign, htext⟩ := exponentSign_spec text
  obtain ⟨digits, hdigits, hsplit⟩ := hpart _ h
  exact ⟨sign, digits, hsign, hdigits, hsplit ▸ htext⟩

/-- What is passed over behind the digits of a number is an exponent or nothing. -/
theorem skipAfterDigits_sound {text rest : List Char} (h : skipAfterDigits text = .ok rest) :
    ∃ tail, Exponent tail ∧ text = tail ++ rest := by
  unfold skipAfterDigits at h
  split at h
  · obtain ⟨sign, digits, hsign, hdigits, htext⟩ := skipExponent_sound h
    exact exponent_of_sign (Or.inl rfl) hsign hdigits htext
  · obtain ⟨sign, digits, hsign, hdigits, htext⟩ := skipExponent_sound h
    exact exponent_of_sign (Or.inr rfl) hsign hdigits htext
  · obtain rfl := Except.ok.inj h
    exact ⟨[], .absent, rfl⟩

/-- What is passed over as a number is a numeral. -/
theorem skipNumber_sound {text rest : List Char} (h : skipNumber text = .ok rest) :
    ∃ numeral, Unsigned numeral ∧ text = numeral ++ rest := by
  unfold skipNumber at h
  split at h
  · cases h
  · rename_i c tail
    by_cases hc : c.isDigit = true
    · rw [if_neg (not_not.2 hc)] at h
      by_cases hzero : c = '0' ∧ (tail.head?.map Char.isDigit).getD false = true
      · rw [if_pos hzero] at h
        cases h
      · rw [if_neg hzero] at h
        obtain ⟨hdigits, hsplit⟩ := exists_digits hc tail
        have hwhole := whole_of_head hc hzero
        generalize (c :: tail).takeWhile Char.isDigit = digits at hdigits hsplit hwhole
        generalize (c :: tail).dropWhile Char.isDigit = after at h hsplit
        split at h
        · rename_i point
          by_cases hempty : (point.takeWhile Char.isDigit).isEmpty = true
          · rw [if_pos hempty] at h
            cases h
          · rw [if_neg hempty] at h
            obtain ⟨exponent, hexponent, hrest⟩ := skipAfterDigits_sound h
            have hfraction : Digits (point.takeWhile Char.isDigit) :=
              ⟨by simpa using hempty, fun d hd => List.mem_takeWhile_imp hd⟩
            refine ⟨digits ++ ('.' :: point.takeWhile Char.isDigit) ++ exponent,
              .mk hdigits hwhole (.present hfraction) hexponent, ?_⟩
            have hpoint : point = point.takeWhile Char.isDigit ++ (exponent ++ rest) := by
              rw [← hrest, List.takeWhile_append_dropWhile]
            rw [hsplit, List.append_assoc, List.append_assoc, List.cons_append, ← hpoint]
        · obtain ⟨exponent, hexponent, rfl⟩ := skipAfterDigits_sound h
          refine ⟨digits ++ [] ++ exponent, .mk hdigits hwhole .absent hexponent, ?_⟩
          rw [hsplit]
          simp
    · rw [if_pos hc] at h
      cases h

/-! ## Reading quoted texts -/

/-- Four hexadecimal digits are taken, with their number. -/
theorem hexEscape_sound {text rest : List Char} {n : Nat} (h : hexEscape text = .ok (n, rest)) :
    ∃ digits, hexFour? digits = some (n, []) ∧ text = digits ++ rest := by
  unfold hexEscape at h
  split at h
  · rename_i read hread
    obtain rfl := Except.ok.inj h
    unfold hexFour? at hread
    split at hread
    · rename_i a b c d tail
      simp only [Option.bind_eq_bind, Option.bind_eq_some_iff] at hread
      obtain ⟨va, ha, vb, hb, vc, hc, vd, hd, hread⟩ := hread
      obtain ⟨rfl, rfl⟩ := Prod.mk.inj (Option.some.inj hread)
      refine ⟨[a, b, c, d], ?_, rfl⟩
      simp [hexFour?, ha, hb, hc, hd]
    · cases hread
  · split at h <;> cases h

/-- A high surrogate is followed by the escape of a low one, and both together mean one character. -/
theorem lowSurrogate_sound {high : Nat} {text rest : List Char} {c : Char}
    (h : lowSurrogate high text = .ok (c, rest)) :
    ∃ digits low, hexFour? digits = some (low, []) ∧ isLowSurrogate low = true ∧
      c = pairedChar high low ∧ text = '\\' :: 'u' :: (digits ++ rest) := by
  unfold lowSurrogate at h
  split at h
  · cases h
  · cases h
  · rename_i tail
    cases hread : hexEscape tail with
    | error e =>
      rw [hread] at h
      cases h
    | ok read =>
      obtain ⟨low, after⟩ := read
      rw [hread] at h
      obtain ⟨digits, hdigits, rfl⟩ := hexEscape_sound hread
      simp only [bind, Except.bind] at h
      split at h
      · rename_i hlow
        obtain ⟨rfl, rfl⟩ := Prod.mk.inj (Except.ok.inj h)
        exact ⟨digits, low, hdigits, hlow, rfl, rfl⟩
      · cases h
  · cases h
  · cases h

/-- An escape by number spells its character, or a pair of them the character of the pair. -/
theorem unicodeEscape_sound {text rest : List Char} {c : Char}
    (h : unicodeEscape text = .ok (c, rest)) :
    ∃ piece, Spelling ('\\' :: 'u' :: piece) c ∧ text = piece ++ rest := by
  unfold unicodeEscape at h
  cases hread : hexEscape text with
  | error e =>
    rw [hread] at h
    cases h
  | ok read =>
    obtain ⟨n, after⟩ := read
    rw [hread] at h
    obtain ⟨digits, hdigits, rfl⟩ := hexEscape_sound hread
    simp only [bind, Except.bind] at h
    -- a low surrogate alone means nothing, a high one needs a low one behind it
    cases hlow : isLowSurrogate n with
    | true =>
      rw [if_pos hlow] at h
      cases h
    | false =>
      rw [if_neg (by simp [hlow])] at h
      cases hhigh : isHighSurrogate n with
      | true =>
        rw [if_pos hhigh] at h
        obtain ⟨second, low, hsecond, hpaired, hchar, hafter⟩ := lowSurrogate_sound h
        rw [hchar, hafter]
        exact ⟨digits ++ '\\' :: 'u' :: second, .pair hdigits hsecond hpaired hhigh, by simp⟩
      | false =>
        rw [if_neg (by simp [hhigh])] at h
        obtain ⟨rfl, rfl⟩ := Prod.mk.inj (Except.ok.inj h)
        exact ⟨digits, .number hdigits hlow hhigh, rfl⟩

/-- An escape spells the character that is read for it. -/
theorem escape_sound {text rest : List Char} {c : Char} (h : escape text = .ok (c, rest)) :
    ∃ piece, Spelling ('\\' :: piece) c ∧ text = piece ++ rest := by
  unfold escape at h
  split at h
  · cases h
  · rename_i d tail
    by_cases hd : d = 'u'
    · rw [if_pos hd] at h
      obtain ⟨piece, hpiece, rfl⟩ := unicodeEscape_sound h
      exact ⟨'u' :: piece, hpiece, by rw [hd, List.cons_append]⟩
    · rw [if_neg hd] at h
      split at h
      · rename_i e hshort
        obtain ⟨rfl, rfl⟩ := Prod.mk.inj (Except.ok.inj h)
        exact ⟨[d], .short hshort, rfl⟩
      · cases h

/-- What is read up to a closing quote is spelled by what stands there. -/
theorem stringBody_sound {text body rest : List Char} (h : stringBody text = .ok (body, rest)) :
    ∃ pieces, List.Forall₂ Spelling pieces body ∧ text = pieces.flatten ++ '"' :: rest := by
  -- an escape takes more than one character, so the induction is on the length of the text
  induction hlength : text.length using Nat.strong_induction_on generalizing text body with
  | _ length ih =>
    unfold stringBody at h
    split at h
    · cases h
    · rename_i c tail
      by_cases hquote : c = '"'
      · rw [if_pos hquote] at h
        obtain ⟨rfl, rfl⟩ := Prod.mk.inj (Except.ok.inj h)
        exact ⟨[], .nil, by rw [hquote]; rfl⟩
      · rw [if_neg hquote] at h
        by_cases hescape : c = '\\'
        · rw [if_pos hescape] at h
          split at h
          · cases h
          · rename_i d after hread
            have hshort := length_escape_lt hread
            obtain ⟨piece, hpiece, rfl⟩ := escape_sound hread
            split at h
            · cases h
            · rename_i body' tail' hbody
              obtain ⟨rfl, rfl⟩ := Prod.mk.inj (Except.ok.inj h)
              have hlt : after.length < length := by
                rw [← hlength, List.length_cons]
                omega
              obtain ⟨pieces, hpieces, rfl⟩ := ih after.length hlt hbody rfl
              refine ⟨('\\' :: piece) :: pieces, .cons hpiece hpieces, ?_⟩
              rw [hescape]
              simp
        · rw [if_neg hescape] at h
          by_cases hcontrol : c.toNat < 0x20
          · rw [if_pos hcontrol] at h
            cases h
          · rw [if_neg hcontrol] at h
            split at h
            · cases h
            · rename_i body' tail' hbody
              obtain ⟨rfl, rfl⟩ := Prod.mk.inj (Except.ok.inj h)
              have hlt : tail.length < length := by
                rw [← hlength, List.length_cons]
                omega
              obtain ⟨pieces, hpieces, rfl⟩ := ih tail.length hlt hbody rfl
              exact ⟨[c] :: pieces, .cons (.plain hquote hescape (Nat.le_of_not_lt hcontrol)) hpieces,
                by simp⟩

/-- A text that is read stands between quotes and spells what was read. -/
theorem quotedText_sound {text rest : List Char} {spelled : String}
    (h : Read.quotedText text = .ok (spelled, rest)) :
    ∃ quoted, Quoted quoted spelled ∧ '"' :: text = quoted ++ rest := by
  unfold Read.quotedText at h
  split at h
  · rename_i body tail hbody
    obtain ⟨rfl, rfl⟩ := Prod.mk.inj (Except.ok.inj h)
    obtain ⟨pieces, hpieces, rfl⟩ := stringBody_sound hbody
    refine ⟨'"' :: (pieces.flatten ++ ['"']), ⟨pieces, ?_, rfl⟩, by simp⟩
    rwa [String.toList_ofList]
  · cases h

/-- An escape that is passed over has the form of one; what it spells does not matter. -/
theorem skipEscape_sound {text rest : List Char} (h : skipEscape text = .ok rest) :
    ∃ piece, LoosePiece ('\\' :: piece) ∧ text = piece ++ rest := by
  unfold skipEscape at h
  split at h
  · cases h
  · rename_i d tail
    by_cases hd : d = 'u'
    · rw [if_pos hd] at h
      cases hread : hexEscape tail with
      | error e =>
        rw [hread] at h
        cases h
      | ok read =>
        obtain ⟨n, after⟩ := read
        rw [hread] at h
        obtain rfl : after = rest := Except.ok.inj h
        obtain ⟨digits, hdigits, rfl⟩ := hexEscape_sound hread
        exact ⟨'u' :: digits, .number hdigits, by rw [hd, List.cons_append]⟩
    · rw [if_neg hd] at h
      split at h
      · rename_i e hshort
        obtain rfl := Except.ok.inj h
        exact ⟨[d], .short hshort, rfl⟩
      · cases h

/-- What is passed over up to a closing quote has the form of a quoted text. -/
theorem skipString_sound {text rest : List Char} (h : skipString text = .ok rest) :
    ∃ quoted, LooselyQuoted quoted ∧ '"' :: text = quoted ++ rest := by
  have hpieces : ∃ pieces : List (List Char), (∀ piece ∈ pieces, LoosePiece piece) ∧
      text = pieces.flatten ++ '"' :: rest := by
    -- as for texts that are read, the induction is on the length
    induction hlength : text.length using Nat.strong_induction_on generalizing text with
    | _ length ih =>
      unfold skipString at h
      split at h
      · cases h
      · rename_i c tail
        by_cases hquote : c = '"'
        · rw [if_pos hquote] at h
          obtain rfl := Except.ok.inj h
          exact ⟨[], by simp, by rw [hquote]; rfl⟩
        · rw [if_neg hquote] at h
          by_cases hescape : c = '\\'
          · rw [if_pos hescape] at h
            split at h
            · cases h
            · rename_i after hread
              have hshort := length_skipEscape_lt hread
              have hlt : after.length < length := by
                rw [← hlength, List.length_cons]
                omega
              obtain ⟨piece, hpiece, rfl⟩ := skipEscape_sound hread
              obtain ⟨pieces, hpieces, rfl⟩ := ih after.length hlt h rfl
              refine ⟨('\\' :: piece) :: pieces, List.forall_mem_cons.2 ⟨hpiece, hpieces⟩, ?_⟩
              rw [hescape]
              simp
          · rw [if_neg hescape] at h
            by_cases hcontrol : c.toNat < 0x20
            · rw [if_pos hcontrol] at h
              cases h
            · rw [if_neg hcontrol] at h
              have hlt : tail.length < length := by
                rw [← hlength, List.length_cons]
                omega
              obtain ⟨pieces, hpieces, rfl⟩ := ih tail.length hlt h rfl
              have hplain := LoosePiece.plain hquote hescape (Nat.le_of_not_lt hcontrol)
              exact ⟨[c] :: pieces, List.forall_mem_cons.2 ⟨hplain, hpieces⟩, by simp⟩
  obtain ⟨pieces, hloose, rfl⟩ := hpieces
  exact ⟨'"' :: (pieces.flatten ++ ['"']), ⟨pieces, hloose, rfl⟩, by simp⟩

end BenchScope.Json.Grammar
