import BenchScope.Proofs.Markup
import BenchScope.Text.Bytes
import Mathlib.Data.List.Forall2
import Mathlib.Data.List.Infix
import Mathlib.Data.List.TakeWhile
import Mathlib.Data.Nat.Digits.Defs

/-!
# Character references

The references in a text are told by a grammar that does not mention the decoder: five names, decimal
digits, and hexadecimal digits. Translating a text replaces each reference that a scan from left to right
meets, copies everything else, and never looks at its own output again. Every text has exactly one
translation.

Decoding gives this translation for every text in which no signed reference stands, and for no other
text: a plus sign in front of hexadecimal digits is accepted as well. Decoding undoes escaping.
-/

namespace BenchScope.Markup

/-! ## Escaped text -/

/-- Decoding undoes escaping. Hence different texts are escaped differently, and text that was decoded and
escaped stays as it is when that is done again. -/
theorem decode_undoes_escape :
    (∀ text : String, decode (escape text) = text) ∧ Function.Injective escape ∧
      ∀ text : String, escape (decode (escape (decode text))) = escape (decode text) := by
  have hundo : ∀ text : String, decode (escape text) = text := by
    intro text
    rw [decode, escape, String.toList_ofList, decodeChars_escapeChars, String.ofList_toList]
  refine ⟨hundo, Function.LeftInverse.injective hundo, ?_⟩
  intro text
  rw [hundo]

/-! ## Numbers -/

/-- A character is the digit of a value in a base. Letters count in both cases. -/
def IsDigit (base : Nat) (c : Char) (value : Nat) : Prop :=
  value < base ∧ (c = Nat.digitChar value ∨ c = (Nat.digitChar value).toUpper)

instance (base : Nat) (c : Char) (value : Nat) : Decidable (IsDigit base c value) :=
  inferInstanceAs (Decidable (_ ∧ _))

/-- Digits, at least one of them, spell a number in a base. -/
inductive Spells (base : Nat) : List Char → Nat → Prop where
  | digit {c : Char} {value : Nat} : IsDigit base c value → Spells base [c] value
  | append {digits : List Char} {n : Nat} {c : Char} {value : Nat} :
      Spells base digits n → IsDigit base c value → Spells base (digits ++ [c]) (n * base + value)

/-- Consecutive characters are digits if a table of them says so. -/
theorem isDigit_of_table (base first count : Nat) (value : Nat → Nat) {c : Char}
    (htable : ∀ n ∈ List.range' first count, IsDigit base (Char.ofNat n) (value n))
    (hfirst : first ≤ c.toNat) (hlast : c.toNat < first + count) :
    IsDigit base c (value c.toNat) := by
  have hmem : c.toNat ∈ List.range' first count := by
    rw [List.mem_range'_1]
    exact ⟨hfirst, hlast⟩
  have hdigit := htable c.toNat hmem
  rwa [Char.ofNat_toNat] at hdigit

/-- What counts as a hexadecimal digit is a digit of base sixteen, in either case. -/
theorem hexValue?_eq_some_iff {c : Char} {value : Nat} :
    Json.hexValue? c = some value ↔ IsDigit 16 c value := by
  constructor
  · intro h
    unfold Json.hexValue? at h
    split_ifs at h with hdigit hlower hupper
    · obtain rfl := Option.some.inj h
      exact isDigit_of_table 16 48 10 (fun n => n - 48) (by decide) hdigit.1 (Nat.lt_succ_of_le hdigit.2)
    · obtain rfl := Option.some.inj h
      exact isDigit_of_table 16 97 6 (fun n => n - 97 + 10) (by decide) hlower.1
        (Nat.lt_succ_of_le hlower.2)
    · obtain rfl := Option.some.inj h
      exact isDigit_of_table 16 65 6 (fun n => n - 65 + 10) (by decide) hupper.1
        (Nat.lt_succ_of_le hupper.2)
  · rintro ⟨hlt, hc⟩
    have htable : ∀ value < 16, Json.hexValue? (Nat.digitChar value) = some value ∧
        Json.hexValue? (Nat.digitChar value).toUpper = some value := by decide
    rcases hc with rfl | rfl
    · exact (htable value hlt).1
    · exact (htable value hlt).2

/-- The digits of base ten are those of ASCII. -/
theorem isDigit_ten_iff {c : Char} {value : Nat} :
    IsDigit 10 c value ↔ c.isDigit = true ∧ c.toNat - '0'.toNat = value := by
  constructor
  · rintro ⟨hlt, hc⟩
    have htable : ∀ value < 10,
        ((Nat.digitChar value).isDigit = true ∧ (Nat.digitChar value).toNat - '0'.toNat = value) ∧
          (Nat.digitChar value).toUpper = Nat.digitChar value := by decide
    obtain ⟨hdigit, hupper⟩ := htable value hlt
    rw [hupper, or_self] at hc
    rwa [hc]
  · rintro ⟨hdigit, rfl⟩
    rw [Char.isDigit, Bool.and_eq_true, decide_eq_true_iff, decide_eq_true_iff] at hdigit
    exact isDigit_of_table 10 48 10 (fun n => n - 48) (by decide) hdigit.1 (Nat.lt_succ_of_le hdigit.2)

theorem Spells.ne_nil {base n : Nat} {digits : List Char} (h : Spells base digits n) : digits ≠ [] := by
  cases h with
  | digit _ => simp
  | append _ _ => simp

theorem Spells.isDigit_of_mem {base n : Nat} {digits : List Char} (h : Spells base digits n) :
    ∀ c ∈ digits, ∃ value, IsDigit base c value := by
  induction h with
  | digit hdigit =>
    intro c hc
    rw [List.mem_singleton.1 hc]
    exact ⟨_, hdigit⟩
  | append _ hdigit ih =>
    intro c hc
    rcases List.mem_append.1 hc with hc | hc
    · exact ih c hc
    · rw [List.mem_singleton.1 hc]
      exact ⟨_, hdigit⟩

/-- What a reader of digits takes in one after the other is the number that they spell. -/
theorem spells_iff_foldl {base n : Nat} {digits : List Char} {value? : Char → Option Nat}
    (hvalue : ∀ c value, value? c = some value ↔ IsDigit base c value) :
    Spells base digits n ↔ digits ≠ [] ∧
      digits.foldl (fun n c => do return (← n) * base + (← value? c)) (some 0) = some n := by
  constructor
  · intro h
    refine ⟨h.ne_nil, ?_⟩
    induction h with
    | digit hdigit => simp [(hvalue _ _).2 hdigit]
    | append _ hdigit ih =>
      rw [List.foldl_append, ih]
      simp [(hvalue _ _).2 hdigit]
  · rintro ⟨hne, hfold⟩
    -- the last digit is the one that is taken in last
    induction digits using List.reverseRecOn generalizing n with
    | nil => exact absurd rfl hne
    | append_singleton digits c ih =>
      rw [List.foldl_append] at hfold
      obtain ⟨m, hm, hfold⟩ := Option.bind_eq_some_iff.1 hfold
      obtain ⟨value, hc, hn⟩ := Option.bind_eq_some_iff.1 hfold
      obtain rfl : m * base + value = n := Option.some.inj hn
      have hdigit := (hvalue c value).1 hc
      by_cases hdigits : digits = []
      · subst hdigits
        obtain rfl : 0 = m := Option.some.inj hm
        rw [Nat.zero_mul, Nat.zero_add]
        exact .digit hdigit
      · exact .append (ih hdigits hm) hdigit

/-- Hexadecimal digits are read as the number that they spell. -/
theorem hexadecimal?_eq_some_iff {digits : List Char} {n : Nat} :
    hexadecimal? digits = some n ↔ Spells 16 digits n := by
  rw [spells_iff_foldl fun _ _ => hexValue?_eq_some_iff]
  unfold hexadecimal?
  rw [Option.ite_none_left_eq_some, List.isEmpty_iff]

/-- The value of a decimal digit. -/
def decimalValue? (c : Char) : Option Nat := if c.isDigit then some (c.toNat - '0'.toNat) else none

theorem decimalValue?_eq_some_iff {c : Char} {value : Nat} :
    decimalValue? c = some value ↔ IsDigit 10 c value := by
  rw [decimalValue?, Option.ite_none_right_eq_some, Option.some.injEq, isDigit_ten_iff]

/-- Decimal digits are read as the number that they spell. -/
theorem decimal?_eq_some_iff {digits : List Char} {n : Nat} :
    decimal? digits = some n ↔ Spells 10 digits n := by
  -- the two folds agree on digits, where the second one has no failure to pass on
  have hfold : ∀ (digits : List Char) (n : Nat), (∀ c ∈ digits, c.isDigit = true) →
      digits.foldl (fun n c => do return (← n) * 10 + (← decimalValue? c)) (some n) =
        some (digits.foldl (fun n c => n * 10 + (c.toNat - '0'.toNat)) n) := by
    intro digits
    induction digits with
    | nil => exact fun n _ => rfl
    | cons c digits ih =>
      intro n hall
      have hc : decimalValue? c = some (c.toNat - '0'.toNat) := if_pos (hall c List.mem_cons_self)
      rw [List.foldl_cons, List.foldl_cons, hc]
      exact ih _ fun d hd => hall d (List.mem_cons_of_mem c hd)
  have hiff : Spells 10 digits n ↔ _ := spells_iff_foldl fun _ _ => decimalValue?_eq_some_iff
  unfold decimal?
  rw [Option.ite_none_left_eq_some, not_or, not_not, List.isEmpty_iff, List.all_eq_true]
  constructor
  · rintro ⟨⟨hne, hall⟩, hn⟩
    rw [hiff, hfold digits 0 hall]
    exact ⟨hne, hn⟩
  · intro h
    have hall : ∀ c ∈ digits, c.isDigit = true := by
      intro c hc
      obtain ⟨value, hdigit⟩ := h.isDigit_of_mem c hc
      exact (isDigit_ten_iff.1 hdigit).1
    rw [hiff, hfold digits 0 hall] at h
    exact ⟨⟨h.1, hall⟩, h.2⟩

/-! ## Bodies of references -/

/-- What stands between `&` and `;` in a reference, and the character that it stands for. Only numbers of
characters can be spelled. -/
inductive Body : List Char → Char → Prop where
  | amp : Body ['a', 'm', 'p'] '&'
  | lt : Body ['l', 't'] '<'
  | gt : Body ['g', 't'] '>'
  | quot : Body ['q', 'u', 'o', 't'] '"'
  | apos : Body ['a', 'p', 'o', 's'] '\''
  | decimal {digits : List Char} {c : Char} : Spells 10 digits c.toNat → Body ('#' :: digits) c
  | hexadecimal {x : Char} {digits : List Char} {c : Char} :
      x = 'x' ∨ x = 'X' → Spells 16 digits c.toNat → Body ('#' :: x :: digits) c

/-- A hexadecimal body with a plus sign in front of its digits. -/
inductive SignedBody : List Char → Char → Prop where
  | hexadecimal {x : Char} {digits : List Char} {c : Char} :
      x = 'x' ∨ x = 'X' → Spells 16 digits c.toNat → SignedBody ('#' :: x :: '+' :: digits) c

/-- The bodies that decoding accepts. -/
def Accepted (body : List Char) (c : Char) : Prop := Body body c ∨ SignedBody body c

/-- A number stands for the character with this number, if there is one. -/
theorem charOfNumber?_eq_some_iff {n : Nat} {c : Char} : charOfNumber? n = some c ↔ c.toNat = n := by
  unfold charOfNumber?
  rw [Option.ite_none_right_eq_some, Option.some.injEq]
  constructor
  · rintro ⟨hvalid, rfl⟩
    rw [Char.ofNat, dif_pos hvalid]
    rfl
  · rintro rfl
    exact ⟨c.valid, Char.ofNat_toNat c⟩

/-- The characters that occur in bodies. -/
def bodyAlphabet : List Char := "#xX+0123456789abcdefABCDEFglmopqstu".toList

theorem IsDigit.mem_alphabet {base value : Nat} {c : Char} (h : IsDigit base c value)
    (hbase : base ≤ 16) : c ∈ bodyAlphabet ∧ c ≠ '+' ∧ c ≠ 'x' ∧ c ≠ 'X' := by
  have htable : ∀ value < 16, [Nat.digitChar value, (Nat.digitChar value).toUpper].all (fun c =>
      decide (c ∈ bodyAlphabet ∧ c ≠ '+' ∧ c ≠ 'x' ∧ c ≠ 'X')) = true := by decide +kernel
  have hmem : c ∈ [Nat.digitChar value, (Nat.digitChar value).toUpper] := by simpa using h.2
  exact of_decide_eq_true (List.all_eq_true.1 (htable value (h.1.trans_le hbase)) c hmem)

/-- Digits start with a digit. -/
theorem Spells.head_ne {base n : Nat} {digits : List Char} (h : Spells base digits n)
    (hbase : base ≤ 16) :
    digits.head? ≠ some '+' ∧ digits.head? ≠ some 'x' ∧ digits.head? ≠ some 'X' := by
  obtain ⟨c, rest, rfl⟩ := List.exists_cons_of_ne_nil h.ne_nil
  obtain ⟨value, hdigit⟩ := h.isDigit_of_mem c List.mem_cons_self
  obtain ⟨-, hplus, hx, hX⟩ := hdigit.mem_alphabet hbase
  simp [hplus, hx, hX]

theorem bodyNumber?_signed {x : Char} (hx : x = 'x' ∨ x = 'X') (digits : List Char) :
    bodyNumber? (x :: '+' :: digits) = hexadecimal? digits := by
  rcases hx with rfl | rfl <;> rfl

theorem bodyNumber?_unsigned {x : Char} (hx : x = 'x' ∨ x = 'X') {digits : List Char}
    (hplus : digits.head? ≠ some '+') : bodyNumber? (x :: digits) = hexadecimal? digits := by
  cases digits with
  | nil => rcases hx with rfl | rfl <;> rfl
  | cons c digits =>
    have hc : c ≠ '+' := by simpa using hplus
    rcases hx with rfl | rfl <;> simp [bodyNumber?, hc]

theorem bodyNumber?_digits {digits : List Char} (hx : digits.head? ≠ some 'x')
    (hX : digits.head? ≠ some 'X') : bodyNumber? digits = decimal? digits := by
  cases digits with
  | nil => rfl
  | cons c digits =>
    rw [List.head?_cons, ne_eq, Option.some.injEq] at hx hX
    simp [bodyNumber?, hx, hX]

/-- A number is spelled in decimal digits, or in hexadecimal ones behind an `x` and perhaps a sign. -/
theorem bodyNumber?_eq_some_iff {text : List Char} {n : Nat} :
    bodyNumber? text = some n ↔ Spells 10 text n ∨
      ∃ x digits, (x = 'x' ∨ x = 'X') ∧ (text = x :: digits ∨ text = x :: '+' :: digits) ∧
        Spells 16 digits n := by
  constructor
  · intro h
    unfold bodyNumber? at h
    split at h
    · exact Or.inr ⟨'x', _, Or.inl rfl, Or.inr rfl, hexadecimal?_eq_some_iff.1 h⟩
    · exact Or.inr ⟨'X', _, Or.inr rfl, Or.inr rfl, hexadecimal?_eq_some_iff.1 h⟩
    · exact Or.inr ⟨'x', _, Or.inl rfl, Or.inl rfl, hexadecimal?_eq_some_iff.1 h⟩
    · exact Or.inr ⟨'X', _, Or.inr rfl, Or.inl rfl, hexadecimal?_eq_some_iff.1 h⟩
    · exact Or.inl (decimal?_eq_some_iff.1 h)
  · rintro (h | ⟨x, digits, hx, rfl | rfl, h⟩)
    · obtain ⟨-, hx, hX⟩ := h.head_ne (by decide)
      rw [bodyNumber?_digits hx hX]
      exact decimal?_eq_some_iff.2 h
    · rw [bodyNumber?_unsigned hx (h.head_ne le_rfl).1]
      exact hexadecimal?_eq_some_iff.2 h
    · rw [bodyNumber?_signed hx]
      exact hexadecimal?_eq_some_iff.2 h

/-- The bodies that have a character are those that are accepted. -/
theorem bodyChar?_eq_some_iff {body : List Char} {c : Char} :
    bodyChar? body = some c ↔ Accepted body c := by
  constructor
  · intro h
    unfold bodyChar? at h
    split at h
    · obtain rfl := Option.some.inj h
      exact Or.inl .amp
    · obtain rfl := Option.some.inj h
      exact Or.inl .lt
    · obtain rfl := Option.some.inj h
      exact Or.inl .gt
    · obtain rfl := Option.some.inj h
      exact Or.inl .quot
    · obtain rfl := Option.some.inj h
      exact Or.inl .apos
    · obtain ⟨n, hn, hc⟩ := Option.bind_eq_some_iff.1 h
      obtain rfl := charOfNumber?_eq_some_iff.1 hc
      rcases bodyNumber?_eq_some_iff.1 hn with hn | ⟨x, digits, hx, rfl | rfl, hspells⟩
      · exact Or.inl (.decimal hn)
      · exact Or.inl (.hexadecimal hx hspells)
      · exact Or.inr (.hexadecimal hx hspells)
    · cases h
  -- a body that is a number stands for the character of the number
  · have hnumber : ∀ {number : List Char}, bodyNumber? number = some c.toNat →
        bodyChar? ('#' :: number) = some c := by
      intro number hn
      exact Option.bind_eq_some_iff.2 ⟨c.toNat, hn, charOfNumber?_eq_some_iff.2 rfl⟩
    rintro (h | h)
    · cases h with
      | amp => rfl
      | lt => rfl
      | gt => rfl
      | quot => rfl
      | apos => rfl
      | decimal hn => exact hnumber (bodyNumber?_eq_some_iff.2 (Or.inl hn))
      | hexadecimal hx hn =>
        exact hnumber (bodyNumber?_eq_some_iff.2 (Or.inr ⟨_, _, hx, Or.inl rfl, hn⟩))
    · cases h with
      | hexadecimal hx hn =>
        exact hnumber (bodyNumber?_eq_some_iff.2 (Or.inr ⟨_, _, hx, Or.inr rfl, hn⟩))

/-- A body stands for one character. -/
theorem Accepted.unique {body : List Char} {c d : Char} (hc : Accepted body c) (hd : Accepted body d) :
    c = d := by
  have h := bodyChar?_eq_some_iff.2 hc
  rw [bodyChar?_eq_some_iff.2 hd] at h
  exact (Option.some.inj h).symm

/-- A body with a sign is no body of the grammar. -/
theorem SignedBody.not_body {body : List Char} {c d : Char} (hc : SignedBody body c) :
    ¬ Body body d := by
  obtain ⟨hx, -⟩ := hc
  intro hd
  cases hd with
  | decimal hn =>
    obtain ⟨-, hne, hne'⟩ := hn.head_ne (by decide)
    rcases hx with rfl | rfl <;> simp at hne hne'
  | hexadecimal _ hn => exact (hn.head_ne le_rfl).1 rfl

/-- The characters of a body are letters, digits and signs. -/
theorem Accepted.subset_alphabet {body : List Char} {c : Char} (h : Accepted body c) :
    body ⊆ bodyAlphabet := by
  have hdigits : ∀ {base n : Nat} {digits : List Char}, Spells base digits n → base ≤ 16 →
      digits ⊆ bodyAlphabet := by
    intro base n digits hn hbase d hd
    obtain ⟨value, hdigit⟩ := hn.isDigit_of_mem d hd
    exact (hdigit.mem_alphabet hbase).1
  have hsharp : '#' ∈ bodyAlphabet := by decide +kernel
  have hplus : '+' ∈ bodyAlphabet := by decide +kernel
  have hletter : ∀ x, x = 'x' ∨ x = 'X' → x ∈ bodyAlphabet := by
    rintro x (rfl | rfl) <;> decide +kernel
  rcases h with h | h
  · cases h with
    | amp => decide +kernel
    | lt => decide +kernel
    | gt => decide +kernel
    | quot => decide +kernel
    | apos => decide +kernel
    | decimal hn => exact List.cons_subset.2 ⟨hsharp, hdigits hn (by decide)⟩
    | hexadecimal hx hn =>
      exact List.cons_subset.2 ⟨hsharp, List.cons_subset.2 ⟨hletter _ hx, hdigits hn le_rfl⟩⟩
  · cases h with
    | hexadecimal hx hn =>
      exact List.cons_subset.2 ⟨hsharp, List.cons_subset.2 ⟨hletter _ hx,
        List.cons_subset.2 ⟨hplus, hdigits hn le_rfl⟩⟩⟩

/-- An accepted body holds neither the start of a reference nor its end, and has a byte a character. -/
theorem Accepted.plain {body : List Char} {c : Char} (h : Accepted body c) :
    '&' ∉ body ∧ ';' ∉ body ∧ (Text.Utf8.encode body).length = body.length := by
  have htable : '&' ∉ bodyAlphabet ∧ ';' ∉ bodyAlphabet ∧
      (bodyAlphabet.all fun d => (String.utf8EncodeChar d).length == 1) = true := by decide +kernel
  have hsubset := h.subset_alphabet
  have hlength : ∀ d ∈ body, (String.utf8EncodeChar d).length = 1 := by
    intro d hd
    simpa using List.all_eq_true.1 htable.2.2 d (hsubset hd)
  refine ⟨fun hd => htable.1 (hsubset hd), fun hd => htable.2.1 (hsubset hd), ?_⟩
  rw [Text.Utf8.encode, List.length_flatMap, List.map_congr_left hlength]
  simp

/-! ## References -/

/-- A reference with a body of a grammar: `&`, a body of at most ten bytes without a semicolon, and `;`. -/
def IsReference (grammar : List Char → Char → Prop) (text : List Char) (c : Char) : Prop :=
  ∃ body, text = '&' :: (body ++ [';']) ∧ ';' ∉ body ∧ (Text.Utf8.encode body).length ≤ 10 ∧
    grammar body c

/-- A reference of one grammar is one of any wider grammar. -/
theorem IsReference.mono {first second : List Char → Char → Prop} {text : List Char} {c : Char}
    (hgrammar : ∀ body d, first body d → second body d) (h : IsReference first text c) :
    IsReference second text c := by
  obtain ⟨body, htext, hsemicolon, hbytes, hbody⟩ := h
  exact ⟨body, htext, hsemicolon, hbytes, hgrammar body c hbody⟩

/-- Searching the first semicolon divides a text at it. -/
theorem takeWhile_semicolon {body : List Char} (h : ';' ∉ body) (rest : List Char) :
    (body ++ ';' :: rest).takeWhile (· ≠ ';') = body ∧
      (body ++ ';' :: rest).dropWhile (· ≠ ';') = ';' :: rest := by
  have hbody : ∀ c ∈ body, decide (c ≠ ';') = true := by
    intro c hc
    simpa using ne_of_mem_of_not_mem hc h
  rw [List.takeWhile_append_of_pos hbody, List.dropWhile_append_of_pos hbody]
  simp

/-- Reading a reference behind its `&` finds exactly the accepted ones. -/
theorem reference?_eq_some_iff {text rest : List Char} {c : Char} :
    reference? text = some (c, rest) ↔
      ∃ reference, IsReference Accepted reference c ∧ '&' :: text = reference ++ rest := by
  constructor
  · intro h
    have hsplit := List.takeWhile_append_dropWhile (p := (· ≠ ';')) (l := text)
    have hsemicolon : ';' ∉ text.takeWhile (· ≠ ';') := fun hmem => by
      simpa using List.mem_takeWhile_imp hmem
    unfold reference? at h
    dsimp only at h
    split at h
    · cases h
    · rename_i d tail hdrop
      rw [Option.ite_none_right_eq_some] at h
      obtain ⟨hlength, h⟩ := h
      obtain ⟨e, hbody, he⟩ := Option.map_eq_some_iff.1 h
      obtain ⟨rfl, rfl⟩ := Prod.mk.inj he
      have hbody := bodyChar?_eq_some_iff.1 hbody
      -- the search stops at a semicolon only
      obtain rfl : d = ';' := by
        have hd := List.head?_dropWhile_not (fun d : Char => decide (d ≠ ';')) text
        rw [hdrop] at hd
        simpa using hd
      refine ⟨_, ⟨text.takeWhile (· ≠ ';'), rfl, hsemicolon, ?_, hbody⟩, ?_⟩
      · rw [hbody.plain.2.2]
        exact hlength
      · rw [List.cons_append, List.append_assoc, List.singleton_append, ← hdrop, hsplit]
  · rintro ⟨reference, ⟨body, rfl, hsemicolon, hbytes, hbody⟩, heq⟩
    rw [List.cons_append, List.append_assoc, List.singleton_append, List.cons.injEq] at heq
    obtain ⟨htake, hdrop⟩ := takeWhile_semicolon hsemicolon rest
    rw [hbody.plain.2.2] at hbytes
    unfold reference?
    dsimp only
    rw [heq.2, htake, hdrop]
    dsimp only
    rw [if_pos (show body.length ≤ maxBody from hbytes), bodyChar?_eq_some_iff.2 hbody]
    rfl

section Prefixes

variable {first second : List Char → Char → Prop} {text reference other : List Char} {c d : Char}

/-- At one place of a text stands at most one reference. -/
theorem IsReference.eq_of_prefix (h : IsReference first reference c) (h' : IsReference second other d)
    (hbegin : reference <+: text) (hbegin' : other <+: text) : reference = other := by
  obtain ⟨body, rfl, hsemicolon, -, -⟩ := h
  obtain ⟨body', rfl, hsemicolon', -, -⟩ := h'
  obtain ⟨rest, rfl⟩ := hbegin
  obtain ⟨rest', heq⟩ := hbegin'
  simp only [List.cons_append, List.append_assoc, List.nil_append, List.cons.injEq, true_and] at heq
  have htake := congrArg (List.takeWhile (· ≠ ';')) heq
  rw [(takeWhile_semicolon hsemicolon rest).1, (takeWhile_semicolon hsemicolon' rest').1] at htake
  rw [htake]

theorem IsReference.head_of_prefix (h : IsReference first reference c) {rest : List Char}
    (hbegin : reference <+: d :: rest) : d = '&' := by
  obtain ⟨body, rfl, -⟩ := h
  exact (List.cons_prefix_cons.1 hbegin).1.symm

end Prefixes

/-! ## Translations -/

/-- The translation of a text by a scan from left to right: a reference at the place of the scan is replaced
by its character, and any other character is copied. What was written is not looked at again. -/
inductive Translation (grammar : List Char → Char → Prop) : List Char → List Char → Prop where
  | nil : Translation grammar [] []
  | replace {reference rest output : List Char} {c : Char} :
      IsReference grammar reference c → Translation grammar rest output →
      Translation grammar (reference ++ rest) (c :: output)
  | copy {c : Char} {rest output : List Char} :
      (∀ reference d, IsReference grammar reference d → ¬ reference <+: c :: rest) →
      Translation grammar rest output → Translation grammar (c :: rest) (c :: output)

section Translations

variable {grammar : List Char → Char → Prop} {text reference rest output : List Char} {c : Char}

/-- A reference at the start of a text is replaced. -/
theorem Translation.of_reference (hunique : ∀ body c d, grammar body c → grammar body d → c = d)
    (href : IsReference grammar reference c) (h : Translation grammar (reference ++ rest) output) :
    ∃ more, output = c :: more ∧ Translation grammar rest more := by
  generalize htext : reference ++ rest = text at h
  cases h with
  | nil =>
    obtain ⟨body, rfl, -⟩ := href
    cases htext
  | replace href' hrest =>
    rename_i other rest' output' d
    obtain rfl : reference = other :=
      href.eq_of_prefix href' (List.prefix_append reference rest) ⟨rest', htext.symm⟩
    obtain rfl : rest = rest' := List.append_cancel_left htext
    obtain ⟨body, hbody, -, -, hc⟩ := href
    obtain ⟨body', hbody', -, -, hd⟩ := href'
    obtain rfl : body = body' := by simpa [hbody] using hbody'
    obtain rfl : c = d := hunique body c d hc hd
    exact ⟨output', rfl, hrest⟩
  | copy hnone _ => exact absurd ⟨rest, htext⟩ (hnone reference c href)

/-- A character that starts no reference is copied. -/
theorem Translation.of_copy (hnone : ∀ reference d, IsReference grammar reference d → ¬ reference <+: c :: rest)
    (h : Translation grammar (c :: rest) output) :
    ∃ more, output = c :: more ∧ Translation grammar rest more := by
  generalize htext : c :: rest = text at h
  cases h with
  | nil => cases htext
  | replace href _ => exact absurd (htext ▸ List.prefix_append _ _) (hnone _ _ href)
  | copy _ hrest =>
    obtain ⟨rfl, rfl⟩ := List.cons.inj htext
    exact ⟨_, rfl, hrest⟩

/-- Characters other than `&` are copied. -/
theorem Translation.of_plain {plain : List Char} (hamp : '&' ∉ plain)
    (h : Translation grammar (plain ++ rest) output) :
    ∃ more, output = plain ++ more ∧ Translation grammar rest more := by
  induction plain generalizing output with
  | nil => exact ⟨output, rfl, h⟩
  | cons d plain ih =>
    rw [List.mem_cons, not_or] at hamp
    obtain ⟨copied, rfl, hcopied⟩ := h.of_copy fun reference e href hbegin =>
      hamp.1 (href.head_of_prefix hbegin).symm
    obtain ⟨more, rfl, hmore⟩ := ih hamp.2 hcopied
    exact ⟨more, rfl, hmore⟩

/-- A text has at most one translation. -/
theorem Translation.unique (hunique : ∀ body c d, grammar body c → grammar body d → c = d)
    {other : List Char} (h : Translation grammar text output) (h' : Translation grammar text other) :
    output = other := by
  induction h generalizing other with
  | nil =>
    generalize htext : [] = text at h'
    cases h' with
    | nil => rfl
    | replace href _ =>
      obtain ⟨body, rfl, -⟩ := href
      cases htext
    | copy _ _ => cases htext
  | replace href _ ih =>
    obtain ⟨more, rfl, hmore⟩ := h'.of_reference hunique href
    rw [ih hmore]
  | copy hnone _ ih =>
    obtain ⟨more, rfl, hmore⟩ := h'.of_copy hnone
    rw [ih hmore]

/-- Every text has a translation. -/
theorem exists_translation (grammar : List Char → Char → Prop) (text : List Char) :
    ∃ output, Translation grammar text output := by
  induction hlength : text.length using Nat.strong_induction_on generalizing text with
  | _ n ih =>
    by_cases hsome : ∃ reference c, IsReference grammar reference c ∧ reference <+: text
    · obtain ⟨reference, c, href, rest, rfl⟩ := hsome
      have hshorter : rest.length < n := by
        obtain ⟨body, rfl, -⟩ := href
        simp only [List.length_append, List.length_cons] at hlength
        omega
      obtain ⟨output, houtput⟩ := ih rest.length hshorter rest rfl
      exact ⟨c :: output, .replace href houtput⟩
    · cases text with
      | nil => exact ⟨[], .nil⟩
      | cons c rest =>
        obtain ⟨output, houtput⟩ := ih rest.length (by simp [← hlength]) rest rfl
        refine ⟨c :: output, .copy ?_ houtput⟩
        intro reference d href hbegin
        exact hsome ⟨reference, d, href, hbegin⟩

end Translations

/-- Decoding translates the references that it accepts. -/
theorem translation_decodeChars (text : List Char) : Translation Accepted text (decodeChars text) := by
  fun_induction decodeChars text with
  | case1 => exact .nil
  | case2 rest d after href _ ih =>
    obtain ⟨reference, href, heq⟩ := reference?_eq_some_iff.1 href
    rw [heq]
    exact .replace href ih
  | case3 rest hnone ih =>
    refine .copy ?_ ih
    rintro reference d href ⟨after, heq⟩
    rw [reference?_eq_some_iff.2 ⟨reference, href, heq.symm⟩] at hnone
    cases hnone
  | case4 c rest hc ih =>
    refine .copy ?_ ih
    intro reference d href hbegin
    exact hc (href.head_of_prefix hbegin)

/-! ## Signed references -/

/-- A hexadecimal reference with a sign stands somewhere in a text. -/
def HoldsSigned (text : List Char) : Prop :=
  ∃ reference c, IsReference SignedBody reference c ∧ reference <:+: text

/-- A signed reference begins at the first character or behind it. -/
theorem holdsSigned_cons {c : Char} {rest : List Char} :
    HoldsSigned (c :: rest) ↔
      (∃ reference d, IsReference SignedBody reference d ∧ reference <+: c :: rest) ∨
        HoldsSigned rest := by
  simp only [HoldsSigned, List.infix_cons_iff, and_or_left, exists_or]

/-- A signed reference begins with an ampersand, so none begins in a text without one. -/
theorem holdsSigned_append {plain : List Char} (hamp : '&' ∉ plain) (rest : List Char) :
    HoldsSigned (plain ++ rest) ↔ HoldsSigned rest := by
  induction plain with
  | nil => rfl
  | cons c plain ih =>
    rw [List.mem_cons, not_or] at hamp
    rw [List.cons_append, holdsSigned_cons, ih hamp.2, or_iff_right]
    rintro ⟨reference, d, href, hbegin⟩
    exact hamp.1 (href.head_of_prefix hbegin).symm

/-- A reference holds a signed one only if it is signed itself. -/
theorem holdsSigned_reference {reference : List Char} {c : Char} (h : IsReference Accepted reference c)
    (rest : List Char) :
    HoldsSigned (reference ++ rest) ↔ IsReference SignedBody reference c ∨ HoldsSigned rest := by
  have href := h
  obtain ⟨body, rfl, -, -, hbody⟩ := h
  have hamp : '&' ∉ body ++ [';'] := by simpa using hbody.plain.1
  rw [List.cons_append, holdsSigned_cons, holdsSigned_append hamp]
  refine or_congr_left ⟨?_, ?_⟩
  · rintro ⟨signed, d, hsigned, hbegin⟩
    obtain rfl := hsigned.eq_of_prefix href hbegin (List.prefix_append _ rest)
    obtain ⟨body', hbody', hsemicolon, hbytes, hd⟩ := hsigned
    obtain rfl : body = body' := by simpa using hbody'
    rw [hbody.unique (Or.inr hd)]
    exact ⟨body, hbody', hsemicolon, hbytes, hd⟩
  · intro hsigned
    exact ⟨_, c, hsigned, List.prefix_append _ rest⟩

/-- A signed reference is none of the grammar without signs. -/
theorem IsReference.not_body_of_signed {reference : List Char} {c d : Char}
    (h : IsReference SignedBody reference c) : ¬ IsReference Body reference d := by
  obtain ⟨body, rfl, -, -, hsigned⟩ := h
  rintro ⟨body', hbody', -, -, hbody⟩
  obtain rfl : body = body' := by simpa using hbody'
  exact hsigned.not_body hbody

theorem Body.unique (body : List Char) (c d : Char) (hc : Body body c) (hd : Body body d) : c = d :=
  Accepted.unique (Or.inl hc) (Or.inl hd)

/-- The grammar copies a signed reference. -/
theorem Translation.of_signed {reference rest output : List Char} {c : Char}
    (href : IsReference SignedBody reference c) (h : Translation Body (reference ++ rest) output) :
    ∃ more, output = reference ++ more ∧ Translation Body rest more := by
  have hsigned := href
  obtain ⟨body, rfl, -, -, hbody⟩ := href
  have hamp : '&' ∉ body ++ [';'] := by simpa using (Accepted.plain (Or.inr hbody)).1
  have hnone : ∀ other d, IsReference Body other d → ¬ other <+: '&' :: (body ++ [';'] ++ rest) := by
    intro other d hother hbegin
    obtain rfl := hother.eq_of_prefix hsigned hbegin (List.prefix_append _ rest)
    exact hsigned.not_body_of_signed hother
  obtain ⟨copied, rfl, hcopied⟩ := h.of_copy hnone
  obtain ⟨more, rfl, hmore⟩ := hcopied.of_plain hamp
  exact ⟨more, rfl, hmore⟩

/-- Signed references are the only difference between what is accepted and the grammar, and each of them
makes what decoding writes shorter. -/
theorem Translation.compare {text shown output : List Char} (h : Translation Accepted text shown)
    (h' : Translation Body text output) :
    (shown = output ∧ ¬ HoldsSigned text) ∨ (shown.length < output.length ∧ HoldsSigned text) := by
  induction h generalizing output with
  | nil =>
    refine Or.inl ⟨Translation.unique Body.unique .nil h', ?_⟩
    rintro ⟨reference, c, ⟨body, rfl, -⟩, hinfix⟩
    cases List.infix_nil.1 hinfix
  | @replace reference rest shown c href _ ih =>
    rw [holdsSigned_reference href]
    by_cases hsigned : IsReference SignedBody reference c
    -- without signs the reference is copied, which is longer than the one character
    · obtain ⟨more, rfl, hmore⟩ := h'.of_signed hsigned
      have hlength : shown.length ≤ more.length := by
        rcases ih hmore with ⟨rfl, -⟩ | ⟨hlt, -⟩
        · exact le_rfl
        · exact hlt.le
      refine Or.inr ⟨?_, Or.inl hsigned⟩
      obtain ⟨body, rfl, -⟩ := hsigned
      simp only [List.length_cons, List.length_append, List.length_nil]
      omega
    · -- both translations replace a reference without a sign
      have hbody : IsReference Body reference c := by
        obtain ⟨body, hreference, hsemicolon, hbytes, hbody | hbody⟩ := href
        · exact ⟨body, hreference, hsemicolon, hbytes, hbody⟩
        · exact absurd ⟨body, hreference, hsemicolon, hbytes, hbody⟩ hsigned
      obtain ⟨more, rfl, hmore⟩ := h'.of_reference Body.unique hbody
      rw [or_iff_right hsigned, List.cons.injEq, eq_self, true_and, List.length_cons, List.length_cons,
        Nat.add_lt_add_iff_right]
      exact ih hmore
  | @copy c rest shown hnone _ ih =>
    -- what begins no reference with signs begins none without
    obtain ⟨more, rfl, hmore⟩ := h'.of_copy fun reference d href =>
      hnone reference d (href.mono fun _ _ => Or.inl)
    have hnot : ¬ ∃ reference d, IsReference SignedBody reference d ∧ reference <+: c :: rest := by
      rintro ⟨reference, d, href, hbegin⟩
      exact hnone reference d (href.mono fun _ _ => Or.inr) hbegin
    rw [holdsSigned_cons, or_iff_right hnot, List.cons.injEq, eq_self, true_and, List.length_cons,
      List.length_cons, Nat.add_lt_add_iff_right]
    exact ih hmore

/-! ## Decoding -/

/-- A text has one translation by the grammar of references. Decoding gives this translation exactly if the
text holds no signed reference; in every text it replaces the references of the grammar and the signed
ones. -/
theorem decode_translates_iff_unsigned (text : String) :
    (∃! output, Translation Body text.toList output) ∧
      (Translation Body text.toList (decode text).toList ↔ ¬ HoldsSigned text.toList) ∧
      Translation Accepted text.toList (decode text).toList := by
  have hdecode : Translation Accepted text.toList (decode text).toList := by
    rw [decode, String.toList_ofList]
    exact translation_decodeChars text.toList
  obtain ⟨output, houtput⟩ := exists_translation Body text.toList
  refine ⟨⟨output, houtput, fun other hother => hother.unique Body.unique houtput⟩, ?_, hdecode⟩
  constructor
  · intro h
    rcases hdecode.compare h with ⟨-, hnot⟩ | ⟨hlt, -⟩
    · exact hnot
    · exact absurd hlt (lt_irrefl _)
  · intro hnot
    rcases hdecode.compare houtput with ⟨heq, -⟩ | ⟨-, hsigned⟩
    · rwa [heq]
    · exact absurd hsigned hnot

/-- A sign in front of hexadecimal digits is accepted, although the grammar has none: by the grammar the
text holds no reference and is copied. -/
theorem decode_signed_reference :
    decode "&#x+41;" = "A" ∧ Translation Body "&#x+41;".toList "&#x+41;".toList ∧
      ¬ ∀ text : String, Translation Body text.toList (decode text).toList := by
  have hdigits : Spells 16 ['4', '1'] 'A'.toNat :=
    .append (.digit (by decide : IsDigit 16 '4' 4)) (by decide : IsDigit 16 '1' 1)
  have hsigned : IsReference SignedBody "&#x+41;".toList 'A' :=
    ⟨['#', 'x', '+', '4', '1'], by decide +kernel, by decide, by decide +kernel,
      .hexadecimal (Or.inl rfl) hdigits⟩
  have hdecode : decode "&#x+41;" = "A" := by decide +kernel
  obtain ⟨output, houtput⟩ := exists_translation Body "&#x+41;".toList
  have hcopy : output = "&#x+41;".toList := by
    have htext : Translation Body ("&#x+41;".toList ++ []) output := by rwa [List.append_nil]
    obtain ⟨more, rfl, hmore⟩ := htext.of_signed hsigned
    rw [Translation.unique Body.unique hmore .nil, List.append_nil]
  refine ⟨hdecode, hcopy ▸ houtput, ?_⟩
  intro hall
  have h := hall "&#x+41;"
  have heq := houtput.unique Body.unique h
  rw [hcopy, hdecode] at heq
  exact absurd heq (by decide +kernel)

end BenchScope.Markup
