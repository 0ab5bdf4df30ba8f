import BenchScope.Proofs.JsonWriting
import BenchScope.Proofs.ScriptData

/-!
# Reading data inside a script element

Wherever the reader takes a document, it takes the document with the four characters replaced, and gives the same
value. Each of its steps either looks at a character that is not replaced, or takes a whole quoted text; what it
leaves is what it leaves of the document, with the characters replaced.
-/

namespace BenchScope.Json

open Markup Grammar

/-! ## Reading quoted texts -/

/-- Four hexadecimal digits are read as their number, whatever text follows them. -/
theorem hexEscape_digits {digits : List Char} {n : Nat} (h : hexFour? digits = some (n, [])) (rest : List Char) :
    hexEscape (digits ++ rest) = .ok (n, rest) := by
  rw [hexEscape, (hexFour?_digits h).2 rest]

/-- What spells a character is read as this character. -/
theorem stringBody_spelling {piece : List Char} {c : Char} (h : Spelling piece c) (rest : List Char) :
    stringBody (piece ++ rest) = (stringBody rest).map fun read => (c :: read.1, read.2) := by
  cases h with
  | plain hquote hescape hcontrol => exact stringBody_plain hquote hescape (Nat.not_lt.2 hcontrol) rest
  | @short letter d hshort =>
    have hu : letter ≠ 'u' := by
      rintro rfl
      cases hshort
    have hescape : escape ([letter] ++ rest) = .ok (c, rest) := by
      rw [List.singleton_append, escape, if_neg hu, hshort]
    exact stringBody_escape hescape
  | @number digits n hdigits hlow hhigh =>
    have hescape : escape (('u' :: digits) ++ rest) = .ok (Char.ofNat n, rest) := by
      rw [List.cons_append, escape, if_pos rfl, unicodeEscape, hexEscape_digits hdigits]
      simp [bind, Except.bind, hlow, hhigh]
    exact stringBody_escape hescape
  | @pair first second high low hfirst hsecond hlow hhigh =>
    have hpaired : lowSurrogate high ('\\' :: 'u' :: (second ++ rest)) = .ok (pairedChar high low, rest) := by
      rw [lowSurrogate, hexEscape_digits hsecond]
      simp [bind, Except.bind, hlow]
    have hfirst' : isLowSurrogate high = false := by
      simp only [isHighSurrogate, Bool.and_eq_true, decide_eq_true_eq] at hhigh
      simp only [isLowSurrogate, Bool.and_eq_false_iff, decide_eq_false_iff_not]
      omega
    have hescape : escape (('u' :: (first ++ '\\' :: 'u' :: second)) ++ rest) = .ok (pairedChar high low, rest) := by
      rw [List.cons_append, escape, if_pos rfl, List.append_assoc, unicodeEscape, hexEscape_digits hfirst]
      simp [bind, Except.bind, hfirst', hhigh, hpaired]
    exact stringBody_escape hescape

/-- A quoted text is read as the characters that its pieces spell, up to its closing quote. -/
theorem stringBody_spelled {pieces : List (List Char)} {body : List Char} (h : List.Forall₂ Spelling pieces body)
    (rest : List Char) : stringBody (pieces.flatten ++ '"' :: rest) = .ok (body, rest) := by
  induction h with
  | nil =>
    rw [List.flatten_nil, List.nil_append, stringBody, if_pos rfl]
  | cons hpiece _ ih =>
    rw [List.flatten_cons, List.append_assoc, stringBody_spelling hpiece, ih]
    rfl

/-! ## Reading numbers -/

/-- A text that goes on with one of the four characters goes on with a backslash instead. -/
theorem scriptSafe_cases (text : List Char) :
    (text = [] ∧ scriptSafe text = []) ∨
      (∃ c rest, c ∉ scripted ∧ text = c :: rest ∧ scriptSafe text = c :: scriptSafe rest) ∨
      ∃ c rest more, c ∈ scripted ∧ text = c :: rest ∧ scriptSafe text = '\\' :: more := by
  cases text with
  | nil => exact .inl ⟨rfl, rfl⟩
  | cons c rest =>
    by_cases hc : c ∈ scripted
    · obtain ⟨more, hmore⟩ := scriptSafe_cons_of_mem hc rest
      exact .inr (.inr ⟨c, rest, more, hc, rfl, hmore⟩)
    · exact .inr (.inl ⟨c, rest, hc, rfl, scriptSafe_cons hc rest⟩)

/-- Making a number of its parts takes no text, so it succeeds in front of any text or of none. -/
theorem assemble_eq_ok {negative : Bool} {significand : Nat} {exponent : Int} {text rest : List Char} {value : Json}
    (h : assemble negative significand exponent text = .ok (value, rest)) :
    rest = text ∧ ∀ other, assemble negative significand exponent other = .ok (value, other) := by
  unfold assemble at h ⊢
  split at h
  · obtain ⟨rfl, rfl⟩ := Prod.mk.inj (Except.ok.inj h)
    exact ⟨rfl, fun _ => rfl⟩
  · cases h

/-- The digits of an exponent end at the same place, with the same value. -/
theorem exponentDigits_scriptSafe (exponent : Nat) (text : List Char) :
    exponentDigits exponent (scriptSafe text) =
      ((exponentDigits exponent text).1, scriptSafe (exponentDigits exponent text).2) := by
  induction text generalizing exponent with
  | nil => rfl
  | cons c rest ih =>
    by_cases hdigit : c.isDigit = true
    · rw [scriptSafe_cons (not_scripted_of_isDigit hdigit), exponentDigits, exponentDigits, if_pos hdigit,
        if_pos hdigit]
      dsimp only
      split
      · exact ih _
      · rfl
    · have hstop : exponentDigits exponent (c :: rest) = (some exponent, c :: rest) := by
        rw [exponentDigits, if_neg hdigit]
      rw [hstop]
      -- neither the character nor the backslash in its place is a digit
      by_cases hc : c ∈ scripted
      · obtain ⟨more, hmore⟩ := scriptSafe_cons_of_mem hc rest
        rw [hmore, exponentDigits, if_neg (by decide)]
      · rw [scriptSafe_cons hc, exponentDigits, if_neg hdigit]

/-- Neither sign of an exponent is among the four characters. -/
theorem exponentSign_scriptSafe (text : List Char) :
    exponentSign (scriptSafe text) = ((exponentSign text).1, scriptSafe (exponentSign text).2) := by
  have hother : ∀ {c : Char} (rest : List Char), c ≠ '+' → c ≠ '-' → exponentSign (c :: rest) = (false, c :: rest) := by
    intro c rest hplus hminus
    unfold exponentSign
    split
    · rename_i heq
      exact absurd (List.cons.inj heq).1 hplus
    · rename_i heq
      exact absurd (List.cons.inj heq).1 hminus
    · rfl
  have hplain : '+' ∉ scripted ∧ '-' ∉ scripted := by decide
  rcases scriptSafe_cases text with ⟨rfl, -⟩ | ⟨c, rest, hc, rfl, hsafe⟩ | ⟨c, rest, more, hc, rfl, hsafe⟩
  · rfl
  · rw [hsafe]
    by_cases hplus : c = '+'
    · rw [hplus]
      rfl
    by_cases hminus : c = '-'
    · rw [hminus]
      rfl
    · rw [hother _ hplus hminus, hother _ hplus hminus, hsafe]
  · have hplus : c ≠ '+' := fun h => hplain.1 (h ▸ hc)
    have hminus : c ≠ '-' := fun h => hplain.2 (h ▸ hc)
    rw [hsafe, hother _ hplus hminus, hother _ (by decide) (by decide), hsafe]

/-- The exponent behind a number is taken alike. If it overflows, the reader skips the digits that are
left, and they are the same digits. -/
theorem exponentPart_scriptSafe {negative : Bool} {significand : Nat} {start : Int} {text rest : List Char}
    {value : Json} (h : exponentPart negative significand start text = .ok (value, rest)) :
    exponentPart negative significand start (scriptSafe text) = .ok (value, scriptSafe rest) := by
  rw [exponentPart_eq] at h ⊢
  rw [exponentSign_scriptSafe]
  cases hafter : (exponentSign text).2 with
  | nil =>
    rw [hafter] at h
    cases h
  | cons c tail =>
    rw [hafter] at h
    dsimp only at h ⊢
    by_cases hc : c.isDigit = true
    · rw [if_pos hc] at h
      rw [scriptSafe_cons (not_scripted_of_isDigit hc)]
      dsimp only
      rw [if_pos hc, exponentDigits_scriptSafe]
      generalize exponentDigits (digitValue c) tail = read at h ⊢
      obtain ⟨e, left⟩ := read
      cases e with
      | some e =>
        obtain ⟨rfl, hassemble⟩ := assemble_eq_ok h
        exact hassemble _
      | none =>
        dsimp only at h ⊢
        split at h
        · cases h
        · rename_i hlarge
          obtain ⟨rfl, rfl⟩ := Prod.mk.inj (Except.ok.inj h)
          rw [if_neg hlarge, dropWhile_scriptSafe (by decide)]
    · rw [if_neg hc] at h
      cases h

theorem head?_scriptSafe {c : Char} (hc : c ∉ '\\' :: scripted) (text : List Char) :
    (scriptSafe text).head? = some c ↔ text.head? = some c := by
  obtain ⟨hslash, hplain⟩ := List.ne_and_not_mem_of_not_mem_cons hc
  rcases scriptSafe_cases text with ⟨rfl, hsafe⟩ | ⟨d, rest, -, rfl, hsafe⟩ | ⟨d, rest, more, hd, rfl, hsafe⟩
  · rw [hsafe]
  · rw [hsafe]
    rfl
  · rw [hsafe, List.head?_cons, List.head?_cons]
    refine iff_of_false (fun h => hslash (Option.some.inj h).symm) fun h => hplain ?_
    rwa [← Option.some.inj h]

/-- What decides whether a number goes on is its next character, which is replaced only if the number
ends there anyhow. -/
theorem afterDigits_scriptSafe {negative : Bool} {significand : Nat} {exponent : Int} {text rest : List Char}
    {value : Json} (h : afterDigits negative significand exponent text = .ok (value, rest)) :
    afterDigits negative significand exponent (scriptSafe text) = .ok (value, scriptSafe rest) := by
  by_cases hlower : text.head? = some 'e'
  · obtain ⟨tail, rfl⟩ := List.head?_eq_some_iff.1 hlower
    rw [scriptSafe_cons (by decide)]
    exact exponentPart_scriptSafe h
  by_cases hupper : text.head? = some 'E'
  · obtain ⟨tail, rfl⟩ := List.head?_eq_some_iff.1 hupper
    rw [scriptSafe_cons (by decide)]
    exact exponentPart_scriptSafe h
  · rw [afterDigits_other negative significand exponent hlower hupper] at h
    obtain ⟨rfl, hassemble⟩ := assemble_eq_ok h
    rw [← head?_scriptSafe (by decide)] at hlower hupper
    rw [afterDigits_other negative significand exponent hlower hupper]
    exact hassemble _

/-- A fraction is taken alike: the digits behind its point are the same. -/
theorem fractionPart_scriptSafe {negative : Bool} {significand : Nat} {exponent : Int} {text rest : List Char}
    {value : Json} (h : fractionPart negative significand exponent text = .ok (value, rest)) :
    fractionPart negative significand exponent (scriptSafe text) = .ok (value, scriptSafe rest) := by
  unfold fractionPart at h ⊢
  dsimp only at h ⊢
  rw [takeWhile_scriptSafe (by decide), dropWhile_scriptSafe (by decide)]
  split at h
  · split at h <;> cases h
  · rename_i hdigits
    rw [if_neg hdigits]
    exact afterDigits_scriptSafe h

/-- A whole part that is followed by no digit is followed by none after the replacement. -/
theorem startsDigit_scriptSafe (text : List Char) :
    ((scriptSafe text).head?.map Char.isDigit).getD false = (text.head?.map Char.isDigit).getD false := by
  rcases scriptSafe_cases text with ⟨rfl, hsafe⟩ | ⟨d, rest, -, rfl, hsafe⟩ | ⟨d, rest, more, hd, rfl, hsafe⟩
  · rw [hsafe]
  · rw [hsafe]
    rfl
  · have hdigit : d.isDigit = false := Bool.eq_false_iff.2 fun h => not_scripted_of_isDigit h hd
    rw [hsafe]
    simp [hdigit]

theorem afterWhole_scriptSafe {negative : Bool} {significand : Nat} {dropped text rest : List Char}
    {value : Json} (h : afterWhole negative significand dropped text = .ok (value, rest)) :
    afterWhole negative significand dropped (scriptSafe text) = .ok (value, scriptSafe rest) := by
  have hother : ∀ {text : List Char}, text.head? ≠ some '.' → afterWhole negative significand dropped text =
      if dropped.isEmpty ∧ text.head? ≠ some 'e' ∧ text.head? ≠ some 'E' then
        .ok (wholeNumber negative significand, text)
      else afterDigits negative significand dropped.length text := by
    intro text hpoint
    unfold afterWhole
    split
    · exact absurd rfl hpoint
    · rfl
  by_cases hpoint : text.head? = some '.'
  · obtain ⟨tail, rfl⟩ := List.head?_eq_some_iff.1 hpoint
    rw [scriptSafe_cons (by decide)]
    exact fractionPart_scriptSafe h
  · rw [hother hpoint] at h
    -- neither the point nor a mark of an exponent is replaced, and no replacement begins with one
    have hmarks : dropped.isEmpty ∧ (scriptSafe text).head? ≠ some 'e' ∧ (scriptSafe text).head? ≠ some 'E' ↔
        dropped.isEmpty ∧ text.head? ≠ some 'e' ∧ text.head? ≠ some 'E' := by
      rw [Ne, Ne, head?_scriptSafe (by decide), head?_scriptSafe (by decide)]
    rw [← head?_scriptSafe (by decide)] at hpoint
    rw [hother hpoint]
    split at h
    · rename_i hwhole
      obtain ⟨rfl, rfl⟩ := Prod.mk.inj (Except.ok.inj h)
      rw [if_pos (hmarks.2 hwhole)]
    · rename_i hwhole
      rw [if_neg (mt hmarks.1 hwhole)]
      exact afterDigits_scriptSafe h

/-- A number is taken alike, with or without the digits that a double has no room for. -/
theorem number_scriptSafe {negative : Bool} {text rest : List Char} {value : Json}
    (h : number negative text = .ok (value, rest)) :
    number negative (scriptSafe text) = .ok (value, scriptSafe rest) := by
  cases text with
  | nil => cases h
  | cons c tail =>
    have hc : c.isDigit = true := by
      by_contra hc
      rw [number, if_pos hc] at h
      cases h
    have hzero : ¬ (c = '0' ∧ (tail.head?.map Char.isDigit).getD false = true) := by
      intro hzero
      rw [number, if_neg (not_not.2 hc), if_pos hzero] at h
      cases h
    rw [number_eq negative hc hzero] at h
    have hsafe := scriptSafe_cons (not_scripted_of_isDigit hc) tail
    -- a second digit behind a zero would be one of the document, too
    rw [← startsDigit_scriptSafe] at hzero
    rw [hsafe, number_eq negative hc hzero, ← hsafe, takeWhile_scriptSafe (by decide),
      dropWhile_scriptSafe (by decide)]
    exact afterWhole_scriptSafe h

namespace Read

/-- A quoted text spells the same characters, and the reader stops behind the same quote. -/
theorem quotedText_scriptSafe {text rest : List Char} {spelled : String}
    (h : quotedText text = .ok (spelled, rest)) :
    quotedText (scriptSafe text) = .ok (spelled, scriptSafe rest) := by
  -- by the grammar and not by the reader, which would have to be followed into an escape
  obtain ⟨quoted, hquoted, htext⟩ := quotedText_sound h
  obtain ⟨pieces, hpieces, hsafe⟩ := hquoted.scriptSafe
  have htext' := congrArg scriptSafe htext
  rw [scriptSafe_cons quote_not_scripted, scriptSafe_append, hsafe, List.cons_append, List.append_assoc,
    List.singleton_append] at htext'
  rw [List.cons.inj htext' |>.2, quotedText, stringBody_spelled hpieces]
  simp only [String.ofList_toList]

/-! ## Reading words and numbers -/

theorem skipBlank_scriptSafe (text : List Char) : skipBlank (scriptSafe text) = scriptSafe (skipBlank text) :=
  dropWhile_scriptSafe (by decide) text

theorem skipBlank_scriptSafe_cons {text rest : List Char} {c : Char} (h : skipBlank text = c :: rest)
    (hc : c ∉ scripted) : skipBlank (scriptSafe text) = c :: scriptSafe rest := by
  rw [skipBlank_scriptSafe, h, scriptSafe_cons hc]

/-- A word is read alike if none of the four characters is in it. -/
theorem word_scriptSafe {expected text rest : List Char} (hexpected : expected.any (· ∈ scripted) = false)
    (h : word expected text = .ok rest) : word expected (scriptSafe text) = .ok (scriptSafe rest) := by
  obtain rfl := word_sound h
  clear h
  induction expected with
  | nil => rfl
  | cons e expected ih =>
    rw [List.any_cons, Bool.or_eq_false_iff, decide_eq_false_iff_not] at hexpected
    rw [List.cons_append, scriptSafe_cons hexpected.1, word, if_pos rfl, ih hexpected.2]

/-- The colon behind a name is found at the same place. -/
theorem colon_scriptSafe {text rest : List Char} (h : colon text = .ok rest) :
    colon (scriptSafe text) = .ok (scriptSafe rest) := by
  unfold colon at h
  split at h
  · rename_i tail hskip
    obtain rfl := Except.ok.inj h
    rw [colon, skipBlank_scriptSafe_cons hskip colon_not_scripted]
    rfl
  · cases h
  · cases h

theorem map_word_scriptSafe {expected text rest : List Char} {value read : Json}
    (hexpected : expected.any (· ∈ scripted) = false)
    (h : (word expected text).map (fun rest => (value, rest)) = .ok (read, rest)) :
    (word expected (scriptSafe text)).map (fun rest => (value, rest)) = .ok (read, scriptSafe rest) := by
  cases hword : word expected text with
  | error e =>
    rw [hword] at h
    cases h
  | ok after =>
    rw [hword] at h
    obtain ⟨rfl, rfl⟩ := Prod.mk.inj (Except.ok.inj h)
    rw [word_scriptSafe hexpected hword]
    rfl

/-- A value without items is read alike after the replacement. -/
theorem scalar_scriptSafe {text rest : List Char} {value : Json} (h : scalar text = .ok (value, rest)) :
    scalar (scriptSafe text) = .ok (value, scriptSafe rest) := by
  cases text with
  | nil => cases h
  | cons c tail =>
    -- no value begins with one of the four characters
    have hc : c ∉ scripted := by
      intro hc
      simp only [scripted, List.mem_cons, List.not_mem_nil, or_false] at hc
      rcases hc with rfl | rfl | rfl | rfl <;> cases h
    rw [scriptSafe_cons hc]
    unfold scalar at h ⊢
    dsimp only at h ⊢
    by_cases hn : c = 'n'
    · rw [if_pos hn] at h ⊢
      exact map_word_scriptSafe (by decide) h
    rw [if_neg hn] at h ⊢
    by_cases ht : c = 't'
    · rw [if_pos ht] at h ⊢
      exact map_word_scriptSafe (by decide) h
    rw [if_neg ht] at h ⊢
    by_cases hf : c = 'f'
    · rw [if_pos hf] at h ⊢
      exact map_word_scriptSafe (by decide) h
    rw [if_neg hf] at h ⊢
    by_cases hminus : c = '-'
    · rw [if_pos hminus] at h ⊢
      exact number_scriptSafe h
    rw [if_neg hminus] at h ⊢
    by_cases hdigit : c.isDigit = true
    · rw [if_pos hdigit] at h ⊢
      rw [← scriptSafe_cons hc]
      exact number_scriptSafe h
    rw [if_neg hdigit] at h ⊢
    by_cases hquote : c = '"'
    · rw [if_pos hquote] at h ⊢
      cases hread : quotedText tail with
      | error e =>
        rw [hread] at h
        cases h
      | ok read =>
        obtain ⟨spelled, after⟩ := read
        rw [hread] at h
        obtain ⟨rfl, rfl⟩ := Prod.mk.inj (Except.ok.inj h)
        rw [quotedText_scriptSafe hread]
        rfl
    · rw [if_neg hquote] at h
      cases h

/-! ## Reading arrays and objects -/

variable {α : Type}

/-- What one reader reads, another one reads alike after the replacement. -/
def Keeps (first second : Reader α) : Prop :=
  ∀ ⦃text : List Char⦄ ⦃value : α⦄ ⦃rest : List Char⦄, first text = .ok (value, rest) →
    second (scriptSafe text) = .ok (value, scriptSafe rest)

/-- A character that is not `stop` still does not begin with `stop` when it is replaced. -/
theorem exists_scriptSafe_cons {c stop : Char} (hc : c ≠ stop) (hstop : '\\' ≠ stop) (rest : List Char) :
    ∃ d more, scriptSafe (c :: rest) = d :: more ∧ d ≠ stop := by
  by_cases hmem : c ∈ scripted
  · obtain ⟨more, hmore⟩ := scriptSafe_cons_of_mem hmem rest
    exact ⟨_, more, hmore, hstop⟩
  · exact ⟨c, _, scriptSafe_cons hmem rest, hc⟩

/-- The reader finds the next item of a list at the same place, or the end of the list. -/
theorem nextItem_scriptSafe {first : Bool} {text rest : List Char} {start : Option (List Char)}
    (h : nextItem first text = .ok (start, rest)) :
    nextItem first (scriptSafe text) = .ok (start.map scriptSafe, scriptSafe rest) := by
  have hclose : ']' ∉ scripted := by decide
  have hcomma : ',' ∉ scripted := by decide
  unfold nextItem at h ⊢
  rw [skipBlank_scriptSafe]
  cases hskip : skipBlank text with
  | nil =>
    rw [hskip] at h
    cases h
  | cons c tail =>
    rw [hskip] at h
    dsimp only at h
    -- the end of the list is found as it is
    by_cases hc : c = ']'
    · rw [if_pos hc] at h
      obtain ⟨rfl, rfl⟩ := Prod.mk.inj (Except.ok.inj h)
      rw [hc, scriptSafe_cons hclose]
      rfl
    rw [if_neg hc] at h
    cases first with
    | true =>
      obtain ⟨rfl, rfl⟩ := Prod.mk.inj (Except.ok.inj h)
      -- a first item may begin with an escape now, but never with the closing bracket
      obtain ⟨d, more, hsafe, hd⟩ := exists_scriptSafe_cons hc (by decide) tail
      rw [Option.map_some, hsafe]
      exact if_neg hd
    | false =>
      rw [if_neg (by decide)] at h
      by_cases hseparator : c = ','
      · rw [if_pos hseparator] at h
        rw [hseparator, scriptSafe_cons hcomma]
        dsimp only
        rw [if_neg (by decide), if_neg (by decide), if_pos rfl, skipBlank_scriptSafe]
        cases hskip' : skipBlank tail with
        | nil =>
          rw [hskip'] at h
          cases h
        | cons d tail =>
          rw [hskip'] at h
          dsimp only at h
          by_cases hd : d = ']'
          · rw [if_pos hd] at h
            cases h
          rw [if_neg hd] at h
          obtain ⟨rfl, rfl⟩ := Prod.mk.inj (Except.ok.inj h)
          -- the same behind a comma
          obtain ⟨e, more, hsafe, he⟩ := exists_scriptSafe_cons hd (by decide) tail
          rw [Option.map_some, hsafe]
          exact if_neg he
      · rw [if_neg hseparator] at h
        cases h

/-- If an item is read alike, so are the items of a list, with any fuel that is not less. -/
theorem items_scriptSafe {item other : Reader α} (hitem : Keeps item other) {fuel more : Nat} (hfuel : fuel ≤ more)
    (first : Bool) : Keeps (items item fuel first) (items other more first) := by
  -- the replacement makes a text longer, so that the second reader may need more fuel
  induction fuel generalizing more first with
  | zero =>
    intro text values rest h
    cases h
  | succ fuel ih =>
    obtain ⟨more, rfl⟩ : ∃ n, more = n + 1 := ⟨more - 1, by omega⟩
    intro text values rest h
    rw [items] at h ⊢
    cases hnext : nextItem first text with
    | error e =>
      rw [hnext] at h
      cases h
    | ok read =>
      obtain ⟨start, after⟩ := read
      rw [hnext] at h
      rw [nextItem_scriptSafe hnext]
      cases start with
      | none =>
        obtain ⟨rfl, rfl⟩ := Prod.mk.inj (Except.ok.inj h)
        rfl
      | some start =>
        dsimp only [Option.map_some] at h ⊢
        cases hread : item start with
        | error e =>
          rw [hread] at h
          cases h
        | ok read =>
          obtain ⟨value, left⟩ := read
          rw [hread] at h
          rw [hitem hread]
          dsimp only at h ⊢
          cases htail : items item fuel false left with
          | error e =>
            rw [htail] at h
            cases h
          | ok read =>
            obtain ⟨values, tail⟩ := read
            rw [htail] at h
            rw [ih (by omega) false htail]
            obtain ⟨rfl, rfl⟩ := Prod.mk.inj (Except.ok.inj h)
            rfl

/-- The name of a member, from its opening quote on. -/
def memberName (text : List Char) : Except Fault (Option String × List Char) :=
  match text with
  | [] => peeked .endInValue []
  | d :: tail =>
    if d = '"' then
      match quotedText tail with
      | .error e => .error e
      | .ok (name, after) => .ok (some name, after)
    else if d = '}' then peeked .trailingComma (d :: tail)
    else peeked .keyMustBeString (d :: tail)

/-- The name of a member is the same. -/
theorem memberName_scriptSafe {text rest : List Char} {name : Option String}
    (h : memberName text = .ok (name, rest)) : memberName (scriptSafe text) = .ok (name, scriptSafe rest) := by
  unfold memberName at h
  split at h
  · cases h
  · rename_i d tail
    by_cases hd : d = '"'
    · rw [if_pos hd] at h
      split at h
      · cases h
      · rename_i spelled after hread
        obtain ⟨rfl, rfl⟩ := Prod.mk.inj (Except.ok.inj h)
        rw [hd, scriptSafe_cons quote_not_scripted, memberName, if_pos rfl, quotedText_scriptSafe hread]
    · rw [if_neg hd] at h
      split at h <;> cases h

/-- How the reader goes on from one member to the next, with the end of the object in front. -/
theorem nextName_eq (first : Bool) (text : List Char) :
    nextName first text = match skipBlank text with
      | [] => peeked .endInObject []
      | c :: rest =>
        if c = '}' then .ok (none, rest)
        else if ¬ first ∧ c ≠ ',' then peeked .expectedObjectCommaOrEnd (c :: rest)
        else memberName (if first then c :: rest else skipBlank rest) := rfl

/-- The reader finds the next member at the same place, with the same name, or the end of the object. -/
theorem nextName_scriptSafe {first : Bool} {text rest : List Char} {name : Option String}
    (h : nextName first text = .ok (name, rest)) :
    nextName first (scriptSafe text) = .ok (name, scriptSafe rest) := by
  have hclose : '}' ∉ scripted := by decide
  have hcomma : ',' ∉ scripted := by decide
  rw [nextName_eq] at h ⊢
  rw [skipBlank_scriptSafe]
  cases hskip : skipBlank text with
  | nil =>
    rw [hskip] at h
    cases h
  | cons c tail =>
    rw [hskip] at h
    dsimp only at h
    by_cases hc : c = '}'
    · rw [if_pos hc] at h
      obtain ⟨rfl, rfl⟩ := Prod.mk.inj (Except.ok.inj h)
      rw [hc, scriptSafe_cons hclose]
      rfl
    rw [if_neg hc] at h
    cases first with
    | true =>
      rw [if_neg (by simp), if_pos rfl] at h
      -- the name of a first member has not been looked at yet, so it is read from the replaced text
      obtain ⟨d, more, hsafe, hd⟩ := exists_scriptSafe_cons hc (by decide) tail
      have hmember := memberName_scriptSafe h
      rw [hsafe] at hmember ⊢
      dsimp only
      rw [if_neg hd, if_neg (by simp), if_pos rfl]
      exact hmember
    | false =>
      by_cases hseparator : c = ','
      · rw [if_neg (by simp [hseparator]), if_neg (by decide)] at h
        rw [hseparator, scriptSafe_cons hcomma]
        dsimp only
        rw [if_neg (by decide), if_neg (by simp), if_neg (by decide), skipBlank_scriptSafe]
        exact memberName_scriptSafe h
      · rw [if_pos (by simp [hseparator])] at h
        cases h

/-- If the value of every member is read alike, so are the members of an object, with any fuel that is
not less. -/
theorem members_scriptSafe {member other : List α → String → Reader α}
    (hmember : ∀ before name, Keeps (member before name) (other before name)) {fuel more : Nat}
    (hfuel : fuel ≤ more) (before : List α) : Keeps (members member fuel before) (members other more before) := by
  -- as for the items of a list, the second reader may need more fuel
  induction fuel generalizing more before with
  | zero =>
    intro text values rest h
    cases h
  | succ fuel ih =>
    obtain ⟨more, rfl⟩ : ∃ n, more = n + 1 := ⟨more - 1, by omega⟩
    intro text values rest h
    rw [members] at h ⊢
    cases hnext : nextName before.isEmpty text with
    | error e =>
      rw [hnext] at h
      cases h
    | ok read =>
      obtain ⟨name, after⟩ := read
      rw [hnext] at h
      rw [nextName_scriptSafe hnext]
      cases name with
      | none =>
        obtain ⟨rfl, rfl⟩ := Prod.mk.inj (Except.ok.inj h)
        rfl
      | some name =>
        dsimp only at h ⊢
        cases hread : member before name after with
        | error e =>
          rw [hread] at h
          cases h
        | ok read =>
          obtain ⟨value, left⟩ := read
          rw [hread] at h
          rw [hmember before name hread]
          exact ih (by omega) (before ++ [value]) h

theorem plainMember_scriptSafe {value other : Reader Json} (hvalue : Keeps value other)
    (before : List (String × Json)) (name : String) :
    Keeps (plainMember value before name) (plainMember other before name) := by
  intro text read rest h
  unfold plainMember at h ⊢
  cases hcolon : colon text with
  | error e =>
    rw [hcolon] at h
    cases h
  | ok after =>
    rw [hcolon] at h
    rw [colon_scriptSafe hcolon]
    dsimp only at h ⊢
    cases hread : value after with
    | error e =>
      rw [hread] at h
      cases h
    | ok result =>
      obtain ⟨v, left⟩ := result
      rw [hread] at h
      rw [hvalue hread]
      obtain ⟨rfl, rfl⟩ := Prod.mk.inj (Except.ok.inj h)
      rfl

theorem map_eq_ok {ε β γ : Type} {first : Except ε β} {f : β → γ} {read : γ} (h : first.map f = .ok read) :
    ∃ value, first = .ok value ∧ f value = read := by
  cases first with
  | error e => cases h
  | ok value => exact ⟨value, rfl, Except.ok.inj h⟩

/-- A value is read alike after the replacement, for which there must be fuel enough. -/
theorem valueWithin_scriptSafe {fuel more : Nat} (hfuel : fuel ≤ more) (depth : Nat) :
    Keeps (valueWithin fuel depth) (valueWithin more depth) := by
  induction fuel generalizing more depth with
  | zero =>
    intro text value rest h
    cases h
  | succ fuel ih =>
    obtain ⟨more, rfl⟩ : ∃ n, more = n + 1 := ⟨more - 1, by omega⟩
    have hmore : fuel ≤ more := by omega
    intro text value rest h
    -- what kind of value it is, its first character tells, and brackets are not replaced
    by_cases hlist : (skipBlank text).head? = some '['
    · obtain ⟨tail, hskip⟩ := List.head?_eq_some_iff.1 hlist
      have hskip' := skipBlank_scriptSafe_cons hskip (by decide)
      cases depth with
      | zero =>
        rw [valueWithin, hskip] at h
        cases h
      | succ depth =>
        rw [valueWithin_list hskip] at h
        obtain ⟨⟨values, left⟩, hitems, hread⟩ := map_eq_ok h
        obtain ⟨rfl, rfl⟩ := Prod.mk.inj hread
        rw [valueWithin_list hskip', items_scriptSafe (ih hmore depth) hfuel true hitems]
        rfl
    by_cases hobject : (skipBlank text).head? = some '{'
    · obtain ⟨tail, hskip⟩ := List.head?_eq_some_iff.1 hobject
      have hskip' := skipBlank_scriptSafe_cons hskip (by decide)
      cases depth with
      | zero =>
        rw [valueWithin, hskip] at h
        cases h
      | succ depth =>
        rw [valueWithin_object hskip] at h
        obtain ⟨⟨pairs, left⟩, hmembers, hread⟩ := map_eq_ok h
        obtain ⟨rfl, rfl⟩ := Prod.mk.inj hread
        rw [valueWithin_object hskip', members_scriptSafe (plainMember_scriptSafe (ih hmore depth)) hfuel [] hmembers]
        rfl
    · rw [valueWithin_scalar hlist hobject] at h
      rw [← head?_scriptSafe (by decide), ← skipBlank_scriptSafe] at hlist hobject
      rw [valueWithin_scalar hlist hobject, skipBlank_scriptSafe]
      exact scalar_scriptSafe h

/-- A document is read alike after the replacement. -/
theorem parse_scriptSafe {input : String} {v : Json} (h : parse input = .ok v) :
    parse (String.ofList (scriptSafe input.toList)) = .ok v := by
  unfold parse document at h ⊢
  dsimp only at h ⊢
  rw [String.toList_ofList]
  split at h
  · cases h
  · rename_i read rest hread
    have hlength := length_le_scriptSafe input.toList
    have hsafe : value maxDepth (scriptSafe input.toList) = .ok (read, scriptSafe rest) :=
      valueWithin_scriptSafe (by omega) maxDepth hread
    rw [hsafe]
    dsimp only
    split at h
    · rename_i hskip
      rw [skipBlank_scriptSafe, hskip]
      exact h
    · cases h

end Read

end BenchScope.Json
