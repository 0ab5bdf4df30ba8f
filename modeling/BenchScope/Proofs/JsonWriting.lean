import BenchScope.Json.Reader
import BenchScope.Json.Writer
import Mathlib.Tactic.IntervalCases

/-!
# Reading back what is written

A text between quotes is read back as it is, whatever follows it, and an object that is written without
blanks is read back member by member. `Rereads` says which members a reader of members has to give. The readers
of numbers and of plain values are given as equations, one for each way in which a text can go on.
-/

namespace BenchScope.Json

variable {α : Type}

/-! ## Quoted texts -/

/-- A control character is written with its number, and read back from it. -/
theorem hexEscape_control {n : Nat} (h : n < 32) (rest : List Char) :
    hexEscape ('0' :: '0' :: hexDigit (n / 16) :: hexDigit n :: rest) = .ok (n, rest) := by
  unfold hexEscape
  have hfour : hexFour? ('0' :: '0' :: hexDigit (n / 16) :: hexDigit n :: rest) = some (n, rest) := by
    interval_cases n <;> rfl
  rw [hfour]

/-- The number of a control character is no surrogate, so the escape means the character. -/
theorem unicodeEscape_control {c : Char} (h : c.toNat < 32) (rest : List Char) :
    unicodeEscape ('0' :: '0' :: hexDigit (c.toNat / 16) :: hexDigit c.toNat :: rest) = .ok (c, rest) := by
  have hlow : isLowSurrogate c.toNat = false := by
    simp only [isLowSurrogate, Bool.and_eq_false_iff, decide_eq_false_iff_not]
    omega
  have hhigh : isHighSurrogate c.toNat = false := by
    simp only [isHighSurrogate, Bool.and_eq_false_iff, decide_eq_false_iff_not]
    omega
  unfold unicodeEscape
  rw [hexEscape_control h]
  simp [bind, Except.bind, hlow, hhigh, Char.ofNat_toNat]

/-- What stands behind a backslash is one character of the text that is read. -/
theorem stringBody_escape {c : Char} {escaped rest : List Char}
    (h : escape (escaped ++ rest) = .ok (c, rest)) :
    stringBody ('\\' :: (escaped ++ rest)) =
      (stringBody rest).map fun read => (c :: read.1, read.2) := by
  rw [stringBody, if_neg (by decide), if_pos rfl]
  split
  · rename_i e herror
    rw [h] at herror
    cases herror
  · rename_i d after hread
    rw [h] at hread
    obtain ⟨rfl, rfl⟩ := Prod.mk.inj (Except.ok.inj hread)
    cases stringBody rest <;> rfl

/-- A character that needs no escape is read as it is. -/
theorem stringBody_plain {c : Char} (hquote : c ≠ '"') (hescape : c ≠ '\\') (hcontrol : ¬ c.toNat < 0x20)
    (rest : List Char) :
    stringBody (c :: rest) = (stringBody rest).map fun read => (c :: read.1, read.2) := by
  rw [stringBody, if_neg hquote, if_neg hescape, if_neg hcontrol]
  cases stringBody rest <;> rfl

/-- Every character is read back from what is written for it. -/
theorem stringBody_escapeChar (c : Char) (rest : List Char) :
    stringBody (escapeChar c ++ rest) = (stringBody rest).map fun read => (c :: read.1, read.2) := by
  have hshort : ∀ letter : Char, letter ≠ 'u' → shortEscape? letter = some c →
      stringBody ('\\' :: letter :: rest) = (stringBody rest).map fun read => (c :: read.1, read.2) := by
    intro letter hletter hread
    have hescape : escape ([letter] ++ rest) = .ok (c, rest) := by
      rw [List.singleton_append, escape, if_neg hletter, hread]
    exact stringBody_escape hescape
  -- two short escapes are chosen by the number of the character
  have hcode : ∀ n : Nat, c.toNat = n → c = Char.ofNat n := by
    intro n hn
    rw [← hn, Char.ofNat_toNat]
  unfold escapeChar
  by_cases hquote : c = '"'
  · rw [if_pos hquote]
    exact hshort '"' (by decide) (by rw [hquote]; rfl)
  rw [if_neg hquote]
  by_cases hslash : c = '\\'
  · rw [if_pos hslash]
    exact hshort '\\' (by decide) (by rw [hslash]; rfl)
  rw [if_neg hslash]
  by_cases hfeed : c = '\n'
  · rw [if_pos hfeed]
    exact hshort 'n' (by decide) (by rw [hfeed]; rfl)
  rw [if_neg hfeed]
  by_cases hreturn : c = '\r'
  · rw [if_pos hreturn]
    exact hshort 'r' (by decide) (by rw [hreturn]; rfl)
  rw [if_neg hreturn]
  by_cases htab : c = '\t'
  · rw [if_pos htab]
    exact hshort 't' (by decide) (by rw [htab]; rfl)
  rw [if_neg htab]
  by_cases hback : c.toNat = 8
  · rw [if_pos hback]
    exact hshort 'b' (by decide) (by rw [hcode 8 hback]; rfl)
  rw [if_neg hback]
  by_cases hform : c.toNat = 12
  · rw [if_pos hform]
    exact hshort 'f' (by decide) (by rw [hcode 12 hform]; rfl)
  rw [if_neg hform]
  by_cases hcontrol : c.toNat < 32
  · rw [if_pos hcontrol]
    have hescape : escape (['u', '0', '0', hexDigit (c.toNat / 16), hexDigit c.toNat] ++ rest) =
        .ok (c, rest) := unicodeEscape_control hcontrol rest
    exact stringBody_escape hescape
  · rw [if_neg hcontrol]
    exact stringBody_plain hquote hslash hcontrol rest

/-- What is written between quotes is read back up to the closing quote. -/
theorem stringBody_escaped (chars rest : List Char) :
    stringBody (chars.flatMap escapeChar ++ '"' :: rest) = .ok (chars, rest) := by
  induction chars with
  | nil =>
    rw [List.flatMap_nil, List.nil_append, stringBody, if_pos rfl]
  | cons c chars ih =>
    rw [List.flatMap_cons, List.append_assoc, stringBody_escapeChar, ih]
    rfl

/-! ## Numbers -/

/-- A number without an exponent mark ends behind its digits. -/
theorem afterDigits_other (negative : Bool) (significand : Nat) (exponent : Int) {text : List Char}
    (hlower : text.head? ≠ some 'e') (hupper : text.head? ≠ some 'E') :
    afterDigits negative significand exponent text = assemble negative significand exponent text := by
  unfold afterDigits
  split
  · exact absurd rfl hlower
  · exact absurd rfl hupper
  · rfl

/-- What the reader of numbers does behind the digits of the whole part. -/
def afterWhole (negative : Bool) (significand : Nat) (dropped : List Char) (text : List Char) :
    Except Fault (Json × List Char) :=
  match text with
  | '.' :: rest => fractionPart negative significand dropped.length rest
  | _ =>
    if dropped.isEmpty ∧ text.head? ≠ some 'e' ∧ text.head? ≠ some 'E' then
      .ok (wholeNumber negative significand, text)
    else afterDigits negative significand dropped.length text

/-- A number is read in two steps: the digits of its whole part, and what follows them. -/
theorem number_eq (negative : Bool) {c : Char} {tail : List Char} (hc : c.isDigit = true)
    (hzero : ¬ (c = '0' ∧ (tail.head?.map Char.isDigit).getD false = true)) :
    number negative (c :: tail) =
      afterWhole negative (gather 0 ((c :: tail).takeWhile Char.isDigit)).1
        (gather 0 ((c :: tail).takeWhile Char.isDigit)).2 ((c :: tail).dropWhile Char.isDigit) := by
  rw [number, if_neg (not_not.2 hc), if_neg hzero]
  rfl

namespace Read

/-- A text is read back from what is written between its quotes. -/
theorem quotedText_escaped (spelled : String) (rest : List Char) :
    quotedText (spelled.toList.flatMap escapeChar ++ '"' :: rest) = .ok (spelled, rest) := by
  unfold quotedText
  rw [stringBody_escaped]
  simp only [String.ofList_toList]

/-- A text is read back from what is written for it. -/
theorem text_quote (spelled : String) (rest : List Char) :
    text (quote spelled ++ rest) = .ok (spelled, rest) := by
  have hquote : quote spelled ++ rest = '"' :: (spelled.toList.flatMap escapeChar ++ '"' :: rest) := by
    simp [quote]
  rw [hquote]
  exact quotedText_escaped spelled rest

theorem compactChars_string (spelled : String) : compactChars (.string spelled) = quote spelled := rfl

/-! ## Objects -/

/-- The members of an object without blanks; a comma stands in front of all but the first. -/
def joined : Bool → List (String × Json) → List Char
  | _, [] => []
  | started, (key, value) :: members =>
    (if started then [','] else []) ++ (quote key ++ ':' :: (compactChars value ++ joined true members))

/-- The members of an object are written with commas between them. -/
theorem compactMembers_eq (members : List (String × Json)) :
    compactMembers members = joined false members := by
  induction members with
  | nil => rfl
  | cons member members ih =>
    obtain ⟨key, value⟩ := member
    cases members with
    | nil => simp [compactMembers, joined]
    | cons next more => simp [compactMembers, joined, ih]

/-- No member is written as nothing, so the text has fuel enough for the members. -/
theorem length_le_joined (started : Bool) (members : List (String × Json)) :
    members.length ≤ (joined started members).length := by
  induction members generalizing started with
  | nil => exact Nat.le_refl 0
  | cons member members ih =>
    have hmore := ih true
    simp only [joined, List.length_append, List.length_cons]
    omega

/-- The name in front of a written member is read back, behind the comma if there is one. -/
theorem nextName_joined (started : Bool) (name : String) (rest : List Char) :
    nextName (!started) ((if started then [','] else []) ++ (quote name ++ rest)) =
      .ok (some name, rest) := by
  have hread := quotedText_escaped name rest
  cases started with
  | true => simp [nextName, skipBlank, isSpace, quote, hread]
  | false => simp [nextName, skipBlank, isSpace, quote, hread]

/-- The values that a reader of members gives for members that are written, one after the other. -/
inductive Rereads (member : List α → String → Reader α) :
    List α → List (String × Json) → List α → Prop where
  | nil {before : List α} : Rereads member before [] before
  | cons {before values : List α} {key : String} {json : Json} {members : List (String × Json)} {value : α}
      (hread : ∀ rest, member before key (':' :: (compactChars json ++ rest)) = .ok (value, rest))
      (h : Rereads member (before ++ [value]) members values) :
      Rereads member before ((key, json) :: members) values

/-- The first of the members that are written is read, if its value is. -/
theorem members_joined_cons {member : List α → String → Reader α} {before : List α} {key : String} {json : Json}
    {written : List (String × Json)} {value : α} {rest : List Char}
    (hread : member before key (':' :: (compactChars json ++ (joined true written ++ '}' :: rest))) =
      .ok (value, joined true written ++ '}' :: rest)) (fuel : Nat) :
    members member (fuel + 1) before (joined (!before.isEmpty) ((key, json) :: written) ++ '}' :: rest) =
      members member fuel (before ++ [value]) (joined true written ++ '}' :: rest) := by
  have hname := nextName_joined (!before.isEmpty) key
    (':' :: (compactChars json ++ (joined true written ++ '}' :: rest)))
  rw [Bool.not_not] at hname
  have htext : joined (!before.isEmpty) ((key, json) :: written) ++ '}' :: rest =
      (if (!before.isEmpty) = true then [','] else []) ++
        (quote key ++ ':' :: (compactChars json ++ (joined true written ++ '}' :: rest))) := by
    simp [joined]
  rw [htext, members, hname]
  simp only [hread]

/-- Written members are read back one after the other, up to the closing bracket. -/
theorem members_joined {member : List α → String → Reader α} {before values : List α}
    {written : List (String × Json)} (h : Rereads member before written values) {fuel : Nat}
    (hfuel : written.length < fuel) (rest : List Char) :
    members member fuel before (joined (!before.isEmpty) written ++ '}' :: rest) =
      .ok (values, rest) := by
  induction h generalizing fuel with
  | nil =>
    obtain ⟨fuel, rfl⟩ : ∃ n, fuel = n + 1 := ⟨fuel - 1, by omega⟩
    rfl
  | @cons before values key json written value hread _ ih =>
    obtain ⟨fuel, rfl⟩ : ∃ n, fuel = n + 1 := ⟨fuel - 1, by omega⟩
    have hmore := ih (by simpa using hfuel : written.length < fuel)
    -- behind this member the object has started
    have hstarted : (before ++ [value]).isEmpty = false := by simp
    rw [hstarted] at hmore
    rw [members_joined_cons (hread _)]
    exact hmore

/-- An object is read back member by member. -/
theorem object_compact {expected : Expected} {depth : Nat} {member : Nat → List α → String → Reader α}
    {written : List (String × Json)} {values : List α} (h : Rereads (member depth) [] written values)
    (rest : List Char) :
    object expected (depth + 1) member (compactChars (.object written) ++ rest) = .ok (values, rest) := by
  have htext : compactChars (.object written) ++ rest =
      '{' :: (joined false written ++ '}' :: rest) := by
    simp [compactChars, compactMembers_eq]
  have hfuel : written.length < (joined false written ++ '}' :: rest).length + 1 := by
    have hlength := length_le_joined false written
    rw [List.length_append]
    omega
  rw [htext]
  exact members_joined h hfuel rest

/-! ## Plain values -/

/-- A value that begins with a bracket is a list, and its items may be one level less deep. -/
theorem valueWithin_list {text tail : List Char} (h : skipBlank text = '[' :: tail) (fuel depth : Nat) :
    valueWithin (fuel + 1) (depth + 1) text =
      (items (valueWithin fuel depth) (fuel + 1) true tail).map fun read => (.array read.1, read.2) := by
  rw [valueWithin]
  simp only [h]
  cases items (valueWithin fuel depth) (fuel + 1) true tail <;> rfl

/-- A value that begins with a brace is an object; of members with one name the last counts. -/
theorem valueWithin_object {text tail : List Char} (h : skipBlank text = '{' :: tail) (fuel depth : Nat) :
    valueWithin (fuel + 1) (depth + 1) text =
      (members (plainMember (valueWithin fuel depth)) (fuel + 1) [] tail).map
        fun read => (.object (Entries.ofPairs read.1), read.2) := by
  rw [valueWithin]
  simp only [h]
  cases members (plainMember (valueWithin fuel depth)) (fuel + 1) [] tail <;> rfl

theorem valueWithin_scalar {text : List Char} (hlist : (skipBlank text).head? ≠ some '[')
    (hobject : (skipBlank text).head? ≠ some '{') (fuel depth : Nat) :
    valueWithin (fuel + 1) depth text = scalar (skipBlank text) := by
  rw [valueWithin]
  split
  · rename_i hskip
    rw [hskip] at hlist
    exact absurd rfl hlist
  · rename_i hskip
    rw [hskip] at hobject
    exact absurd rfl hobject
  · rfl

/-- A document that a reader takes as a whole. -/
theorem document_ofList {reader : Reader α} {chars : List Char} {value : α}
    (h : reader chars = .ok (value, [])) : document reader (String.ofList chars) = .ok value := by
  unfold document
  simp only [String.toList_ofList, h]
  rfl

end Read

end BenchScope.Json
