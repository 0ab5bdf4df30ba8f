import BenchScope.Markup.Escape
import BenchScope.Report.Cell

/-!
# Text that markup cannot be broken by

A text is inert if it holds no angle bracket and no quote, and an ampersand only where it begins one of
the references that escaping writes. Escaped text is inert. So is every text that a table cell can show
for a number, since number texts are made of digits and a few letters and signs. Data for a script holds
none of the four characters that could end it early. Reading the references in escaped text gives the text
back.
-/

namespace BenchScope.Markup

/-- The references that escaping writes, after their ampersand. -/
def references : List (List Char) :=
  [['a', 'm', 'p', ';'], ['l', 't', ';'], ['g', 't', ';'], ['q', 'u', 'o', 't', ';'],
   ['#', '0', '3', '9', ';']]

/-- A text without angle brackets and quotes in which every ampersand begins a reference. -/
def Inert (text : List Char) : Prop :=
  (∀ c ∈ text, c ≠ '<' ∧ c ≠ '>' ∧ c ≠ '"' ∧ c ≠ '\'') ∧
  ∀ after, '&' :: after <:+ text → ∃ reference ∈ references, reference <+: after

theorem inert_nil : Inert [] := by
  constructor
  · intro c hc
    cases hc
  · intro after hsuffix
    cases List.suffix_nil.1 hsuffix

/-- A text is inert if its first character is harmless and the rest is inert; an ampersand has to begin
a reference. -/
theorem inert_cons {c : Char} {rest : List Char} :
    Inert (c :: rest) ↔
      (c ≠ '<' ∧ c ≠ '>' ∧ c ≠ '"' ∧ c ≠ '\'') ∧
      (c = '&' → ∃ reference ∈ references, reference <+: rest) ∧ Inert rest := by
  constructor
  · rintro ⟨hchars, hamp⟩
    refine ⟨hchars c List.mem_cons_self, ?_, ?_, ?_⟩
    · rintro rfl
      exact hamp rest List.suffix_rfl
    · intro d hd
      exact hchars d (List.mem_cons_of_mem c hd)
    · intro after hafter
      exact hamp after (hafter.trans (List.suffix_cons c rest))
  · rintro ⟨hc, hamp, hrest⟩
    constructor
    · intro d hd
      rcases List.mem_cons.1 hd with rfl | hd
      · exact hc
      · exact hrest.1 d hd
    · intro after hafter
      rcases List.suffix_cons_iff.1 hafter with heq | hafter
      · obtain ⟨hamp', rfl⟩ := List.cons.inj heq
        exact hamp hamp'.symm
      · exact hrest.2 after hafter

/-- Inert texts in a row are inert. -/
theorem Inert.append {first second : List Char} (h₁ : Inert first) (h₂ : Inert second) :
    Inert (first ++ second) := by
  induction first with
  | nil => exact h₂
  | cons c rest ih =>
    obtain ⟨hc, hamp, hrest⟩ := inert_cons.1 h₁
    rw [List.cons_append, inert_cons]
    refine ⟨hc, fun h => ?_, ih hrest⟩
    obtain ⟨reference, hmem, hprefix⟩ := hamp h
    exact ⟨reference, hmem, hprefix.trans (List.prefix_append rest second)⟩

/-- What escaping writes for a character is inert. -/
theorem inert_escapeChar (c : Char) : Inert (escapeChar c) := by
  unfold escapeChar
  by_cases h₁ : c = '&'
  · simp [h₁, inert_cons, inert_nil, references]
  by_cases h₂ : c = '<'
  · simp [h₂, inert_cons, inert_nil, references]
  by_cases h₃ : c = '>'
  · simp [h₃, inert_cons, inert_nil, references]
  by_cases h₄ : c = '"'
  · simp [h₄, inert_cons, inert_nil, references]
  by_cases h₅ : c = '\''
  · simp [h₅, inert_cons, inert_nil, references]
  · simp [h₁, h₂, h₃, h₄, h₅, inert_cons, inert_nil]

/-- Escaped text is inert. -/
theorem inert_escapeChars (text : List Char) : Inert (escapeChars text) := by
  unfold escapeChars
  induction text with
  | nil => exact inert_nil
  | cons c rest ih =>
    rw [List.flatMap_cons]
    exact (inert_escapeChar c).append ih

/-- An escaped text is inert. -/
theorem inert_escape (text : String) : Inert (escape text).toList := by
  rw [escape, String.toList_ofList]
  exact inert_escapeChars text.toList

/-- A number escape is written with none of the four characters it stands for. -/
theorem mem_scriptChar {c d : Char} (h : d ∈ scriptChar c) :
    d ≠ '<' ∧ d ≠ '>' ∧ d ≠ '&' ∧ d ≠ '\'' := by
  by_cases hescaped : c = '<' ∨ c = '>' ∨ c = '&' ∨ c = '\''
  · -- the four escapes differ in their last two characters only
    have hescape : ∃ x y, scriptChar c = ['\\', 'u', '0', '0', x, y] ∧ x ∈ ['2', '3'] ∧
        y ∈ ['6', '7', 'c', 'e'] := by
      rcases hescaped with rfl | rfl | rfl | rfl
      · exact ⟨'3', 'c', rfl, by decide, by decide⟩
      · exact ⟨'3', 'e', rfl, by decide, by decide⟩
      · exact ⟨'2', '6', rfl, by decide, by decide⟩
      · exact ⟨'2', '7', rfl, by decide, by decide⟩
    obtain ⟨x, y, heq, hx, hy⟩ := hescape
    rw [heq] at h
    simp only [List.mem_cons, List.not_mem_nil, or_false] at h hx hy
    rcases h with rfl | rfl | rfl | rfl | rfl | rfl
    · decide
    · decide
    · decide
    · decide
    · rcases hx with rfl | rfl <;> decide
    · rcases hy with rfl | rfl | rfl | rfl <;> decide
  · simp only [not_or] at hescaped
    obtain ⟨h₁, h₂, h₃, h₄⟩ := hescaped
    rw [scriptChar, if_neg h₁, if_neg h₂, if_neg h₃, if_neg h₄, List.mem_singleton] at h
    rw [h]
    exact ⟨h₁, h₂, h₃, h₄⟩

/-- Data for a script holds no angle bracket, no ampersand and no single quote. -/
theorem mem_scriptSafe {json : List Char} {c : Char} (h : c ∈ scriptSafe json) :
    c ≠ '<' ∧ c ≠ '>' ∧ c ≠ '&' ∧ c ≠ '\'' := by
  obtain ⟨d, _, hc⟩ := List.mem_flatMap.1 h
  exact mem_scriptChar hc

/-! ## Reading escaped text -/

/-- A reference stands for its character. -/
theorem decodeChars_reference {text after : List Char} {c : Char}
    (h : reference? text = some (c, after)) :
    decodeChars ('&' :: text) = c :: decodeChars after := by
  rw [decodeChars, if_pos rfl]
  split
  · rename_i d rest heq
    rw [h] at heq
    cases heq
    rfl
  · rename_i hnone
    rw [h] at hnone
    cases hnone

/-- A character that is no ampersand is read as itself. -/
theorem decodeChars_cons {c : Char} (h : c ≠ '&') (rest : List Char) :
    decodeChars (c :: rest) = c :: decodeChars rest := by
  rw [decodeChars, if_neg h]

/-- What escaping writes for a character stands for it. -/
theorem decodeChars_escapeChar (c : Char) (rest : List Char) :
    decodeChars (escapeChar c ++ rest) = c :: decodeChars rest := by
  unfold escapeChar
  by_cases h₁ : c = '&'
  · rw [if_pos h₁, h₁]
    exact decodeChars_reference rfl
  by_cases h₂ : c = '<'
  · rw [if_neg h₁, if_pos h₂, h₂]
    exact decodeChars_reference rfl
  by_cases h₃ : c = '>'
  · rw [if_neg h₁, if_neg h₂, if_pos h₃, h₃]
    exact decodeChars_reference rfl
  by_cases h₄ : c = '"'
  · rw [if_neg h₁, if_neg h₂, if_neg h₃, if_pos h₄, h₄]
    exact decodeChars_reference rfl
  by_cases h₅ : c = '\''
  · rw [if_neg h₁, if_neg h₂, if_neg h₃, if_neg h₄, if_pos h₅, h₅]
    exact decodeChars_reference rfl
  · rw [if_neg h₁, if_neg h₂, if_neg h₃, if_neg h₄, if_neg h₅]
    exact decodeChars_cons h₁ rest

/-- Escaped text is read as the text. -/
theorem decodeChars_escapeChars (text : List Char) : decodeChars (escapeChars text) = text := by
  unfold escapeChars
  induction text with
  | nil => rw [List.flatMap_nil, decodeChars]
  | cons c rest ih => rw [List.flatMap_cons, decodeChars_escapeChar, ih]

/-! ## Plain text -/

/-- The characters that escaping replaces. -/
def reserved : List Char := ['<', '>', '"', '\'', '&']

/-- A text without reserved characters. -/
def Plain (text : List Char) : Prop := ∀ c ∈ text, c ∉ reserved

instance (text : List Char) : Decidable (Plain text) :=
  List.decidableBAll (fun c => c ∉ reserved) text

/-- Plain text is inert as it is. -/
theorem Plain.inert {text : List Char} (h : Plain text) : Inert text := by
  induction text with
  | nil => exact inert_nil
  | cons c rest ih =>
    have hc := h c List.mem_cons_self
    simp only [reserved, List.mem_cons, List.not_mem_nil, or_false, not_or] at hc
    obtain ⟨hlt, hgt, hquote, hapos, hamp⟩ := hc
    rw [inert_cons]
    exact ⟨⟨hlt, hgt, hquote, hapos⟩, fun h => absurd h hamp,
      ih fun d hd => h d (List.mem_cons_of_mem c hd)⟩

/-- Escaping keeps plain text. -/
theorem Plain.escapeChars_eq {text : List Char} (h : Plain text) : escapeChars text = text := by
  unfold escapeChars
  induction text with
  | nil => rfl
  | cons c rest ih =>
    have hc := h c List.mem_cons_self
    simp only [reserved, List.mem_cons, List.not_mem_nil, or_false, not_or] at hc
    obtain ⟨hlt, hgt, hquote, hapos, hamp⟩ := hc
    rw [List.flatMap_cons, ih fun d hd => h d (List.mem_cons_of_mem c hd), escapeChar, if_neg hamp,
      if_neg hlt, if_neg hgt, if_neg hquote, if_neg hapos]
    rfl

/-! ## Angle brackets -/

/-- The angle brackets of a text, in order. -/
def brackets (text : List Char) : List Char := text.filter fun c => c = '<' || c = '>'

theorem brackets_append (first second : List Char) :
    brackets (first ++ second) = brackets first ++ brackets second := List.filter_append first second

/-- A text without angle brackets has none to show. -/
theorem brackets_eq_nil {text : List Char} (h : ∀ c ∈ text, c ≠ '<' ∧ c ≠ '>') : brackets text = [] := by
  rw [brackets, List.filter_eq_nil_iff]
  intro c hc
  simp [h c hc]

/-- An inert text opens no tag and closes none. -/
theorem Inert.brackets_eq_nil {text : List Char} (h : Inert text) : brackets text = [] :=
  Markup.brackets_eq_nil fun c hc => ⟨(h.1 c hc).1, (h.1 c hc).2.1⟩

/-- The angle brackets of `n` tags, one after the other. -/
def tags (n : Nat) : List Char := (List.replicate n ['<', '>']).flatten

theorem tags_add (m n : Nat) : tags (m + n) = tags m ++ tags n := by
  rw [tags, ← List.replicate_append_replicate, List.flatten_append]
  rfl

end BenchScope.Markup

namespace BenchScope.Decimal

open Markup

/-! ## Number texts -/

/-- The characters of number texts: digits, signs and points, the letters of `NaN` and `inf`, and the
letters of units. -/
def numberChar (c : Char) : Bool :=
  c.isDigit || c ∈ ['-', '.', 'N', 'a', 'i', 'n', 'f', 'k', 'M', 'G', 'T', 'P', 'E', 'Z', 'Y']

/-- A text of such characters. -/
def NumberText (text : List Char) : Prop := ∀ c ∈ text, numberChar c = true

instance (text : List Char) : Decidable (NumberText text) :=
  List.decidableBAll (fun c => numberChar c = true) text

theorem NumberText.not_mem {text : List Char} (h : NumberText text) {c : Char}
    (hc : numberChar c = false) : c ∉ text := by
  intro hmem
  rw [h c hmem] at hc
  cases hc

/-- A number text needs no escaping. -/
theorem NumberText.plain {text : List Char} (h : NumberText text) : Plain text := by
  have hreserved : (reserved.all fun c => !numberChar c) = true := by decide
  intro c hc hmem
  have hother : numberChar c = false := by simpa using List.all_eq_true.1 hreserved c hmem
  exact h.not_mem hother hc

@[simp] theorem numberText_nil : NumberText [] := by simp [NumberText]

@[simp] theorem numberText_cons {c : Char} {rest : List Char} :
    NumberText (c :: rest) ↔ numberChar c = true ∧ NumberText rest := by
  simp [NumberText]

@[simp] theorem numberText_append {first second : List Char} :
    NumberText (first ++ second) ↔ NumberText first ∧ NumberText second := by
  simp only [NumberText, List.mem_append, or_imp, forall_and]

theorem numberText_replicate (n : Nat) {c : Char} (h : numberChar c = true) :
    NumberText (List.replicate n c) := by
  intro d hd
  rwa [List.eq_of_mem_replicate hd]

theorem NumberText.subset {first second : List Char} (h : NumberText second) (hsub : first ⊆ second) :
    NumberText first := fun c hc => h c (hsub hc)

theorem numberText_digitsOf (n : Nat) : NumberText (digitsOf n) := by
  intro c hc
  have hdigit := Nat.isDigit_of_mem_toDigits (by decide) (by decide) hc
  rw [numberChar, hdigit, Bool.true_or]

theorem numberText_sign (negative : Bool) : NumberText (sign negative) := by
  cases negative <;> decide

theorem numberText_unusual (negative : Bool) : NumberText (unusual negative) := by
  cases negative <;> decide

/-- Digits with a point put among them are a number text. -/
theorem numberText_positional {digits : List Char} (h : NumberText digits) (point : Int) :
    NumberText (positional digits point) := by
  have hzero : numberChar '0' = true := by decide
  have hdot : numberChar '.' = true := by decide
  unfold positional
  split
  · simp only [numberText_cons, numberText_append]
    exact ⟨hzero, hdot, numberText_replicate _ hzero, h⟩
  · split
    · rw [numberText_append]
      exact ⟨h, numberText_replicate _ hzero⟩
    · rw [numberText_append, numberText_cons]
      exact ⟨h.subset (List.take_subset _ _), hdot, h.subset (List.drop_subset _ _)⟩

/-- The shortest digits of a fraction are digits. -/
theorem numberText_shortestDigits (tie : Tie) (mantissa : Nat) (exponent : Int) :
    NumberText (shortestDigits tie mantissa exponent).1 := by
  unfold shortestDigits
  split
  · decide
  · exact numberText_digitsOf _

/-- The shortest digits of a number are a number text. -/
theorem numberText_displayChars (x : Float) : NumberText (displayChars x) := by
  unfold displayChars
  cases Reading.ofFloat x with
  | notANumber => decide
  | infinite negative => exact numberText_unusual negative
  | finite negative mantissa exponent =>
    dsimp only
    rw [numberText_append]
    exact ⟨numberText_sign negative, numberText_positional (numberText_shortestDigits _ _ _) _⟩

/-- A number with a stated number of places is a number text. -/
theorem numberText_fixedChars (x : Float) (places : Nat) : NumberText (fixedChars x places) := by
  unfold fixedChars
  cases Reading.ofFloat x with
  | notANumber =>
    change NumberText ['N', 'a', 'N']
    decide
  | infinite negative => exact numberText_unusual negative
  | finite negative mantissa exponent =>
    dsimp only
    rw [numberText_append, numberText_append]
    refine ⟨⟨numberText_sign negative, numberText_digitsOf _⟩, ?_⟩
    by_cases hplaces : places = 0
    · rw [if_pos hplaces]
      exact numberText_nil
    · rw [if_neg hplaces, numberText_cons, numberText_append]
      exact ⟨by decide, numberText_replicate _ (by decide), numberText_digitsOf _⟩

end BenchScope.Decimal

namespace BenchScope

open Markup Decimal

/-- What is displayed for a double is a number text, also for those that are no numbers. -/
theorem Units.numberText_displayNumber (x : Float) : NumberText (Units.displayNumber x).toList := by
  unfold Units.displayNumber
  split
  · decide
  · rw [Decimal.display, String.toList_ofList]
    exact numberText_displayChars x

/-- Climbing ends at the unit it began with or at one of the larger ones. -/
theorem Units.climb_unit (divisor value : Float) (unit : String) (larger : List String) :
    (Units.climb divisor value unit larger).2 ∈ unit :: larger := by
  induction larger generalizing value unit with
  | nil => exact List.mem_cons_self
  | cons next rest ih =>
    unfold Units.climb
    split
    · exact List.mem_cons_of_mem _ (ih _ _)
    · exact List.mem_cons_self

/-- A size with its unit is a number text, as the letters of the units are. -/
theorem Units.numberText_humanReadable (size : Float) (base : Units.Base) (places : Nat) :
    NumberText (Units.humanReadable size base places).toList := by
  have hunits : ∀ unit ∈ base.least :: base.larger, NumberText unit.toList := by
    cases base <;> decide
  unfold Units.humanReadable
  dsimp only
  rw [String.toList_append, numberText_append, Decimal.fixed, String.toList_ofList]
  exact ⟨numberText_fixedChars _ _, hunits _ (Units.climb_unit _ _ _ _)⟩

namespace Report.Renderer

/-- What a renderer shows for a finite number is a number text. -/
theorem numberText_finite (renderer : Renderer) (x : Float) : NumberText (renderer.finite x).toList := by
  unfold finite
  cases renderer with
  | int => exact Units.numberText_displayNumber (Decimal.toPlaces x 0)
  | megas => exact Units.numberText_displayNumber (Decimal.toPlaces (x / 1e6) 3)
  | fixed => exact Units.numberText_displayNumber (Decimal.toPlaces x 3)
  | human => exact Units.numberText_humanReadable x .decimal 3
  | escaped =>
    have hnumber := Units.numberText_displayNumber x
    dsimp only
    rwa [escape, String.toList_ofList, hnumber.plain.escapeChars_eq]

/-- What a cell shows for a number: a number text if there is a finite number, else the placeholder. -/
theorem number_cases (renderer : Renderer) (value : Option Float) :
    (∃ x, value = some x ∧ x.isFinite = true ∧ renderer.number value = renderer.finite x) ∨
      (∀ x, value = some x → x.isFinite = false) ∧ renderer.number value = Units.placeholder := by
  unfold number Units.displayOrPlaceholder
  cases value with
  | none => exact .inr ⟨nofun, rfl⟩
  | some x =>
    dsimp only
    by_cases hx : x.isFinite = true
    · exact .inl ⟨x, rfl, hx, if_pos hx⟩
    · refine .inr ⟨?_, if_neg hx⟩
      rintro _ ⟨⟩
      exact Bool.eq_false_iff.2 hx

/-- What a table cell shows for a number is inert, whatever the renderer and the number. -/
theorem inert_number (renderer : Renderer) (x : Option Float) : Inert (renderer.number x).toList := by
  have hplaceholder : Plain Units.placeholder.toList := by decide
  obtain ⟨x, -, -, hnumber⟩ | ⟨-, hnumber⟩ := renderer.number_cases x
  · rw [hnumber]
    exact (renderer.numberText_finite x).plain.inert
  · rw [hnumber]
    exact hplaceholder.inert

end Report.Renderer

end BenchScope
