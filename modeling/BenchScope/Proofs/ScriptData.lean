import BenchScope.Proofs.JsonReading
import BenchScope.Proofs.Markup

/-!
# Data inside a script element

Four characters are replaced by number escapes where JSON text is put into a script element. They stand in
quoted texts only, and there never directly behind a backslash that begins an escape. So the replacement keeps
the form of a document and its meaning.
-/

namespace BenchScope.Markup

/-- The characters that data for a script is written without. -/
def scripted : List Char := ['<', '>', '&', '\'']

theorem scriptChar_of_not_mem {c : Char} (h : c ∉ scripted) : scriptChar c = [c] := by
  simp only [scripted, List.mem_cons, List.not_mem_nil, or_false, not_or] at h
  obtain ⟨h₁, h₂, h₃, h₄⟩ := h
  rw [scriptChar, if_neg h₁, if_neg h₂, if_neg h₃, if_neg h₄]

/-- One of the four characters is replaced by the escape with its own number. -/
theorem scriptChar_of_mem {c : Char} (h : c ∈ scripted) :
    ∃ digits, scriptChar c = '\\' :: 'u' :: digits ∧ Json.hexFour? digits = some (c.toNat, []) := by
  simp only [scripted, List.mem_cons, List.not_mem_nil, or_false] at h
  rcases h with rfl | rfl | rfl | rfl
  · exact ⟨['0', '0', '3', 'c'], rfl, rfl⟩
  · exact ⟨['0', '0', '3', 'e'], rfl, rfl⟩
  · exact ⟨['0', '0', '2', '6'], rfl, rfl⟩
  · exact ⟨['0', '0', '2', '7'], rfl, rfl⟩

@[simp] theorem scriptSafe_nil : scriptSafe [] = [] := rfl

@[simp] theorem scriptSafe_append (first second : List Char) :
    scriptSafe (first ++ second) = scriptSafe first ++ scriptSafe second := List.flatMap_append

/-- A text may be replaced piece by piece. -/
theorem scriptSafe_flatten (pieces : List (List Char)) :
    scriptSafe pieces.flatten = (pieces.map scriptSafe).flatten := by
  induction pieces with
  | nil => rfl
  | cons piece pieces ih => rw [List.flatten_cons, scriptSafe_append, ih, List.map_cons, List.flatten_cons]

/-- A character that is not one of the four stays in front. -/
theorem scriptSafe_cons {c : Char} (h : c ∉ scripted) (rest : List Char) :
    scriptSafe (c :: rest) = c :: scriptSafe rest := by
  rw [scriptSafe, List.flatMap_cons, scriptChar_of_not_mem h]
  rfl

/-- In place of one of the four characters there is now a backslash. -/
theorem scriptSafe_cons_of_mem {c : Char} (h : c ∈ scripted) (rest : List Char) :
    ∃ more, scriptSafe (c :: rest) = '\\' :: more := by
  obtain ⟨digits, hchar, -⟩ := scriptChar_of_mem h
  exact ⟨'u' :: (digits ++ scriptSafe rest), by rw [scriptSafe, List.flatMap_cons, hchar]; rfl⟩

/-- Text without the four characters is kept. -/
theorem scriptSafe_eq_self {text : List Char} (h : ∀ c ∈ text, c ∉ scripted) : scriptSafe text = text := by
  induction text with
  | nil => rfl
  | cons c rest ih =>
    obtain ⟨hc, hrest⟩ := List.forall_mem_cons.1 h
    rw [scriptSafe_cons hc, ih hrest]

/-- No text gets shorter. -/
theorem length_le_scriptSafe (text : List Char) : text.length ≤ (scriptSafe text).length := by
  induction text with
  | nil => exact Nat.le_refl 0
  | cons c rest ih =>
    by_cases hc : c ∈ scripted
    · obtain ⟨digits, hchar, -⟩ := scriptChar_of_mem hc
      rw [scriptSafe, List.flatMap_cons, hchar, List.length_append, List.length_cons, List.length_cons]
      rw [scriptSafe] at ih
      omega
    · rw [scriptSafe_cons hc, List.length_cons, List.length_cons]
      omega

section Spans

variable {p : Char → Bool} (hp : ('\\' :: scripted).any p = false)

include hp

/-- A run of characters among which are neither the four nor a backslash ends at the same place. -/
theorem takeWhile_scriptSafe (text : List Char) : (scriptSafe text).takeWhile p = text.takeWhile p := by
  induction text with
  | nil => rfl
  | cons c rest ih =>
    by_cases hc : c ∈ scripted
    · obtain ⟨more, hmore⟩ := scriptSafe_cons_of_mem hc rest
      have hslash := List.any_eq_false.1 hp '\\' List.mem_cons_self
      have hpc := List.any_eq_false.1 hp c (List.mem_cons_of_mem _ hc)
      rw [hmore, List.takeWhile_cons_of_neg hslash, List.takeWhile_cons_of_neg hpc]
    · rw [scriptSafe_cons hc, List.takeWhile_cons, List.takeWhile_cons, ih]

/-- What follows such a run is replaced by itself. -/
theorem dropWhile_scriptSafe (text : List Char) :
    (scriptSafe text).dropWhile p = scriptSafe (text.dropWhile p) := by
  induction text with
  | nil => rfl
  | cons c rest ih =>
    by_cases hc : c ∈ scripted
    · obtain ⟨more, hmore⟩ := scriptSafe_cons_of_mem hc rest
      have hslash := List.any_eq_false.1 hp '\\' List.mem_cons_self
      have hpc := List.any_eq_false.1 hp c (List.mem_cons_of_mem _ hc)
      rw [hmore, List.dropWhile_cons_of_neg hslash, List.dropWhile_cons_of_neg hpc, hmore]
    · rw [scriptSafe_cons hc, List.dropWhile_cons, List.dropWhile_cons, ih]
      split
      · rfl
      · rw [scriptSafe_cons hc]

end Spans

end BenchScope.Markup

namespace BenchScope.Json.Grammar

open Markup

/-! ## The form of documents -/

/-- White space between the parts of a document stays. -/
theorem not_scripted_of_isSpace {c : Char} (h : Read.isSpace c = true) : c ∉ scripted :=
  fun hc => List.any_eq_false.1 (by decide : scripted.any Read.isSpace = false) c hc h

theorem not_scripted_of_isDigit {c : Char} (h : c.isDigit = true) : c ∉ scripted :=
  fun hc => List.any_eq_false.1 (by decide : scripted.any Char.isDigit = false) c hc h

/-- Hexadecimal digits stay, so an escape by number keeps its digits. -/
theorem not_scripted_of_hexValue? {c : Char} {n : Nat} (h : hexValue? c = some n) : c ∉ scripted := by
  have hnone : (scripted.any fun c => (hexValue? c).isSome) = false := by decide
  exact fun hc => List.any_eq_false.1 hnone c hc (by rw [h]; rfl)

/-- The letters of the short escapes stay. -/
theorem not_scripted_of_shortEscape? {c d : Char} (h : shortEscape? c = some d) : c ∉ scripted := by
  have hnone : (scripted.any fun c => (shortEscape? c).isSome) = false := by decide
  exact fun hc => List.any_eq_false.1 hnone c hc (by rw [h]; rfl)

/-- Blank text between the parts of a document is kept. -/
theorem Blank.scriptSafe_eq {text : List Char} (h : Blank text) : scriptSafe text = text :=
  scriptSafe_eq_self fun c hc => not_scripted_of_isSpace (h c hc)

theorem Digits.not_scripted {text : List Char} (h : Digits text) : ∀ c ∈ text, c ∉ scripted :=
  fun c hc => not_scripted_of_isDigit (h.2 c hc)

/-- Four hexadecimal digits are read alike in front of any text. -/
theorem hexFour?_digits {digits : List Char} {n : Nat} (h : hexFour? digits = some (n, [])) :
    (∀ c ∈ digits, c ∉ scripted) ∧ ∀ rest, hexFour? (digits ++ rest) = some (n, rest) := by
  unfold hexFour? at h
  split at h
  · rename_i a b c d tail
    simp only [Option.bind_eq_bind, Option.bind_eq_some_iff] at h
    obtain ⟨va, ha, vb, hb, vc, hc, vd, hd, h⟩ := h
    obtain ⟨rfl, rfl⟩ := Prod.mk.inj (Option.some.inj h)
    constructor
    · simp only [List.forall_mem_cons]
      exact ⟨not_scripted_of_hexValue? ha, not_scripted_of_hexValue? hb, not_scripted_of_hexValue? hc,
        not_scripted_of_hexValue? hd, nofun⟩
    · intro rest
      simp [hexFour?, ha, hb, hc, hd]
  · cases h

/-- The digits of a number escape are kept. -/
theorem scriptSafe_digits {digits : List Char} {n : Nat} (h : hexFour? digits = some (n, [])) :
    scriptSafe digits = digits := scriptSafe_eq_self (hexFour?_digits h).1

theorem slash_not_scripted : '\\' ∉ scripted := by decide

theorem u_not_scripted : 'u' ∉ scripted := by decide

/-- A number escape is kept as a whole. -/
theorem scriptSafe_numberEscape {digits : List Char} {n : Nat} (h : hexFour? digits = some (n, [])) :
    scriptSafe ('\\' :: 'u' :: digits) = '\\' :: 'u' :: digits := by
  rw [scriptSafe_cons slash_not_scripted, scriptSafe_cons u_not_scripted, scriptSafe_digits h]

/-- What stands for a character is replaced by what stands for the same character. -/
theorem Spelling.scriptSafe {piece : List Char} {c : Char} (h : Spelling piece c) :
    Spelling (scriptSafe piece) c := by
  cases h with
  | plain hquote hescape hcontrol =>
    by_cases hc : c ∈ scripted
    · obtain ⟨digits, hchar, hdigits⟩ := scriptChar_of_mem hc
      have hnone : (scripted.any fun c => isLowSurrogate c.toNat || isHighSurrogate c.toNat) = false := by decide
      have hnumber := List.any_eq_false.1 hnone c hc
      rw [Bool.not_eq_true, Bool.or_eq_false_iff] at hnumber
      have hspelling := Spelling.number hdigits hnumber.1 hnumber.2
      rw [Char.ofNat_toNat] at hspelling
      rw [Markup.scriptSafe, List.flatMap_singleton, hchar]
      exact hspelling
    · rw [scriptSafe_cons hc, scriptSafe_nil]
      exact .plain hquote hescape hcontrol
  | @short letter d hshort =>
    rw [scriptSafe_cons slash_not_scripted, scriptSafe_cons (not_scripted_of_shortEscape? hshort), scriptSafe_nil]
    exact .short hshort
  | number hdigits hlow hhigh =>
    rw [scriptSafe_numberEscape hdigits]
    exact .number hdigits hlow hhigh
  | @pair first second high low hfirst hsecond hlow hhigh =>
    have hpair : Markup.scriptSafe ('\\' :: 'u' :: (first ++ '\\' :: 'u' :: second)) =
        '\\' :: 'u' :: (first ++ '\\' :: 'u' :: second) := by
      rw [scriptSafe_cons slash_not_scripted, scriptSafe_cons u_not_scripted, scriptSafe_append,
        scriptSafe_digits hfirst, scriptSafe_numberEscape hsecond]
    rw [hpair]
    exact .pair hfirst hsecond hlow hhigh

/-- A piece of a quoted text that is skipped stays such a piece: one of the four characters becomes an
escape. -/
theorem LoosePiece.scriptSafe {piece : List Char} (h : LoosePiece piece) :
    LoosePiece (scriptSafe piece) := by
  cases h with
  | @plain c hquote hescape hcontrol =>
    by_cases hc : c ∈ scripted
    · obtain ⟨digits, hchar, hdigits⟩ := scriptChar_of_mem hc
      rw [Markup.scriptSafe, List.flatMap_singleton, hchar]
      exact .number hdigits
    · rw [scriptSafe_cons hc, scriptSafe_nil]
      exact .plain hquote hescape hcontrol
  | short hshort =>
    rw [scriptSafe_cons slash_not_scripted, scriptSafe_cons (not_scripted_of_shortEscape? hshort), scriptSafe_nil]
    exact .short hshort
  | number hdigits =>
    rw [scriptSafe_numberEscape hdigits]
    exact .number hdigits

theorem quote_not_scripted : '"' ∉ scripted := by decide

/-- Quoted text spells the same. -/
theorem Quoted.scriptSafe {text : List Char} {spelled : String} (h : Quoted text spelled) :
    Quoted (scriptSafe text) spelled := by
  obtain ⟨pieces, hpieces, rfl⟩ := h
  refine ⟨pieces.map Markup.scriptSafe, ?_, ?_⟩
  · rw [List.forall₂_map_left_iff]
    exact hpieces.imp fun _ _ => Spelling.scriptSafe
  · rw [scriptSafe_cons quote_not_scripted, scriptSafe_append, scriptSafe_cons quote_not_scripted, scriptSafe_nil,
      scriptSafe_flatten]

/-- A quoted text that is skipped, and not read, ends at the same quote. -/
theorem LooselyQuoted.scriptSafe {text : List Char} (h : LooselyQuoted text) :
    LooselyQuoted (scriptSafe text) := by
  obtain ⟨pieces, hpieces, rfl⟩ := h
  refine ⟨pieces.map Markup.scriptSafe, ?_, ?_⟩
  · rw [List.forall_mem_map]
    exact fun piece hpiece => (hpieces piece hpiece).scriptSafe
  · rw [scriptSafe_cons quote_not_scripted, scriptSafe_append, scriptSafe_cons quote_not_scripted, scriptSafe_nil,
      scriptSafe_flatten]

theorem colon_not_scripted : ':' ∉ scripted := by decide

/-- The name in front of a member spells the same. -/
theorem MemberLead.scriptSafe {text : List Char} {name : String} (h : MemberLead text name) :
    MemberLead (scriptSafe text) name := by
  cases h with
  | mk hbefore hquoted hbetween hafter =>
    rw [scriptSafe_append, scriptSafe_append, scriptSafe_append, scriptSafe_cons colon_not_scripted,
      hbefore.scriptSafe_eq, hbetween.scriptSafe_eq, hafter.scriptSafe_eq]
    exact .mk hbefore hquoted.scriptSafe hbetween hafter

/-- A name that is skipped still stands in front of its member. -/
theorem LooseLead.scriptSafe {text : List Char} {name : Unit} (h : LooseLead text name) :
    LooseLead (scriptSafe text) name := by
  cases h with
  | mk hbefore hquoted hbetween hafter =>
    rw [scriptSafe_append, scriptSafe_append, scriptSafe_append, scriptSafe_cons colon_not_scripted,
      hbefore.scriptSafe_eq, hbetween.scriptSafe_eq, hafter.scriptSafe_eq]
    exact .mk hbefore hquoted.scriptSafe hbetween hafter

variable {ν : Type}

/-- The replacement goes through to the parts of a bracket. -/
theorem Parts.scriptSafe {closing : Char} (hclosing : closing ∉ scripted) {lead : List Char → ν → Prop}
    (hlead : ∀ text name, lead text name → lead (scriptSafe text) name) {started : Bool} {text : List Char}
    {parts : List (ν × List Char)} (h : Parts closing lead started text parts) :
    Parts closing lead started (scriptSafe text) (parts.map fun part => (part.1, scriptSafe part.2)) := by
  have hcomma : ',' ∉ scripted := by decide
  induction h with
  | close hblank =>
    rw [scriptSafe_append, hblank.scriptSafe_eq, scriptSafe_cons hclosing, scriptSafe_nil]
    exact .close hblank
  | first hfront _ ih =>
    rw [scriptSafe_append, scriptSafe_append]
    exact .first (hlead _ _ hfront) ih
  | next hblank hfront _ ih =>
    rw [scriptSafe_append, hblank.scriptSafe_eq, scriptSafe_cons hcomma, scriptSafe_append, scriptSafe_append]
    exact .next hblank (hlead _ _ hfront) ih

/-- The parts of a bracket are shorter than its inside. -/
theorem Parts.length_lt {closing : Char} {lead : List Char → ν → Prop} {started : Bool} {text : List Char}
    {parts : List (ν × List Char)} (h : Parts closing lead started text parts) :
    ∀ part ∈ parts, part.2.length < text.length := by
  have hpos : ∀ {started text parts}, Parts closing lead started text parts → 0 < text.length := by
    intro started text parts h
    induction h with
    | close => rw [List.length_append, List.length_cons]; omega
    | first _ _ ih => rw [List.length_append]; omega
    | next => rw [List.length_append, List.length_cons]; omega
  induction h with
  | close => exact nofun
  | first _ hrest ih =>
    have := hpos hrest
    rw [List.forall_mem_cons]
    simp only [List.length_append]
    exact ⟨by omega, fun part hpart => (ih part hpart).trans_le (by omega)⟩
  | next _ _ hrest ih =>
    have := hpos hrest
    rw [List.forall_mem_cons]
    simp only [List.length_append, List.length_cons]
    exact ⟨by omega, fun part hpart => (ih part hpart).trans_le (by omega)⟩

/-- A list still has its items, each replaced by itself. -/
theorem IsArray.scriptSafe {text : List Char} {items : List (List Char)} (h : IsArray text items) :
    IsArray (scriptSafe text) (items.map Markup.scriptSafe) := by
  obtain ⟨inner, rfl, hparts⟩ := h
  refine ⟨Markup.scriptSafe inner, scriptSafe_cons (by decide) inner, ?_⟩
  have hlead : ∀ text (name : Unit), ItemLead text name → ItemLead (Markup.scriptSafe text) name := by
    intro text name hblank
    rw [Blank.scriptSafe_eq hblank]
    exact hblank
  have h := hparts.scriptSafe (by decide) hlead
  rw [List.map_map] at h ⊢
  exact h

/-- An object still has its members in their order, with the same names. -/
theorem IsObject.scriptSafe {text : List Char} {members : List (String × List Char)} (h : IsObject text members) :
    IsObject (scriptSafe text) (members.map fun member => (member.1, Markup.scriptSafe member.2)) := by
  obtain ⟨inner, rfl, hparts⟩ := h
  exact ⟨Markup.scriptSafe inner, scriptSafe_cons (by decide) inner,
    hparts.scriptSafe (by decide) fun _ _ => MemberLead.scriptSafe⟩

/-- An object that is skipped still has its values in their order. -/
theorem IsLooseObject.scriptSafe {text : List Char} {values : List (List Char)} (h : IsLooseObject text values) :
    IsLooseObject (scriptSafe text) (values.map Markup.scriptSafe) := by
  obtain ⟨inner, rfl, hparts⟩ := h
  refine ⟨Markup.scriptSafe inner, scriptSafe_cons (by decide) inner, ?_⟩
  have h := hparts.scriptSafe (by decide) fun _ _ => LooseLead.scriptSafe
  rw [List.map_map] at h ⊢
  exact h

theorem Fraction.not_scripted {text : List Char} (h : Fraction text) : ∀ c ∈ text, c ∉ scripted := by
  cases h with
  | absent => exact nofun
  | present hdigits => exact List.forall_mem_cons.2 ⟨by decide, hdigits.not_scripted⟩

theorem Exponent.not_scripted {text : List Char} (h : Exponent text) : ∀ c ∈ text, c ∉ scripted := by
  cases h with
  | absent => exact nofun
  | present hmark hsign hdigits =>
    have hmark' : ∀ mark : Char, mark = 'e' ∨ mark = 'E' → mark ∉ scripted := by
      rintro mark (rfl | rfl) <;> decide
    rw [List.forall_mem_cons, List.forall_mem_append]
    refine ⟨hmark' _ hmark, ?_, hdigits.not_scripted⟩
    rcases hsign with rfl | rfl | rfl
    · exact List.forall_mem_nil _
    · exact List.forall_mem_singleton.2 (by decide)
    · exact List.forall_mem_singleton.2 (by decide)

/-- A numeral holds none of the four characters. -/
theorem Numeral.scriptSafe_eq {text : List Char} (h : Numeral text) : scriptSafe text = text := by
  have hunsigned : ∀ {text}, Unsigned text → ∀ c ∈ text, c ∉ scripted := by
    intro text h
    cases h with
    | mk hwhole _ hfraction hexponent =>
      rw [List.forall_mem_append, List.forall_mem_append]
      exact ⟨⟨hwhole.not_scripted, hfraction.not_scripted⟩, hexponent.not_scripted⟩
  cases h with
  | positive h => exact scriptSafe_eq_self (hunsigned h)
  | negative h => exact scriptSafe_eq_self (List.forall_mem_cons.2 ⟨by decide, hunsigned h⟩)

/-- The words for true, false and nothing are kept. -/
theorem scriptSafe_word {text : List Char} (h : text ∈ words.map Prod.fst) : scriptSafe text = text :=
  (by decide : ∀ text ∈ words.map Prod.fst, scriptSafe text = text) text h

/-- The replacement keeps the form of a value. -/
theorem Value.scriptSafe {text : List Char} (h : Value text) : Value (scriptSafe text) := by
  induction h with
  | word h =>
    rw [scriptSafe_word h]
    exact .word h
  | numeral h =>
    rw [h.scriptSafe_eq]
    exact .numeral h
  | text h => exact .text h.scriptSafe
  | array h _ ih => exact .array h.scriptSafe (List.forall_mem_map.2 ih)
  | object h _ ih => exact .object h.scriptSafe (List.forall_mem_map.2 ih)

/-- The replacement keeps the meaning of a value. -/
theorem Denotes.scriptSafe {text : List Char} {value : Json} (h : Denotes text value) :
    Denotes (scriptSafe text) value := by
  -- the parts of a value are shorter than the value
  induction hlength : text.length using Nat.strong_induction_on generalizing text value with
  | _ length ih =>
    subst hlength
    cases h with
    | word h =>
      rw [scriptSafe_word (List.mem_map_of_mem h)]
      exact .word h
    | numeral h hread =>
      rw [h.scriptSafe_eq]
      exact .numeral h hread
    | text h => exact .text h.scriptSafe
    | @array _ items values h hitems =>
      refine .array h.scriptSafe ?_
      obtain ⟨inner, rfl, hparts⟩ := h
      have hshort : ∀ item ∈ items, item.length < ('[' :: inner).length := by
        intro item hitem
        exact (hparts.length_lt _ (List.mem_map_of_mem hitem)).trans (Nat.lt_succ_self _)
      rw [List.forall₂_map_left_iff]
      exact ((List.forall₂_and_left items values).2 ⟨hshort, hitems⟩).imp
        fun item _ h => ih item.length h.1 h.2 rfl
    | @object _ members pairs h hnames hvalues =>
      refine .object h.scriptSafe (by rw [List.map_map]; exact hnames) ?_
      obtain ⟨inner, rfl, hparts⟩ := h
      have hshort : ∀ value ∈ members.map Prod.snd, value.length < ('{' :: inner).length := by
        rw [List.forall_mem_map]
        intro member hmember
        exact (hparts.length_lt member hmember).trans (Nat.lt_succ_self _)
      have hmap : (members.map fun member => (member.1, Markup.scriptSafe member.2)).map Prod.snd =
          (members.map Prod.snd).map Markup.scriptSafe := by
        rw [List.map_map, List.map_map]
        rfl
      rw [hmap, List.forall₂_map_left_iff]
      exact ((List.forall₂_and_left _ _).2 ⟨hshort, hvalues⟩).imp fun value _ h => ih value.length h.1 h.2 rfl

/-- If the replacement keeps a form, it keeps documents of this form. -/
theorem IsDocument.scriptSafe {form : List Char → Prop}
    (hform : ∀ text, form text → form (Markup.scriptSafe text)) {input : String} (h : Read.IsDocument form input) :
    Read.IsDocument form (String.ofList (Markup.scriptSafe input.toList)) := by
  obtain ⟨before, core, after, hbefore, hcore, hafter, htext⟩ := h
  refine ⟨before, Markup.scriptSafe core, after, hbefore, hform core hcore, hafter, ?_⟩
  rw [String.toList_ofList, htext, scriptSafe_append, scriptSafe_append, hbefore.scriptSafe_eq, hafter.scriptSafe_eq]

end BenchScope.Json.Grammar
