import BenchScope.Text.Characters
import Mathlib.Data.List.Basic

/-!
# Letter case of names

A name is told from others by its lower case. What a character past ASCII becomes in lower case lies past
ASCII too, but for the sign of kelvin, which becomes a `k`, and for the dotted capital `I`, which becomes an
`i` with a mark behind it. So a text whose lower case has only ASCII characters, and no `k`, is an ASCII text
itself; and a text in lower case has no capital letter left.
-/

namespace BenchScope.Text

/-! ## ASCII letters -/

theorem isUpper_iff {c : Char} : c.isUpper = true ↔ 65 ≤ c.toNat ∧ c.toNat ≤ 90 := by
  show decide (c.val ≥ 'A'.val ∧ c.val ≤ 'Z'.val) = true ↔ _
  rw [decide_eq_true_iff]
  exact Iff.rfl

/-- Only characters of ASCII count as capital letters here. -/
theorem isUpper_of_pastAscii {c : Char} (h : 0x80 ≤ c.toNat) : c.isUpper = false := by
  rw [Bool.eq_false_iff, Ne, isUpper_iff]
  omega

theorem toLower_of_isUpper_eq_false {c : Char} (h : c.isUpper = false) : c.toLower = c :=
  dif_neg (of_decide_eq_false h)

theorem toNat_toLower {c : Char} (h : c.isUpper = true) : c.toLower.toNat = c.toNat + 32 := by
  have hval : c.toLower.val = c.val + 32 := congrArg Char.val (dif_pos (of_decide_eq_true h))
  have hlast : c.val.toNat ≤ 90 := (isUpper_iff.1 h).2
  show c.toLower.val.toNat = c.val.toNat + 32
  rw [hval, UInt32.toNat_add, show (32 : UInt32).toNat = 32 from rfl]
  omega

/-- A small letter of ASCII is no capital letter. -/
theorem isUpper_toLower (c : Char) : c.toLower.isUpper = false := by
  cases h : c.isUpper with
  | false => rw [toLower_of_isUpper_eq_false h, h]
  | true =>
    obtain ⟨hfirst, -⟩ := isUpper_iff.1 h
    rw [Bool.eq_false_iff, Ne, isUpper_iff, toNat_toLower h]
    omega

/-! ## The table of small letters -/

/-- A span that is found is one of the table. -/
theorem SpanTable.mem_of_search {α : Type} {spans : Array (Span α)} {n fuel low high : Nat} {span : Span α}
    (h : search spans n fuel low high = some span) : span ∈ spans.toList := by
  fun_induction search spans n fuel low high with
  | case1 => cases h
  | case2 => cases h
  | case3 => cases h
  | case4 fuel low high _ _ _ _ ih => exact ih h
  | case5 fuel low high _ _ _ _ _ ih => exact ih h
  | case6 fuel low high _ found hfound =>
    obtain rfl := Option.some.inj h
    exact Array.mem_toList_iff.2 (Array.mem_of_getElem? hfound)

/-- A target of a span that lies past ASCII, as do all that follow it up to the end of the span. -/
def Span.PastAscii (span : Span Replacement) (target : Nat) : Prop :=
  (0x80 ≤ target ∧ target + (span.last - span.first) < 0xD800) ∨
    (0xE000 ≤ target ∧ target + (span.last - span.first) < 0x110000)

instance (span : Span Replacement) (target : Nat) : Decidable (span.PastAscii target) :=
  inferInstanceAs (Decidable (_ ∨ _))

/-- Such a span leads past ASCII with each of its characters. -/
theorem Span.PastAscii.le_toNat {span : Span Replacement} {target distance : Nat}
    (h : span.PastAscii target) (hdistance : distance ≤ span.last - span.first) :
    0x80 ≤ (Char.ofNat (target + distance)).toNat := by
  have hvalid : (target + distance).isValidChar := by
    rcases h with h | h
    · exact Or.inl (by omega)
    · exact Or.inr ⟨by omega, by omega⟩
  have hnat : (Char.ofNat (target + distance)).toNat = target + distance := by
    rw [Char.ofNat, dif_pos hvalid]
    rfl
  rw [hnat]
  rcases h with h | h <;> omega

/-- The spans of the table: two single characters, and those that lead past ASCII. -/
theorem smallLetters_spans : ∀ span ∈ smallLetters.spans.toList,
    (span.first = span.last ∧ (span.value.targets = [0x6B] ∨ span.value.targets = [0x69, 0x307])) ∨
    (span.value.targets ≠ [] ∧ ∀ target ∈ span.value.targets, span.PastAscii target) := by
  decide +kernel

/-- What a character past ASCII becomes in lower case. -/
theorem lowerChars_cases {c : Char} (hc : 0x80 ≤ c.toNat) :
    lowerChars c = ['k'] ∨ lowerChars c = ['i', '\u0307'] ∨
      (lowerChars c ≠ [] ∧ ∀ d ∈ lowerChars c, 0x80 ≤ d.toNat) := by
  rw [lowerChars, if_neg (Nat.not_lt.2 hc)]
  cases hget : smallLetters.get? c with
  | none => exact Or.inr (Or.inr ⟨List.cons_ne_nil _ _, by simpa using hc⟩)
  | some chars =>
    rw [Option.getD_some]
    obtain ⟨span, hfind, hchars⟩ := Option.bind_eq_some_iff.1 hget
    obtain ⟨hfirst, hlast⟩ := SpanTable.search_bounds hfind
    dsimp only at hchars
    split at hchars
    · obtain rfl := Option.some.inj hchars
      rcases smallLetters_spans span (SpanTable.mem_of_search hfind) with ⟨hsingle, htargets⟩ | ⟨hne, hpast⟩
      · -- the only character of its span is the first one
        have hzero : c.toNat - span.first = 0 := by omega
        rw [hzero]
        rcases htargets with htargets | htargets
        · exact Or.inl (by rw [htargets]; rfl)
        · exact Or.inr (Or.inl (by rw [htargets]; rfl))
      · refine Or.inr (Or.inr ⟨by simpa using hne, ?_⟩)
        intro d hd
        obtain ⟨target, htarget, rfl⟩ := List.mem_map.1 hd
        exact (hpast target htarget).le_toNat (by omega)
    · cases hchars

/-! ## Texts -/

/-- What the first character of a text becomes: what it becomes anywhere, or one of the small sigmas. -/
theorem lowerFrom_cons (before : List Char) (c : Char) (rest : List Char) :
    ∃ lowered, lowerFrom before (c :: rest) = lowered ++ lowerFrom (c :: before) rest ∧
      (lowered = lowerChars c ∨ ∃ d, lowered = [d] ∧ 0x80 ≤ d.toNat) := by
  rw [lowerFrom]
  refine ⟨_, rfl, ?_⟩
  by_cases hsigma : c = 'Σ'
  · rw [if_pos hsigma]
    refine Or.inr ⟨_, rfl, ?_⟩
    split <;> decide
  · exact Or.inl (if_neg hsigma)

/-- What a character becomes holds no capital letter. -/
theorem isUpper_of_mem_lowerChars {c d : Char} (h : d ∈ lowerChars c) : d.isUpper = false := by
  by_cases hc : c.toNat < 0x80
  · rw [lowerChars, if_pos hc, List.mem_singleton] at h
    rw [h]
    exact isUpper_toLower c
  · rcases lowerChars_cases (Nat.not_lt.1 hc) with hk | hi | ⟨-, hpast⟩
    · rw [hk, List.mem_singleton] at h
      rw [h]
      rfl
    · rw [hi, List.mem_cons, List.mem_singleton] at h
      rcases h with rfl | rfl <;> rfl
    · exact isUpper_of_pastAscii (hpast d h)

/-- A text in lower case has no capital letter of ASCII. -/
theorem isUpper_of_mem_lowerFrom {d : Char} {before text : List Char} (h : d ∈ lowerFrom before text) :
    d.isUpper = false := by
  induction text generalizing before with
  | nil => cases h
  | cons c rest ih =>
    obtain ⟨lowered, heq, hlowered⟩ := lowerFrom_cons before c rest
    rw [heq, List.mem_append] at h
    rcases h with h | h
    · rcases hlowered with rfl | ⟨e, rfl, he⟩
      · exact isUpper_of_mem_lowerChars h
      · rw [List.mem_singleton.1 h]
        exact isUpper_of_pastAscii he
    · exact ih h

theorem isUpper_of_mem_lower {d : Char} {text : String} (h : d ∈ (lower text).toList) :
    d.isUpper = false := by
  rw [lower, String.toList_ofList] at h
  exact isUpper_of_mem_lowerFrom h

/-- A character that only an ASCII character has as its lower case. -/
def IsPlain (c : Char) : Prop := c.toNat < 0x80 ∧ c ≠ 'k'

instance (c : Char) : Decidable (IsPlain c) := inferInstanceAs (Decidable (_ ∧ _))

/-- If lower case gives plain characters only, it went character by character. -/
theorem lowerFrom_of_isPlain {before text : List Char} (h : ∀ d ∈ lowerFrom before text, IsPlain d) :
    lowerFrom before text = text.map Char.toLower := by
  induction text generalizing before with
  | nil => rfl
  | cons c rest ih =>
    obtain ⟨lowered, heq, hlowered⟩ := lowerFrom_cons before c rest
    rw [heq] at h ⊢
    have hrest := ih fun d hd => h d (List.mem_append_right lowered hd)
    have hplain : ∀ d ∈ lowered, IsPlain d := fun d hd => h d (List.mem_append_left _ hd)
    have hfirst : lowered = [c.toLower] := by
      rcases hlowered with rfl | ⟨e, rfl, he⟩
      · by_cases hc : c.toNat < 0x80
        · rw [lowerChars, if_pos hc]
        · -- past ASCII there is always a character that is not plain
          rcases lowerChars_cases (Nat.not_lt.1 hc) with hk | hi | ⟨hne, hpast⟩
          · rw [hk] at hplain
            exact absurd rfl (hplain 'k' (List.mem_singleton_self _)).2
          · rw [hi] at hplain
            exact absurd (hplain '\u0307' (by simp)).1 (by decide)
          · obtain ⟨d, hd⟩ := List.exists_mem_of_ne_nil _ hne
            exact absurd (hplain d hd).1 (Nat.not_lt.2 (hpast d hd))
      · exact absurd (hplain e (List.mem_singleton_self _)).1 (Nat.not_lt.2 he)
    rw [hfirst, hrest]
    rfl

/-- Where only ASCII characters can come from, lower case is that of ASCII. -/
theorem lower_eq_lowerAscii {text : String} (h : ∀ d ∈ (lower text).toList, IsPlain d) :
    lower text = lowerAscii text := by
  rw [lower, String.toList_ofList] at h
  rw [lower, lowerFrom_of_isPlain h]
  rfl

/-- A text without capital letters is its own lower case, if that is plain. -/
theorem eq_of_lower_eq {text name : String} (hname : ∀ d ∈ name.toList, IsPlain d)
    (htext : ∀ d ∈ text.toList, d.isUpper = false) (h : lower text = name) : text = name := by
  subst h
  have hmap : text.toList.map Char.toLower = text.toList := by
    conv_rhs => rw [← List.map_id text.toList]
    exact List.map_congr_left fun d hd => toLower_of_isUpper_eq_false (htext d hd)
  rw [lower_eq_lowerAscii hname, lowerAscii, hmap, String.ofList_toList]

end BenchScope.Text
