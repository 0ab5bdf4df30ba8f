import BenchScope.Decimal.Reading
import BenchScope.Proofs.InterchangeNumbers

/-!
# Texts of whole numbers

A whole number may be written with a plus sign, with zeros in front of its digits, or as a zero with a minus
sign. All these are read as the number, and none of them is the text of the number: that is the plain form.
-/

namespace BenchScope.Decimal

open Json.Grammar (Digits)

/-! ## Digits -/

theorem natOfDigits_eq (digits : List Char) : natOfDigits digits = Nat.ofDigitChars 10 digits 0 := by
  unfold natOfDigits Nat.ofDigitChars
  simp only [Nat.mul_comm]

theorem digitsOf_digitValue {c : Char} (h : c.isDigit = true) : digitsOf (Json.digitValue c) = [c] := by
  have hchar : ∀ n < 10, Nat.digitChar n = Char.ofNat (48 + n) := by decide
  obtain ⟨hfirst, hlast⟩ := Json.toNat_of_isDigit h
  rw [digitsOf, Nat.toDigits_of_lt_base (Json.digitValue_lt h), hchar _ (Json.digitValue_lt h),
    Json.digitValue_eq, Nat.add_sub_cancel' hfirst, Char.ofNat_toNat]

/-- Digits behind those of a positive number are the digits of the number that they go on to. -/
theorem digitsOf_append {n : Nat} (hpos : 0 < n) {digits : List Char} (h : ∀ c ∈ digits, c.isDigit = true) :
    digitsOf n ++ digits = digitsOf (Nat.ofDigitChars 10 digits n) := by
  induction digits generalizing n with
  | nil => exact List.append_nil _
  | cons c rest ih =>
    have hc := h c List.mem_cons_self
    have hnext : digitsOf n ++ [c] = digitsOf (n * 10 + Json.digitValue c) := by
      rw [← digitsOf_digitValue hc, Nat.mul_comm]
      exact Nat.toDigits_append_toDigits (by decide) hpos (Json.digitValue_lt hc)
    rw [Json.ofDigitChars_cons, ← ih (by omega) fun d hd => h d (List.mem_cons_of_mem c hd), ← hnext,
      List.append_assoc, List.singleton_append]

/-- Digits without a zero in front are those of a positive number. -/
theorem natOfDigits_pos {digits : List Char} (h : Digits digits) (hhead : digits.head? ≠ some '0') :
    0 < natOfDigits digits := by
  obtain ⟨c, rest, rfl⟩ := List.exists_cons_of_ne_nil h.1
  have hlead : 0 < Json.digitValue c :=
    Json.digitValue_pos (h.2 c List.mem_cons_self) fun hzero => hhead (congrArg some hzero)
  rw [natOfDigits_eq, Json.ofDigitChars_cons, Nat.zero_mul, Nat.zero_add]
  exact hlead.trans_le (Json.le_ofDigitChars _ rest)

/-- Digits are those of their number exactly if no zero stands in front of others. -/
theorem digitsOf_natOfDigits_iff {digits : List Char} (h : Digits digits) :
    digitsOf (natOfDigits digits) = digits ↔ (digits.head? = some '0' → digits = ['0']) := by
  constructor
  · intro heq hhead
    by_cases hpos : 0 < natOfDigits digits
    · have hlead := Json.head?_digitsOf hpos
      rw [heq] at hlead
      exact absurd hhead hlead
    · rw [← heq, Nat.eq_zero_of_not_pos hpos]
      rfl
  · intro hzero
    obtain ⟨c, rest, rfl⟩ := List.exists_cons_of_ne_nil h.1
    by_cases hc : c = '0'
    · rw [hzero (congrArg some hc)]
      rfl
    · have hdigit := h.2 c List.mem_cons_self
      have hrest := digitsOf_append (Json.digitValue_pos hdigit hc)
        fun d hd => h.2 d (List.mem_cons_of_mem c hd)
      rw [natOfDigits_eq, Json.ofDigitChars_cons, Nat.zero_mul, Nat.zero_add, ← hrest,
        digitsOf_digitValue hdigit, List.singleton_append]

/-! ## Signs -/

/-- A number that is not negative is written as its digits. -/
theorem toList_toString (n : Nat) : (toString (n : Int)).toList = digitsOf n := by
  rw [Int.toString_eq_repr, Int.repr_eq_if, if_pos (Int.natCast_nonneg n), Int.toNat_natCast,
    Nat.repr_eq_ofList_toDigits, String.toList_ofList, digitsOf]

theorem toList_toString_neg {n : Nat} (h : 0 < n) : (toString (-(n : Int))).toList = '-' :: digitsOf n := by
  rw [Int.toString_eq_repr, Int.repr_eq_if, if_neg (by omega), Int.neg_neg, Int.toNat_natCast,
    Nat.repr_eq_ofList_toDigits, String.toList_append, String.toList_ofList, String.toList_ofList,
    digitsOf]
  rfl

/-- The text of a number has no plus sign. -/
theorem head?_toString_ne (n : Int) : (toString n).toList.head? ≠ some '+' := by
  have hdigits (m : Nat) : (digitsOf m).head? ≠ some '+' := by
    intro hhead
    have hplus := (digits_digitsOf m).2 '+' (List.mem_of_head? hhead)
    exact absurd hplus (by decide)
  obtain ⟨m, rfl | rfl⟩ := n.eq_nat_or_neg
  · rw [toList_toString]
    exact hdigits m
  · by_cases hpos : 0 < m
    · rw [toList_toString_neg hpos]
      exact fun hhead => absurd (Option.some.inj hhead) (by decide)
    · rw [Nat.eq_zero_of_not_pos hpos]
      exact hdigits 0

/-- A whole number in its plain form: no plus sign, no zero in front of other digits, no minus sign in front of
zero. -/
structure IsPlainWhole (text : List Char) : Prop where
  unsigned : text.head? ≠ some '+'
  leading : (splitSign text).2.head? = some '0' → text = ['0']

/-- All that a text that is read as a whole number can be. -/
theorem integer?_cases {text : List Char} {n : Int} (h : integer? text = some n) :
    (∃ digits, text = '-' :: digits ∧ Digits digits ∧ n = -(natOfDigits digits : Int)) ∨
    (∃ digits, text = '+' :: digits) ∨
    (splitSign text = (false, text) ∧ Digits text ∧ n = natOfDigits text) := by
  unfold integer? at h
  cases hsign : splitSign text with
  | mk negative digits =>
    rw [hsign] at h
    dsimp only at h
    by_cases hbad : digits.isEmpty = true ∨ ¬ digits.all Char.isDigit = true
    · rw [if_pos hbad] at h
      cases h
    · rw [if_neg hbad] at h
      rw [not_or, Classical.not_not, List.all_eq_true, List.isEmpty_iff] at hbad
      unfold splitSign at hsign
      split at hsign
      · obtain ⟨rfl, rfl⟩ := Prod.mk.inj hsign
        exact Or.inl ⟨_, rfl, hbad, (Option.some.inj h).symm⟩
      · exact Or.inr (Or.inl ⟨_, rfl⟩)
      · obtain ⟨rfl, rfl⟩ := Prod.mk.inj hsign
        exact Or.inr (Or.inr ⟨rfl, hbad, (Option.some.inj h).symm⟩)

/-- A text that is read as a whole number is the text of the number exactly if it has the plain form. -/
theorem toList_toString_eq_iff {text : List Char} {n : Int} (h : integer? text = some n) :
    (toString n).toList = text ↔ IsPlainWhole text := by
  rcases integer?_cases h with ⟨digits, rfl, hdigits, rfl⟩ | ⟨digits, rfl⟩ | ⟨hsign, hdigits, rfl⟩
  · constructor
    · intro heq
      refine ⟨by simp, fun hhead => ?_⟩
      -- a minus in front of zeros is not written, so the text is another one
      by_cases hpos : 0 < natOfDigits digits
      · have hlead := Json.head?_digitsOf hpos
        rw [toList_toString_neg hpos, List.cons_inj_right] at heq
        rw [heq] at hlead
        exact absurd hhead hlead
      · rw [Nat.eq_zero_of_not_pos hpos] at heq
        cases heq
    · intro hplain
      have hhead : digits.head? ≠ some '0' := fun hzero => by cases hplain.leading hzero
      rw [toList_toString_neg (natOfDigits_pos hdigits hhead),
        (digitsOf_natOfDigits_iff hdigits).2 fun hzero => absurd hzero hhead]
  · constructor
    · intro heq
      exact absurd (congrArg List.head? heq) (head?_toString_ne n)
    · intro hplain
      exact absurd rfl hplain.unsigned
  · rw [toList_toString, digitsOf_natOfDigits_iff hdigits]
    constructor
    · intro hzero
      refine ⟨fun hplus => ?_, by rwa [hsign]⟩
      exact absurd (hdigits.2 '+' (List.mem_of_head? hplus)) (by decide)
    · intro hplain
      have hleading := hplain.leading
      rwa [hsign] at hleading

end BenchScope.Decimal
