import BenchScope.Proofs.DoubleQuotients

/-!
# Rounding to doubles

A finite double has an exact rational value, and on finite doubles `<` is the order of these values.

The product or quotient of finite doubles, and the double for a natural number, is the exact magnitude put on
the grid of 53 binary digits, ties to even: `Rounds` says so. Everything else follows from it: the result is
finite just when the exact magnitude stays below the midpoint between the greatest double and the next power
of two, and it exceeds the exact magnitude by at most half a step of the grid.
-/

namespace BenchScope.Decimal

open Float.Model Float.Model.UnpackedFloat

/-! ## Exact values -/

/-- The magnitude that a form stands for. -/
def magnitude : UnpackedFloat → ℚ
  | .finite _ mantissa exponent _ => mantissa * 2 ^ exponent
  | _ => 0

/-- The exact value of a finite double. -/
def toRat (x : Float) : ℚ :=
  match Reading.ofFloat x with
  | .finite negative mantissa exponent => (if negative then -1 else 1) * (mantissa * 2 ^ exponent)
  | _ => 0

@[simp] theorem magnitude_zero (sign : Sign) : magnitude (.zero sign) = 0 := rfl

@[simp] theorem magnitude_finite (sign : Sign) {m : Nat} {e : Int} (hpos : 0 < m) :
    magnitude (.finite sign m e hpos) = m * 2 ^ e := rfl

/-- The magnitude of a double is that of its form. -/
theorem abs_toRat (x : Float) : |toRat x| = magnitude x.toModel.unpack := by
  unfold toRat Reading.ofFloat
  cases x.toModel.unpack with
  | notANumber => rfl
  | infinity sign => rfl
  | zero sign => simp [magnitude]
  | finite sign m e =>
    have hpos : (0 : ℚ) ≤ m * 2 ^ e := by positivity
    cases sign <;> simp [isNegative, magnitude, abs_of_nonneg hpos]

/-- Of two magnitudes on the grid of doubles the one that stands farther from zero is greater. -/
theorem magnitude_lt_of_place_lt {m₁ m₂ : Nat} {e₁ e₂ : Int} (hlt₁ : m₁ < 2 ^ 53) (hlt₂ : m₂ < 2 ^ 53)
    (hleast₂ : -1074 ≤ e₂) (hleading₁ : 2 ^ 52 ≤ m₁ ∨ e₁ = -1074) (hleading₂ : 2 ^ 52 ≤ m₂ ∨ e₂ = -1074)
    (hleast₁ : -1074 ≤ e₁) (h : (e₁ + 1074) * 2 ^ 52 + m₁ < (e₂ + 1074) * 2 ^ 52 + m₂) :
    (m₁ : ℚ) * 2 ^ e₁ < m₂ * 2 ^ e₂ := by
  rcases lt_trichotomy e₁ e₂ with he | rfl | he
  · obtain ⟨d, rfl⟩ : ∃ d : Nat, e₂ = e₁ + 1 + d := ⟨(e₂ - e₁ - 1).toNat, by omega⟩
    have hm₁ : (m₁ : ℚ) < 2 ^ 53 := by exact_mod_cast hlt₁
    have hm₂ : (2 : ℚ) ^ 52 ≤ m₂ := by exact_mod_cast hleading₂.resolve_right (by omega)
    have hstep : (1 : ℚ) ≤ 2 ^ d := one_le_pow₀ (by norm_num)
    calc (m₁ : ℚ) * 2 ^ e₁ < 2 ^ 53 * 2 ^ e₁ := by gcongr
      _ = 2 ^ 52 * (2 ^ (e₁ + 1) * 1) := by rw [zpow_add_one₀ (by norm_num)]; ring
      _ ≤ m₂ * (2 ^ (e₁ + 1) * 2 ^ d) := by gcongr
      _ = m₂ * 2 ^ (e₁ + 1 + d) := by rw [← zpow_natCast 2 d, ← zpow_add₀ (by norm_num)]
  · have hm : (m₁ : ℚ) < m₂ := by exact_mod_cast (by omega : m₁ < m₂)
    gcongr
  · omega

/-- The order of finite doubles is that of their exact values. -/
theorem toRat_lt_of_lt {x y : Float} (hx : x.isFinite = true) (hy : y.isFinite = true) (h : x < y) :
    toRat x < toRat y := by
  obtain ⟨-, -, hrank⟩ := lt_iff.1 h
  have hx' := canonical_form x
  have hy' := canonical_form y
  rw [isFinite_eq] at hx hy
  unfold rank at hrank
  unfold toRat Reading.ofFloat
  -- only the forms matter: their places are ordered, and so are what they stand for
  generalize x.toModel.unpack = u at *
  generalize y.toModel.unpack = v at *
  cases hx' with
  | notANumber => cases hx
  | infinity => cases hx
  | zero s =>
    cases hy' with
    | notANumber => cases hy
    | infinity => cases hy
    | zero t => simp [place] at hrank
    | @finite t m e hpos =>
      cases t with
      | negative => simp only [place, Sign.apply] at hrank; omega
      | positive => simp [isNegative]; positivity
  | @finite s m₁ e₁ hpos₁ hlt₁ hleast₁ _ hleading₁ =>
    cases hy' with
    | notANumber => cases hy
    | infinity => cases hy
    | zero t =>
      cases s with
      | negative => simp [isNegative]; positivity
      | positive => simp only [place, Sign.apply] at hrank; omega
    | @finite t m₂ e₂ hpos₂ hlt₂ hleast₂ _ hleading₂ =>
      cases s <;> cases t <;> simp only [place, Sign.apply] at hrank
      -- below zero the greater magnitude is the smaller number
      · have := magnitude_lt_of_place_lt hlt₂ hlt₁ hleast₁ hleading₂ hleading₁ hleast₂ (by omega)
        simpa [isNegative] using this
      · have h₁ : (0 : ℚ) < m₁ * 2 ^ e₁ := by positivity
        have h₂ : (0 : ℚ) < m₂ * 2 ^ e₂ := by positivity
        simp [isNegative]
        linarith
      · omega
      · have := magnitude_lt_of_place_lt hlt₁ hlt₂ hleast₂ hleading₁ hleading₂ hleast₁ (by omega)
        simpa [isNegative] using this

/-! ## Rounding a fraction -/

/-- The bits of an extended mantissa stand for `num / den`: the whole part, whether what is left reaches a
half, and whether it is neither nothing nor a half. -/
structure Represents (em : ExtendedMantissa) (num den : Nat) : Prop where
  whole : em.mantissa = num / den
  round : em.roundBit = true ↔ den ≤ 2 * (num % den)
  sticky : em.stickyBit = true ↔ num % den ≠ 0 ∧ 2 * (num % den) ≠ den

theorem represents_exact (m : Nat) : Represents (.ofMantissaAndAccuracy m .exact) m 1 := by
  refine ⟨(Nat.div_one m).symm, ?_, ?_⟩ <;> simp [ExtendedMantissa.ofMantissaAndAccuracy, Nat.mod_one]

/-- A quotient is represented by its whole part and by what the remainder amounts to. -/
theorem represents_quotient {num den : Nat} (hden : 0 < den) :
    Represents (.ofMantissaAndAccuracy (num / den) (accuracyOfFraction (num % den) den)) num den := by
  unfold accuracyOfFraction
  by_cases hzero : num % den = 0
  · rw [if_pos hzero]
    refine ⟨rfl, ?_, ?_⟩ <;> rw [hzero] <;> simp [ExtendedMantissa.ofMantissaAndAccuracy, hden.ne']
  · rw [if_neg hzero]
    rcases lt_trichotomy (2 * (num % den)) den with h | h | h
    · rw [compare_lt_iff_lt.2 h]
      refine ⟨rfl, ?_, ?_⟩ <;> simp [ExtendedMantissa.ofMantissaAndAccuracy] <;> omega
    · rw [compare_eq_iff_eq.2 h]
      refine ⟨rfl, ?_, ?_⟩ <;> simp [ExtendedMantissa.ofMantissaAndAccuracy] <;> omega
    · rw [compare_gt_iff_gt.2 h]
      refine ⟨rfl, ?_, ?_⟩ <;> simp [ExtendedMantissa.ofMantissaAndAccuracy] <;> omega

/-- Moving the point by one binary digit keeps what the bits stand for. -/
theorem Represents.shiftRightOne {em : ExtendedMantissa} {num den : Nat} (h : Represents em num den)
    (hden : 0 < den) : Represents em.shiftRightOne num (den * 2) := by
  obtain ⟨m, round, sticky⟩ := em
  obtain ⟨hwhole, hround, hsticky⟩ := h
  dsimp only at hwhole hround hsticky
  have hlt := Nat.mod_lt num hden
  have hsplit : num % (den * 2) = num % den + den * (m % 2) := by rw [hwhole, Nat.mod_mul]
  have hbit : m % 2 = 0 ∨ m % 2 = 1 := Nat.mod_two_eq_zero_or_one m
  refine ⟨?_, ?_, ?_⟩
  · change m / 2 = _
    rw [hwhole, Nat.div_div_eq_div_mul]
  · change (m % 2 != 0) = true ↔ _
    rw [hsplit]
    rcases hbit with hbit | hbit <;> simp [hbit] <;> omega
  · change (round || sticky) = true ↔ _
    rw [hsplit, Bool.or_eq_true, hround, hsticky]
    rcases hbit with hbit | hbit <;> simp [hbit] <;> omega

/-- Moving the point by any number of binary digits keeps what the bits stand for. -/
theorem Represents.shiftRight {em : ExtendedMantissa} {num den : Nat} (h : Represents em num den)
    (hden : 0 < den) (k : Nat) : Represents (em >>> k) num (den * 2 ^ k) := by
  induction k with
  | zero =>
    rw [Nat.pow_zero, Nat.mul_one]
    exact h
  | succ k ih =>
    rw [Nat.pow_succ, ← Nat.mul_assoc]
    exact ih.shiftRightOne (Nat.mul_pos hden (Nat.two_pow_pos k))

/-- The rounded mantissa is the fraction rounded to the nearest integer, ties to even. -/
theorem Represents.roundedMantissa {em : ExtendedMantissa} {num den : Nat} (h : Represents em num den)
    (hden : 0 < den) : em.roundedMantissa = roundDiv num den .toEven := by
  obtain ⟨m, round, sticky⟩ := em
  obtain ⟨rfl, hround, hsticky⟩ := h
  dsimp only at hround hsticky
  have hlt := Nat.mod_lt num hden
  unfold roundDiv
  dsimp only
  rcases lt_trichotomy (2 * (num % den)) den with hr | hr | hr
  · have hround' : round = false := by rw [← Bool.not_eq_true, hround]; omega
    rw [if_pos hr, hround']
    cases sticky <;> rfl
  · have hround' : round = true := hround.2 (by omega)
    have hsticky' : sticky = false := by rw [← Bool.not_eq_true, hsticky]; omega
    rw [if_neg (by omega), if_neg (by omega), hround', hsticky']
    change num / den + num / den % 2 = _
    split <;> omega
  · have hround' : round = true := hround.2 (by omega)
    have hsticky' : sticky = true := hsticky.2 (by omega)
    rw [if_neg (by omega), if_pos hr, hround', hsticky']
    rfl

/-- The form with a mantissa of at most 53 bits, or with the one mantissa that a carry can lead to. -/
def carried (sign : Sign) (mantissa : Nat) (exponent : Int) : UnpackedFloat :=
  if h : mantissa = 0 then .zero sign
  else if mantissa < 2 ^ 53 then .finite sign mantissa exponent (Nat.pos_of_ne_zero h)
  else .finite sign (2 ^ 52) (exponent + 1) (by decide)

/-- A mantissa that fits is not moved. -/
theorem shiftToTargetExponent_of_lt {m : Nat} {e : Int} (hlt : m < 2 ^ 53) (hleast : -1074 ≤ e) :
    shiftToTargetExponent .binary64 m e .exact = (⟨m, false, false⟩, e) := by
  have hlog : m.log2 ≤ 52 := by
    rcases Nat.eq_zero_or_pos m with rfl | hpos
    · decide
    · exact Nat.le_of_lt_succ ((Nat.log2_lt (by omega)).2 hlt)
  have hshift : (max ((m.log2 : Int) + e - 52) (-1074) - e).toNat = 0 := by omega
  unfold shiftToTargetExponent shiftToExponent
  dsimp only
  rw [targetExponent_eq, hshift, Int.natCast_zero, Int.add_zero]
  rfl

/-- The mantissa that a carry leads to is moved by one digit, and no bit is lost. -/
theorem shiftToTargetExponent_of_carry {e : Int} (hleast : -1074 ≤ e) :
    shiftToTargetExponent .binary64 (2 ^ 53) e .exact = (⟨2 ^ 52, false, false⟩, e + 1) := by
  have hshift : (max (((2 ^ 53 : Nat).log2 : Int) + e - 52) (-1074) - e).toNat = 1 := by
    rw [Nat.log2_two_pow]
    omega
  unfold shiftToTargetExponent shiftToExponent
  dsimp only
  rw [targetExponent_eq, hshift]
  rfl

/-- How many binary digits rounding removes. -/
def surplus (m : Nat) (e : Int) : Nat := (max ((m.log2 : Int) + e - 52) (-1074) - e).toNat

/-- Without its surplus digits a mantissa fits. -/
theorem div_surplus_lt (m : Nat) (e : Int) : m / 2 ^ surplus m e < 2 ^ 53 := by
  have hnext := Nat.lt_log2_self (n := m)
  rw [Nat.div_lt_iff_lt_mul (Nat.two_pow_pos _), ← Nat.pow_add]
  refine hnext.trans_le (Nat.pow_le_pow_right (by decide) ?_)
  unfold surplus
  omega

/-- Rounding removes the surplus digits and carries at most once. -/
theorem roundWithAccuracy_eq (sign : Sign) {m num den : Nat} {e : Int} {accuracy : Accuracy}
    (h : Represents (.ofMantissaAndAccuracy m accuracy) num den) (hden : 0 < den) :
    roundWithAccuracy .binary64 sign m e accuracy =
      carried sign (roundDiv num (den * 2 ^ surplus m e) .toEven) (e + surplus m e) := by
  -- shifting to the target exponent removes the surplus digits
  have hfirst : shiftToTargetExponent .binary64 m e accuracy =
      (ExtendedMantissa.ofMantissaAndAccuracy m accuracy >>> surplus m e, e + surplus m e) := by
    unfold shiftToTargetExponent shiftToExponent
    dsimp only
    rw [targetExponent_eq]
    rfl
  have hrounded := (h.shiftRight hden (surplus m e)).roundedMantissa
    (Nat.mul_pos hden (Nat.two_pow_pos _))
  -- without them the mantissa fits, and rounding adds one to it at most
  have hbound : roundDiv num (den * 2 ^ surplus m e) .toEven ≤ 2 ^ 53 := by
    have hlt := div_surplus_lt m e
    have hup := (roundedMantissa_bounds (ExtendedMantissa.ofMantissaAndAccuracy m accuracy >>> surplus m e)).2
    rw [mantissa_shiftRight, mantissa_ofMantissaAndAccuracy, hrounded] at hup
    omega
  have hleast : -1074 ≤ e + surplus m e := by
    unfold surplus
    omega
  unfold roundWithAccuracy carried
  rw [hfirst]
  dsimp only
  rw [hrounded]
  generalize roundDiv num (den * 2 ^ surplus m e) .toEven = rounded at hbound
  rcases hbound.lt_or_eq with hlt | rfl
  · rw [shiftToTargetExponent_of_lt hlt hleast]
    simp only [hlt, if_true]
  · rw [shiftToTargetExponent_of_carry hleast]
    rfl

/-! ## The nearest integer -/

/-- A rounded quotient is the whole part of the quotient, or the next integer if a half or more is left. -/
theorem roundDiv_cases (num den : Nat) (tie : Tie) :
    roundDiv num den tie = num / den ∨
      roundDiv num den tie = num / den + 1 ∧ den ≤ 2 * (num % den) := by
  unfold roundDiv
  dsimp only
  by_cases hlt : 2 * (num % den) < den
  · rw [if_pos hlt]
    exact .inl rfl
  rw [if_neg hlt]
  by_cases hgt : den < 2 * (num % den)
  · rw [if_pos hgt]
    exact .inr ⟨rfl, hgt.le⟩
  rw [if_neg hgt]
  cases tie with
  | awayFromZero => exact .inr ⟨rfl, by omega⟩
  | toEven =>
    dsimp only
    split_ifs
    · exact .inl rfl
    · exact .inr ⟨rfl, by omega⟩

/-- A rounded quotient lies between the whole part of the quotient and the next integer. -/
theorem roundDiv_bounds (num den : Nat) (tie : Tie) :
    num / den ≤ roundDiv num den tie ∧ roundDiv num den tie ≤ num / den + 1 := by
  rcases roundDiv_cases num den tie with h | ⟨h, -⟩ <;> omega

/-- A rounded quotient exceeds the quotient by at most a half. -/
theorem roundDiv_le (num den : Nat) (tie : Tie) :
    2 * (roundDiv num den tie * den) ≤ 2 * num + den := by
  have hsplit := Nat.div_add_mod' num den
  rcases roundDiv_cases num den tie with h | ⟨h, hrest⟩
  · rw [h]
    omega
  · rw [h, Nat.add_mul, Nat.one_mul]
    omega

/-- An even integer is reached from halfway below it on. -/
theorem le_roundDiv_iff {num den n : Nat} (hden : 0 < den) (hpos : 0 < n) (heven : n % 2 = 0) :
    n ≤ roundDiv num den .toEven ↔ (2 * n - 1) * den ≤ 2 * num := by
  obtain ⟨hlow, hup⟩ := roundDiv_bounds num den .toEven
  have hsplit := Nat.div_add_mod' num den
  have hlt := Nat.mod_lt num hden
  rcases lt_trichotomy n (num / den + 1) with h | h | h
  · refine iff_of_true (by omega) ?_
    calc (2 * n - 1) * den ≤ 2 * (num / den) * den := Nat.mul_le_mul_right den (by omega)
      _ ≤ 2 * num := by rw [Nat.mul_assoc]; omega
  · -- the quotient is odd, so a half goes up
    have hodd : num / den % 2 ≠ 0 := by omega
    have hleft : (2 * n - 1) * den = 2 * (num / den * den) + den := by
      rw [h, show 2 * (num / den + 1) - 1 = 2 * (num / den) + 1 by omega, Nat.add_mul, Nat.one_mul,
        Nat.mul_assoc]
    rw [hleft]
    unfold roundDiv
    dsimp only
    split_ifs <;> omega
  · refine iff_of_false (by omega) ?_
    have hnext : (2 * (num / den + 1) + 1) * den ≤ (2 * n - 1) * den := Nat.mul_le_mul_right den (by omega)
    rw [Nat.add_mul, Nat.one_mul, Nat.mul_assoc, Nat.add_mul, Nat.one_mul] at hnext
    omega

/-! ## The grid of doubles -/

/-- A form is a magnitude put on the grid of doubles. The magnitude is `num / den` steps of size `2 ^ t`;
the number of steps has 53 binary digits, or fewer if the step is the least one, and is rounded. -/
inductive Rounds (sign : Sign) : ℚ → UnpackedFloat → Prop where
  | mk {num den : Nat} {t : Int} (hden : 0 < den) (hlt : num / den < 2 ^ 53) (hleast : -1074 ≤ t)
      (hleading : 2 ^ 52 ≤ num / den ∨ t = -1074) :
      Rounds sign ((num : ℚ) / den * 2 ^ t) (carried sign (roundDiv num den .toEven) t)

theorem rounds_zero (sign : Sign) : Rounds sign 0 (.zero sign) := by
  have h := @Rounds.mk sign 0 1 (-1074) (by decide) (by decide) (by decide) (.inr rfl)
  rw [Nat.cast_zero, zero_div, zero_mul] at h
  exact h

/-- Rounding puts a magnitude on the grid of doubles, if its digits are enough to tell which step it is
on. -/
theorem rounds_roundWithAccuracy (sign : Sign) {m num den : Nat} {e : Int} {accuracy : Accuracy}
    (h : Represents (.ofMantissaAndAccuracy m accuracy) num den) (hden : 0 < den)
    (hfits : 52 ≤ m.log2 ∨ e ≤ -1074) :
    Rounds sign ((num : ℚ) / den * 2 ^ e) (roundWithAccuracy .binary64 sign m e accuracy) := by
  have hwhole : num / den = m := by rw [← h.whole, mantissa_ofMantissaAndAccuracy]
  have hexponent : e + surplus m e = max ((m.log2 : Int) + e - 52) (-1074) := by
    unfold surplus
    omega
  have hquotient : num / (den * 2 ^ surplus m e) = m / 2 ^ surplus m e := by
    rw [← Nat.div_div_eq_div_mul, hwhole]
  have hvalue : (num : ℚ) / den * 2 ^ e =
      (num : ℚ) / (den * 2 ^ surplus m e : Nat) * 2 ^ (e + surplus m e) := by
    rw [zpow_add₀ (by norm_num), zpow_natCast, Nat.cast_mul, Nat.cast_pow, Nat.cast_ofNat]
    field_simp
  rw [roundWithAccuracy_eq sign h hden, hvalue]
  refine .mk (Nat.mul_pos hden (Nat.two_pow_pos _)) ?_ (by omega) ?_
  · rw [hquotient]
    exact div_surplus_lt m e
  · rw [hquotient, or_iff_not_imp_right]
    intro hmin
    have hlog : m.log2 = 52 + surplus m e := by omega
    rw [Nat.le_div_iff_mul_le (Nat.two_pow_pos _), ← Nat.pow_add, ← hlog]
    refine Nat.log2_self_le ?_
    rintro rfl
    rw [Nat.log2_zero] at hlog
    omega

/-- A carry does not change the magnitude. -/
theorem magnitude_carried (sign : Sign) {mantissa : Nat} (h : mantissa ≤ 2 ^ 53) (exponent : Int) :
    magnitude (carried sign mantissa exponent) = mantissa * 2 ^ exponent := by
  unfold carried
  split_ifs with hzero hlt
  · simp [magnitude, hzero]
  · rfl
  · obtain rfl : mantissa = 2 ^ 53 := by omega
    simp only [magnitude]
    rw [zpow_add_one₀ (by norm_num)]
    push_cast
    ring

/-- The least magnitude that is rounded to an infinity: the midpoint between the greatest double and the
power of two behind it. -/
def overflow : ℚ := (2 ^ 54 - 1) * 2 ^ (970 : Int)

/-- A form beyond the greatest exponent is packed as an infinity is. -/
theorem pack_eq_infinity (sign : Sign) {m : Nat} {e : Int} (hpos : 0 < m) (hgreat : 971 < e) :
    Float.Model.pack (.finite sign m e hpos) = .pack (.infinity sign) := by
  unfold Float.Model.pack
  congr 2
  exact pack_overflow sign hpos hgreat

/-- Rounding a quotient of 53 bits carries from half a step below the next power of two on. -/
theorem carries_iff {num den : Nat} (hden : 0 < den) :
    2 ^ 53 ≤ roundDiv num den .toEven ↔ (2 ^ 54 - 1) / 2 ≤ (num : ℚ) / den := by
  have hden' : (0 : ℚ) < den := by exact_mod_cast hden
  rw [le_roundDiv_iff hden (by decide) (by decide), div_le_div_iff₀ (by norm_num) hden',
    ← @Nat.cast_le ℚ]
  norm_num [mul_comm]

/-- A number of steps lies below the midpoint if the steps are shorter than those of the greatest doubles,
or as long and rounded without a carry. -/
theorem lt_overflow_of_steps {count : ℚ} {t : Int} (hcount : count < 2 ^ 53)
    (hfits : t ≤ 970 ∨ t = 970 + 1 ∧ count < (2 ^ 54 - 1) / 2) : count * 2 ^ t < overflow := by
  have hpos : (0 : ℚ) < 2 ^ (970 : Int) := by positivity
  unfold overflow
  rcases hfits with ht | ⟨rfl, hfew⟩
  · have hscale : (2 : ℚ) ^ t ≤ 2 ^ (970 : Int) := zpow_le_zpow_right₀ (by norm_num) ht
    calc count * 2 ^ t ≤ 2 ^ 53 * 2 ^ (970 : Int) := by gcongr
      _ < (2 ^ 54 - 1) * 2 ^ (970 : Int) := by gcongr; norm_num
  · rw [zpow_add_one₀ two_ne_zero 970]
    generalize (2 : ℚ) ^ (970 : Int) = step at hpos
    nlinarith

/-- It reaches the midpoint if the steps are longer, or as long and rounded with a carry. -/
theorem overflow_le_of_steps {count : ℚ} {t : Int} (hcount : 2 ^ 52 ≤ count)
    (hgreat : t = 970 + 1 ∧ (2 ^ 54 - 1) / 2 ≤ count ∨ 970 + 2 ≤ t) : overflow ≤ count * 2 ^ t := by
  have hpos : (0 : ℚ) < 2 ^ (970 : Int) := by positivity
  unfold overflow
  rcases hgreat with ⟨rfl, hmany⟩ | ht
  · rw [zpow_add_one₀ two_ne_zero 970]
    generalize (2 : ℚ) ^ (970 : Int) = step at hpos
    nlinarith
  · have hfour : (2 : ℚ) ^ ((970 : Int) + 2) = 2 ^ (970 : Int) * 2 ^ (2 : Int) :=
      zpow_add₀ two_ne_zero 970 2
    have hscale : (2 : ℚ) ^ ((970 : Int) + 2) ≤ 2 ^ t := zpow_le_zpow_right₀ (by norm_num) ht
    rw [hfour, show (2 : ℚ) ^ (2 : Int) = 4 by norm_num] at hscale
    generalize (2 : ℚ) ^ (970 : Int) = step at hpos hscale
    nlinarith

/-- Below that midpoint the rounded form is the form of a double, from there on it is packed into an
infinity. -/
theorem Rounds.cases {sign : Sign} {v : ℚ} {form : UnpackedFloat} (h : Rounds sign v form) :
    v < overflow ∧ Canonical form ∧ form.isFinite = true ∨
      overflow ≤ v ∧ Float.Model.pack form = .pack (.infinity sign) := by
  obtain @⟨num, den, t, hden, hlt, hleast, hleading⟩ := h
  obtain ⟨hlow, hup⟩ := roundDiv_bounds num den .toEven
  have hden' : (0 : ℚ) < den := by exact_mod_cast hden
  have hreach := @carries_iff num den hden
  generalize roundDiv num den .toEven = rounded at hlow hup hreach
  -- the greatest exponent of a double is 971, and a carry adds one
  by_cases hfits : t ≤ 970 ∨ t = 970 + 1 ∧ rounded < 2 ^ 53
  · left
    have hcount : (num : ℚ) / den < 2 ^ 53 := by
      rw [div_lt_iff₀ hden']
      exact_mod_cast (Nat.div_lt_iff_lt_mul hden).1 hlt
    have hsteps : t ≤ 970 ∨ t = 970 + 1 ∧ (num : ℚ) / den < (2 ^ 54 - 1) / 2 := by
      rwa [← not_le (a := 2 ^ 53), hreach, not_le] at hfits
    refine ⟨lt_overflow_of_steps hcount hsteps, ?_, ?_⟩
    · unfold carried
      split_ifs with hzero hfew
      · exact .zero sign
      · exact .finite _ hfew hleast (by omega) (by omega)
      · exact .finite _ (by decide) (by omega) (by omega) (.inl (by decide))
    · unfold carried
      split_ifs <;> rfl
  · right
    simp only [not_or, not_and, not_lt, not_le] at hfits
    obtain ⟨hgreat, hcarry⟩ := hfits
    have hleading' : 2 ^ 52 ≤ num / den := hleading.resolve_right (by omega)
    have hcount : (2 : ℚ) ^ 52 ≤ num / den := by
      rw [le_div_iff₀ hden']
      exact_mod_cast (Nat.le_div_iff_mul_le hden).1 hleading'
    have hsteps : t = 970 + 1 ∧ (2 ^ 54 - 1) / 2 ≤ (num : ℚ) / den ∨ 970 + 2 ≤ t := by
      rcases (by omega : t = 970 + 1 ∨ 970 + 2 ≤ t) with heq | hlonger
      · exact Or.inl ⟨heq, hreach.1 (hcarry heq)⟩
      · exact Or.inr hlonger
    refine ⟨overflow_le_of_steps hcount hsteps, ?_⟩
    unfold carried
    split_ifs with hzero hfew
    · omega
    · exact pack_eq_infinity sign _ (by omega)
    · exact pack_eq_infinity sign _ (by omega)

/-- A magnitude on the grid is that of a finite double if it lies below the midpoint behind the greatest
one. -/
theorem isFinite_pack_iff {sign : Sign} {v : ℚ} {form : UnpackedFloat} (h : Rounds sign v form) :
    (Float.ofModel (.pack form)).isFinite = true ↔ v < overflow := by
  rcases h.cases with ⟨hlt, hform, hfinite⟩ | ⟨hle, hpack⟩
  · rw [isFinite_pack hform]
    exact iff_of_true hfinite hlt
  · rw [hpack, isFinite_pack (.infinity sign)]
    exact iff_of_false (by simp [UnpackedFloat.isFinite]) hle.not_gt

/-- A rounded magnitude exceeds the exact one by at most half a step, and a step is small beside the
magnitude unless it is the least one. -/
theorem abs_toRat_pack_le {sign : Sign} {v : ℚ} {form : UnpackedFloat} (h : Rounds sign v form)
    (hlt : v < overflow) :
    |toRat (.ofModel (.pack form))| ≤ v + max (v / 2 ^ 53) (2 ^ (-1075 : Int)) := by
  have hpack : |toRat (.ofModel (.pack form))| = magnitude form := by
    rcases h.cases with ⟨-, hform, -⟩ | ⟨hle, -⟩
    · rw [abs_toRat]
      exact congrArg magnitude (unpack_pack hform)
    · exact absurd hlt hle.not_gt
  rw [hpack]
  obtain @⟨num, den, t, hden, hfew, hleast, hleading⟩ := h
  have hden' : (0 : ℚ) < den := by exact_mod_cast hden
  have hbound := (roundDiv_bounds num den .toEven).2
  -- in steps, rounding adds a half at most
  have hround : (roundDiv num den .toEven : ℚ) ≤ num / den + 1 / 2 := by
    have hnat := roundDiv_le num den .toEven
    rw [← @Nat.cast_le ℚ] at hnat
    push_cast at hnat
    have hsplit : (num : ℚ) / den * den = num := div_mul_cancel₀ _ hden'.ne'
    nlinarith
  -- half a step is small beside the magnitude, as it has 53 digits, or the step is the least one
  have hhalf : (2 : ℚ) ^ t / 2 ≤ max ((num : ℚ) / den * 2 ^ t / 2 ^ 53) (2 ^ (-1075 : Int)) := by
    rcases hleading with hleading | rfl
    · refine le_max_of_le_left ?_
      have hsteps : (2 : ℚ) ^ 52 ≤ num / den := by
        rw [le_div_iff₀ hden']
        exact_mod_cast (Nat.le_div_iff_mul_le hden).1 hleading
      have hpos : (0 : ℚ) < 2 ^ t := by positivity
      rw [div_le_div_iff₀ (by norm_num) (by norm_num)]
      nlinarith
    · refine le_max_of_le_right ?_
      have hstep := zpow_add_one₀ (two_ne_zero : (2 : ℚ) ≠ 0) (-1075)
      rw [show (-1074 : Int) = -1075 + 1 from rfl, hstep, mul_div_cancel_right₀ _ two_ne_zero]
  rw [magnitude_carried sign (by omega)]
  calc (roundDiv num den .toEven : ℚ) * 2 ^ t ≤ (num / den + 1 / 2) * 2 ^ t := by gcongr
    _ = num / den * 2 ^ t + 2 ^ t / 2 := by ring
    _ ≤ _ := by gcongr

/-! ## Products, quotients and natural numbers -/

/-- The forms of finite doubles. -/
theorem finite_form {x : Float} (h : x.isFinite = true) :
    (∃ sign, x.toModel.unpack = .zero sign) ∨ ∃ (sign : Sign) (m : Nat) (e : Int) (hpos : 0 < m),
      x.toModel.unpack = .finite sign m e hpos ∧ m < 2 ^ 53 ∧ -1074 ≤ e ∧ e ≤ 971 ∧
      (2 ^ 52 ≤ m ∨ e = -1074) := by
  have hx := canonical_form x
  rw [isFinite_eq] at h
  generalize x.toModel.unpack = form at *
  cases hx with
  | notANumber => cases h
  | infinity => cases h
  | zero sign => exact .inl ⟨sign, rfl⟩
  | @finite sign m e hpos hlt hleast hgreatest hleading =>
    exact .inr ⟨sign, m, e, hpos, rfl, hlt, hleast, hgreatest, hleading⟩

theorem mul_eq (x y : Float) : x * y =
    .ofModel (.pack (UnpackedFloat.mul .binary64 x.toModel.unpack y.toModel.unpack)) := rfl

/-- A product is the product of the exact magnitudes, put on the grid. -/
theorem exists_rounds_mul {x y : Float} (hx : x.isFinite = true) (hy : y.isFinite = true) :
    ∃ sign, Rounds sign (|toRat x| * |toRat y|)
      (UnpackedFloat.mul .binary64 x.toModel.unpack y.toModel.unpack) := by
  rw [abs_toRat, abs_toRat]
  rcases finite_form hx with ⟨s₁, hx⟩ | ⟨s₁, m₁, e₁, hpos₁, hx, -, -, -, hleading₁⟩
  · rcases finite_form hy with ⟨s₂, hy⟩ | ⟨s₂, m₂, e₂, hpos₂, hy, -⟩
    · rw [hx, hy, magnitude_zero, zero_mul]
      exact ⟨_, rounds_zero (s₁ * s₂)⟩
    · rw [hx, hy, magnitude_zero, zero_mul]
      exact ⟨_, rounds_zero (s₁ * s₂)⟩
  rcases finite_form hy with ⟨s₂, hy⟩ | ⟨s₂, m₂, e₂, hpos₂, hy, -, -, -, hleading₂⟩
  · rw [hx, hy, magnitude_zero, mul_zero]
    exact ⟨_, rounds_zero (s₁ * s₂)⟩
  · have hfits : 52 ≤ (m₁ * m₂).log2 ∨ e₁ + e₂ ≤ -1074 := by
      by_cases hsmall : e₁ = -1074 ∧ e₂ = -1074
      · exact .inr (by omega)
      · -- one of the factors has all its digits
        refine .inl ((Nat.le_log2 (Nat.mul_pos hpos₁ hpos₂).ne').2 ?_)
        rcases (by omega : 2 ^ 52 ≤ m₁ ∨ 2 ^ 52 ≤ m₂) with h | h
        · exact h.trans (Nat.le_mul_of_pos_right _ hpos₂)
        · exact h.trans (Nat.le_mul_of_pos_left _ hpos₁)
    have hrounds := rounds_roundWithAccuracy (s₁ * s₂) (represents_exact (m₁ * m₂)) Nat.one_pos hfits
    have hvalue : ((m₁ * m₂ : Nat) : ℚ) / (1 : Nat) * 2 ^ (e₁ + e₂) = m₁ * 2 ^ e₁ * (m₂ * 2 ^ e₂) := by
      rw [zpow_add₀ two_ne_zero e₁ e₂, Nat.cast_one, Nat.cast_mul]
      ring
    rw [hvalue] at hrounds
    rw [hx, hy]
    exact ⟨_, hrounds⟩

/-- A quotient is the quotient of the exact magnitudes, put on the grid. -/
theorem exists_rounds_div {x y : Float} (hx : x.isFinite = true) (hy : y.isFinite = true)
    (hzero : toRat y ≠ 0) :
    ∃ sign, Rounds sign (|toRat x| / |toRat y|)
      (UnpackedFloat.div .binary64 x.toModel.unpack y.toModel.unpack) := by
  have hzero' : magnitude y.toModel.unpack ≠ 0 := by rwa [← abs_toRat, abs_ne_zero]
  rw [abs_toRat, abs_toRat]
  rcases finite_form hy with ⟨s₂, hy⟩ | ⟨s₂, m₂, e₂, hpos₂, hy, hlt₂, -⟩
  · rw [hy] at hzero'
    exact absurd rfl hzero'
  rcases finite_form hx with ⟨s₁, hx⟩ | ⟨s₁, m₁, e₁, hpos₁, hx, hlt₁, -⟩
  · rw [hx, hy, magnitude_zero, zero_div]
    exact ⟨_, rounds_zero (s₁ / s₂)⟩
  have hlog₁ : m₁.log2 ≤ 52 := Nat.le_of_lt_succ ((Nat.log2_lt hpos₁.ne').2 hlt₁)
  have htarget : Format.binary64.targetExponent (totalExponent m₁ e₁ - totalExponent m₂ e₂) =
      max ((m₁.log2 : Int) + e₁ - (m₂.log2 + e₂) - 53) (-1074) := by
    unfold Format.targetExponent totalExponent
    change max (((m₁.log2 : Int) + 1 + e₁) - ((m₂.log2 : Int) + 1 + e₂) - 53) (-1074) = _
    congr 1
    omega
  -- `t` is the exponent that the quotient is taken at, `shift` moves the dividend there
  obtain ⟨t, shift, hcore, hsum, hlow⟩ : ∃ (t : Int) (shift : Nat),
      divCore .binary64 m₁ e₁ m₂ e₂ =
        (m₁ * 2 ^ shift / m₂, t, accuracyOfFraction (m₁ * 2 ^ shift % m₂) m₂) ∧
      t + shift = e₁ - e₂ ∧ (m₂.log2 + 53 ≤ m₁.log2 + shift ∨ t ≤ -1074) := by
    refine ⟨_, _, by unfold divCore; dsimp only; rw [Nat.shiftLeft_eq, htarget], ?_, ?_⟩
    · omega
    · omega
  have hfits : 52 ≤ (m₁ * 2 ^ shift / m₂).log2 ∨ t ≤ -1074 := by
    refine hlow.imp_left fun hlow => ?_
    have hself := Nat.log2_self_le hpos₁.ne'
    have hnext := Nat.lt_log2_self (n := m₂)
    have hquotient : 2 ^ 52 ≤ m₁ * 2 ^ shift / m₂ := by
      rw [Nat.le_div_iff_mul_le hpos₂]
      calc 2 ^ 52 * m₂ ≤ 2 ^ 52 * 2 ^ (m₂.log2 + 1) := Nat.mul_le_mul_left _ hnext.le
        _ = 2 ^ (m₂.log2 + 53) := by rw [← Nat.pow_add]; congr 1; omega
        _ ≤ 2 ^ (m₁.log2 + shift) := Nat.pow_le_pow_right (by decide) hlow
        _ = 2 ^ m₁.log2 * 2 ^ shift := Nat.pow_add 2 _ _
        _ ≤ m₁ * 2 ^ shift := Nat.mul_le_mul_right _ hself
    exact (Nat.le_log2 (by omega)).2 hquotient
  have hrounds := rounds_roundWithAccuracy (s₁ / s₂) (represents_quotient hpos₂) hpos₂ hfits
  have hvalue : ((m₁ * 2 ^ shift : Nat) : ℚ) / m₂ * 2 ^ t = m₁ * 2 ^ e₁ / (m₂ * 2 ^ e₂) := by
    have hexponents : (2 : ℚ) ^ t * 2 ^ shift * 2 ^ e₂ = 2 ^ e₁ := by
      rw [← zpow_natCast 2 shift, ← zpow_add₀ two_ne_zero, ← zpow_add₀ two_ne_zero]
      congr 1
      omega
    have hm₂ : (m₂ : ℚ) ≠ 0 := by exact_mod_cast hpos₂.ne'
    rw [← hexponents, Nat.cast_mul, Nat.cast_pow, Nat.cast_ofNat]
    field_simp
  rw [hvalue] at hrounds
  rw [hx, hy, UnpackedFloat.div, hcore]
  exact ⟨_, hrounds⟩

/-- A product is finite if the exact product is in the range of doubles. -/
theorem isFinite_mul_iff {x y : Float} (hx : x.isFinite = true) (hy : y.isFinite = true) :
    (x * y).isFinite = true ↔ |toRat x| * |toRat y| < overflow := by
  obtain ⟨sign, hrounds⟩ := exists_rounds_mul hx hy
  rw [mul_eq]
  exact isFinite_pack_iff hrounds

/-- A quotient is finite if the exact quotient is in the range of doubles. -/
theorem isFinite_div_iff {x y : Float} (hx : x.isFinite = true) (hy : y.isFinite = true)
    (hzero : toRat y ≠ 0) : (x / y).isFinite = true ↔ |toRat x| / |toRat y| < overflow := by
  obtain ⟨sign, hrounds⟩ := exists_rounds_div hx hy hzero
  rw [div_eq]
  exact isFinite_pack_iff hrounds

/-- No finite double reaches the midpoint behind the greatest one. -/
theorem abs_toRat_lt {x : Float} (h : x.isFinite = true) : |toRat x| < overflow := by
  rw [abs_toRat]
  rcases finite_form h with ⟨s, hx⟩ | ⟨s, m, e, hpos, hx, hlt, -, hgreatest, -⟩
  · rw [hx, magnitude_zero]
    unfold overflow
    positivity
  · have hm : (m : ℚ) ≤ 2 ^ 53 - 1 := by
      have : m + 1 ≤ 2 ^ 53 := hlt
      rw [← @Nat.cast_le ℚ] at this
      push_cast at this
      linarith
    have hstep : (2 : ℚ) ^ ((970 : Int) + 1) = 2 ^ (970 : Int) * 2 := zpow_add_one₀ two_ne_zero 970
    have hscale : (2 : ℚ) ^ e ≤ 2 ^ ((970 : Int) + 1) := zpow_le_zpow_right₀ (by norm_num) (by omega)
    have hpos : (0 : ℚ) < 2 ^ (970 : Int) := by positivity
    rw [hx, magnitude_finite]
    unfold overflow
    rw [hstep] at hscale
    generalize (2 : ℚ) ^ (970 : Int) = step at hpos hscale
    calc (m : ℚ) * 2 ^ e ≤ (2 ^ 53 - 1) * (step * 2) := by gcongr
      _ < (2 ^ 54 - 1) * step := by nlinarith

/-- Dividing by a number of at least one keeps a double finite. -/
theorem isFinite_div {x y : Float} (hx : x.isFinite = true) (hy : y.isFinite = true)
    (hone : 1 ≤ |toRat y|) : (x / y).isFinite = true := by
  have hzero : toRat y ≠ 0 := abs_pos.1 (by linarith)
  rw [isFinite_div_iff hx hy hzero]
  exact (div_le_self (abs_nonneg _) hone).trans_lt (abs_toRat_lt hx)

/-- The double for a natural number is the number, put on the grid. -/
theorem rounds_ofNat (n : Nat) : Rounds .positive n (UnpackedFloat.ofNat .binary64 n) := by
  unfold UnpackedFloat.ofNat UnpackedFloat.ofInt UnpackedFloat.normalize
  rcases Nat.eq_zero_or_pos n with rfl | hpos
  · rw [Nat.cast_zero, Nat.cast_zero]
    exact rounds_zero .positive
  have hcompare : compare (n : Int) 0 = .gt := compare_gt_iff_gt.2 (by omega)
  rw [hcompare, Int.toNat_natCast]
  unfold UnpackedFloat.round decreaseExponent
  dsimp only
  rw [targetExponent_eq, Nat.shiftLeft_eq]
  -- a number of fewer than 53 binary digits gets zeros behind the point
  generalize hshift : (0 - max ((n.log2 : Int) + 0 - 52) (-1074)).toNat = shift
  have hfits : 52 ≤ (n * 2 ^ shift).log2 := by
    rw [Nat.le_log2 (Nat.mul_pos hpos (Nat.two_pow_pos _)).ne']
    calc 2 ^ 52 ≤ 2 ^ (n.log2 + shift) := Nat.pow_le_pow_right (by decide) (by omega)
      _ = 2 ^ n.log2 * 2 ^ shift := Nat.pow_add 2 _ _
      _ ≤ n * 2 ^ shift := Nat.mul_le_mul_right _ (Nat.log2_self_le hpos.ne')
  have hrounds := rounds_roundWithAccuracy .positive (represents_exact (n * 2 ^ shift)) Nat.one_pos
    (e := 0 - shift) (.inl hfits)
  have hvalue : ((n * 2 ^ shift : Nat) : ℚ) / (1 : Nat) * 2 ^ (0 - (shift : Int)) = n := by
    rw [zero_sub, zpow_neg, zpow_natCast]
    push_cast
    field_simp
  rw [hvalue] at hrounds
  exact hrounds

theorem toFloat_eq (n : UInt64) :
    n.toFloat = .ofModel (.pack (UnpackedFloat.ofNat .binary64 n.toNat)) := rfl

theorem natCast_lt_overflow {n : Nat} (h : n < 2 ^ 64) : (n : ℚ) < overflow := by
  have hn : (n : ℚ) < 2 ^ (64 : Int) := by exact_mod_cast h
  calc (n : ℚ) < 2 ^ (64 : Int) := hn
    _ ≤ 2 ^ (970 : Int) := zpow_le_zpow_right₀ (by norm_num) (by decide)
    _ ≤ overflow := le_mul_of_one_le_left (by positivity) (by norm_num)

/-- The double for a natural number of 64 bits is finite. -/
theorem isFinite_toFloat (n : UInt64) : n.toFloat.isFinite = true := by
  rw [toFloat_eq, isFinite_pack_iff (rounds_ofNat n.toNat)]
  exact natCast_lt_overflow n.toNat_lt

/-- Changing the sign of a form keeps its leading bit in its place. -/
theorem canonical_neg {form : UnpackedFloat} (h : Canonical form) : Canonical form.neg := by
  cases h with
  | notANumber => exact .notANumber
  | infinity sign => exact .infinity (-sign)
  | zero sign => exact .zero (-sign)
  | finite hpos hlt hleast hgreatest hleading => exact .finite hpos hlt hleast hgreatest hleading

theorem isFinite_neg (x : Float) : (-x).isFinite = x.isFinite := by
  have hneg : -x = .ofModel (.pack x.toModel.unpack.neg) := rfl
  rw [hneg, isFinite_pack (canonical_neg (canonical_form x)), isFinite_eq]
  cases x.toModel.unpack <;> rfl

theorem isFinite_signed (negative : Bool) (x : Float) : (signed negative x).isFinite = x.isFinite := by
  cases negative with
  | false => rfl
  | true => exact isFinite_neg x

end BenchScope.Decimal
