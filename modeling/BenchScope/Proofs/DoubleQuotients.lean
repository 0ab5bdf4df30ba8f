import BenchScope.Proofs.DoubleOrder

/-!
# Quotients of doubles

A quotient is taken with more bits than a double holds and then rounded once. Rounding never takes a value
below a power of two that it has reached, so dividing by a positive number that is not greater gives at
least one; a number divided by itself gives exactly one; and nothing divided by zero is finite.
-/

namespace BenchScope.Decimal

open Float.Model Float.Model.UnpackedFloat

/-! ## Rounding -/

/-- Shifting a mantissa divides it and drops the remainder. -/
theorem mantissa_shiftRight (em : ExtendedMantissa) (k : Nat) :
    (em >>> k).mantissa = em.mantissa / 2 ^ k := by
  induction k with
  | zero => exact (Nat.div_one _).symm
  | succ k ih =>
    change (em >>> k).mantissa / 2 = _
    rw [ih, Nat.div_div_eq_div_mul, Nat.pow_succ]

theorem mantissa_ofMantissaAndAccuracy (m : Nat) (accuracy : Accuracy) :
    (ExtendedMantissa.ofMantissaAndAccuracy m accuracy).mantissa = m := by
  cases accuracy with
  | exact => rfl
  | inexact order => cases order <;> rfl

/-- Rounding keeps a mantissa or adds one to it. -/
theorem roundedMantissa_bounds (em : ExtendedMantissa) :
    em.mantissa ≤ em.roundedMantissa ∧ em.roundedMantissa ≤ em.mantissa + 1 := by
  obtain ⟨m, round, sticky⟩ := em
  cases round <;> cases sticky <;>
    simp only [ExtendedMantissa.roundedMantissa, ExtendedMantissa.accuracy,
      Accuracy.roundToNearestEven] <;> omega

/-- The exponent at which the leading bit has its place, or the least one. -/
theorem targetExponent_eq (m : Nat) (e : Int) :
    Format.binary64.targetExponent (totalExponent m e) = max (m.log2 + e - 52) (-1074) := by
  unfold Format.targetExponent totalExponent
  change max (((m.log2 : Int) + 1 + e) - 53) (-1074) = _
  congr 1
  omega

/-- A mantissa of 53 bits or more, for a value of at least one: the first shift leaves 53 bits. -/
theorem shiftToTargetExponent_leading {m : Nat} {e : Int} (accuracy : Accuracy) (hlow : 2 ^ 52 ≤ m)
    (hvalue : 0 ≤ m.log2 + e) :
    (shiftToTargetExponent .binary64 m e accuracy).2 = m.log2 + e - 52 ∧
      2 ^ 52 ≤ (shiftToTargetExponent .binary64 m e accuracy).1.mantissa ∧
      (shiftToTargetExponent .binary64 m e accuracy).1.mantissa < 2 ^ 53 := by
  have hlog : 52 ≤ m.log2 := (Nat.le_log2 (by omega)).2 hlow
  have hshift : (max ((m.log2 : Int) + e - 52) (-1074) - e).toNat = m.log2 - 52 := by omega
  have hself := Nat.log2_self_le (n := m) (by omega)
  have hnext := Nat.lt_log2_self (n := m)
  unfold shiftToTargetExponent shiftToExponent
  dsimp only
  rw [targetExponent_eq, hshift, mantissa_shiftRight, mantissa_ofMantissaAndAccuracy]
  refine ⟨by omega, ?_, ?_⟩
  · rw [Nat.le_div_iff_mul_le (Nat.two_pow_pos _), ← Nat.pow_add, Nat.add_sub_cancel' hlog]
    exact hself
  · rw [Nat.div_lt_iff_lt_mul (Nat.two_pow_pos _), ← Nat.pow_add]
    rwa [show 53 + (m.log2 - 52) = m.log2 + 1 by omega]

/-- Rounding a value of at least one gives a form with a leading bit, for a value of at least one. -/
theorem roundWithAccuracy_leading (sign : Sign) {m : Nat} {e : Int} (accuracy : Accuracy)
    (hlow : 2 ^ 52 ≤ m) (hvalue : 0 ≤ m.log2 + e) :
    ∃ (mantissa : Nat) (exponent : Int) (hpos : 0 < mantissa),
      roundWithAccuracy .binary64 sign m e accuracy = .finite sign mantissa exponent hpos ∧
      2 ^ 52 ≤ mantissa ∧ mantissa < 2 ^ 53 ∧ -52 ≤ exponent := by
  obtain ⟨hexponent, hfirst, hlast⟩ := shiftToTargetExponent_leading accuracy hlow hvalue
  unfold roundWithAccuracy
  dsimp only
  generalize shiftToTargetExponent .binary64 m e accuracy = shifted at hexponent hfirst hlast
  obtain ⟨em, e'⟩ := shifted
  dsimp only at hexponent hfirst hlast ⊢
  obtain ⟨hdown, hup⟩ := roundedMantissa_bounds em
  generalize em.roundedMantissa = rounded at hdown hup
  -- rounding up can carry into a 54th bit, which the second shift removes
  have hlog : 52 ≤ rounded.log2 := (Nat.le_log2 (by omega)).2 (by omega)
  obtain ⟨hexponent', hfirst', hlast'⟩ := shiftToTargetExponent_leading (m := rounded) (e := e') .exact
    (by omega) (by omega)
  rw [dif_neg (by omega)]
  exact ⟨_, _, _, rfl, hfirst', hlast', by omega⟩

/-! ## Quotients -/

/-- The quotient of two mantissas whose exponents are `d` apart, for a dividend that is not shorter than
the divisor. -/
theorem divCore_eq {m₁ m₂ d : Nat} {e : Int} (h₁ : m₁.log2 ≤ 52) (hlog : m₂.log2 ≤ m₁.log2 + d) :
    divCore .binary64 m₁ (e + d) m₂ e =
      (m₁ * 2 ^ (m₂.log2 + 53 - m₁.log2) / m₂, (d : Int) + m₁.log2 - m₂.log2 - 53,
        accuracyOfFraction (m₁ * 2 ^ (m₂.log2 + 53 - m₁.log2) % m₂) m₂) := by
  have htarget : Format.binary64.targetExponent (totalExponent m₁ (e + d) - totalExponent m₂ e) =
      (d : Int) + m₁.log2 - m₂.log2 - 53 := by
    unfold Format.targetExponent totalExponent
    change max (((m₁.log2 : Int) + 1 + (e + d)) - ((m₂.log2 : Int) + 1 + e) - 53) (-1074) = _
    omega
  have hmin : min (e + d - e) ((d : Int) + m₁.log2 - m₂.log2 - 53) = d + m₁.log2 - m₂.log2 - 53 := by
    omega
  have hshift : (e + d - e - ((d : Int) + m₁.log2 - m₂.log2 - 53)).toNat = m₂.log2 + 53 - m₁.log2 := by
    omega
  unfold divCore
  dsimp only
  rw [htarget, hmin, hshift, Nat.shiftLeft_eq]

/-- That quotient has 53 bits or more, and if the dividend is not below the divisor it is at least one. -/
theorem divCore_leading {m₁ m₂ d : Nat} (hpos₁ : 0 < m₁) (hpos₂ : 0 < m₂) (h₁ : m₁.log2 ≤ 52)
    (hle : m₂ ≤ m₁ * 2 ^ d) :
    2 ^ 52 ≤ m₁ * 2 ^ (m₂.log2 + 53 - m₁.log2) / m₂ ∧
      0 ≤ ((m₁ * 2 ^ (m₂.log2 + 53 - m₁.log2) / m₂).log2 : Int) +
        (d + m₁.log2 - m₂.log2 - 53) := by
  -- the dividend is moved by `k` bits before the division, so the quotient loses nothing
  generalize hk : m₂.log2 + 53 - m₁.log2 = k
  have hself := Nat.log2_self_le (n := m₁) (by omega)
  have hnext := Nat.lt_log2_self (n := m₂)
  have hquotient : 2 ^ 52 ≤ m₁ * 2 ^ k / m₂ := by
    rw [Nat.le_div_iff_mul_le hpos₂]
    calc 2 ^ 52 * m₂ ≤ 2 ^ 52 * 2 ^ (m₂.log2 + 1) := Nat.mul_le_mul_left _ hnext.le
      _ = 2 ^ m₁.log2 * 2 ^ k := by rw [← Nat.pow_add, ← Nat.pow_add]; congr 1; omega
      _ ≤ m₁ * 2 ^ k := Nat.mul_le_mul_right _ hself
  have hone : 2 ^ (k - d) ≤ m₁ * 2 ^ k / m₂ ∨ k < d := by
    rw [or_iff_not_imp_right]
    intro hd
    rw [Nat.le_div_iff_mul_le hpos₂]
    calc 2 ^ (k - d) * m₂ ≤ 2 ^ (k - d) * (m₁ * 2 ^ d) := Nat.mul_le_mul_left _ hle
      _ = m₁ * 2 ^ k := by
        rw [Nat.mul_left_comm, ← Nat.pow_add, Nat.sub_add_cancel (by omega)]
  refine ⟨hquotient, ?_⟩
  rcases hone with hone | hd
  · have hlog : k - d ≤ (m₁ * 2 ^ k / m₂).log2 := (Nat.le_log2 (by omega)).2 hone
    omega
  · omega

theorem div_eq (x y : Float) : x / y =
    .ofModel (.pack (UnpackedFloat.div .binary64 x.toModel.unpack y.toModel.unpack)) := rfl

theorem isFinite_eq (x : Float) : x.isFinite = x.toModel.unpack.isFinite := rfl

/-- Divided by itself, a form gives the form of one. -/
theorem div_self_form {form : UnpackedFloat} (hform : Canonical form) (hfinite : form.isFinite = true)
    (hzero : place form ≠ 0) :
    UnpackedFloat.div .binary64 form form = .finite .positive (2 ^ 52) (-52) (by decide) := by
  cases hform with
  | notANumber => cases hfinite
  | infinity => cases hfinite
  | zero => exact absurd rfl hzero
  | @finite sign m e hpos hlt =>
    have hlog : m.log2 ≤ 52 := Nat.le_of_lt_succ ((Nat.log2_lt (by omega)).2 hlt)
    have hshift : m.log2 + 53 - m.log2 = 53 := by omega
    have hexponent : ((0 : Nat) : Int) + m.log2 - m.log2 - 53 = -53 := by omega
    have hsign : sign / sign = .positive := by cases sign <;> rfl
    have hcore : divCore .binary64 m (e + (0 : Nat)) m e = (2 ^ 53, -53, .exact) := by
      rw [divCore_eq hlog (Nat.le_refl _), hshift, hexponent, Nat.mul_div_cancel_left _ hpos,
        Nat.mul_mod_right]
      rfl
    rw [Int.natCast_zero, Int.add_zero] at hcore
    rw [UnpackedFloat.div, hcore, hsign]
    rfl

/-- A finite double divided by itself is one, unless it is zero. -/
theorem div_self {x : Float} (hfinite : x.isFinite = true) (hzero : rank x ≠ 0) : x / x = 1 := by
  rw [div_eq, div_self_form (canonical_form x) hfinite hzero]
  rfl

/-- The doubles from one on are those whose rank is at least that of one. -/
theorem one_le_iff {x : Float} : 1 ≤ x ↔ x.isNaN = false ∧ 1023 * 2 ^ 52 ≤ rank x := by
  have hone : rank 1 = 1023 * 2 ^ 52 := by decide
  rw [le_iff, hone]
  exact and_iff_right (by decide)

/-- Packing a form with a leading bit for a value of at least one gives a double of at least one. -/
theorem one_le_pack {m : Nat} {e : Int} (hpos : 0 < m) (hlow : 2 ^ 52 ≤ m) (hhigh : m < 2 ^ 53)
    (hleast : -52 ≤ e) : 1 ≤ Float.ofModel (.pack (.finite .positive m e hpos)) := by
  by_cases hgreatest : e ≤ 971
  · have hform : (Float.Model.pack (.finite .positive m e hpos)).unpack = .finite .positive m e hpos :=
      unpack_pack (.finite hpos hhigh (by omega) hgreatest (Or.inl hlow))
    rw [one_le_iff, isNaN_eq_false_iff, rank, hform]
    refine ⟨by simp, ?_⟩
    simp only [place, Sign.apply]
    omega
  · -- what is too great becomes the positive infinity
    have hpack : Float.Model.pack (.finite .positive m e hpos) = .pack (.infinity .positive) := by
      unfold Float.Model.pack
      congr 2
      exact pack_overflow .positive hpos (by omega)
    rw [hpack]
    decide

/-- The forms of positive numbers. -/
theorem positive_form {form : UnpackedFloat} (hform : Canonical form) (hpos : 0 < place form) :
    form = .infinity .positive ∨ ∃ (m : Nat) (e : Int) (hm : 0 < m),
      form = .finite .positive m e hm ∧ m < 2 ^ 53 ∧ -1074 ≤ e ∧ (2 ^ 52 ≤ m ∨ e = -1074) := by
  cases hform with
  | notANumber => exact absurd hpos (lt_irrefl 0)
  | zero => exact absurd hpos (lt_irrefl 0)
  | infinity sign =>
    cases sign with
    | negative => exact absurd hpos (by decide)
    | positive => exact Or.inl rfl
  | @finite sign m e hm hlt hleast _ hleading =>
    cases sign with
    | negative =>
      simp only [place, Sign.apply] at hpos
      omega
    | positive => exact Or.inr ⟨m, e, hm, rfl, hlt, hleast, hleading⟩

/-- The quotient of positive forms is at least one if the dividend stands not before the divisor. -/
theorem one_le_div_finite {m₁ m₂ : Nat} {e₁ e₂ : Int} (hpos₁ : 0 < m₁) (hpos₂ : 0 < m₂)
    (hlt₁ : m₁ < 2 ^ 53) (hlt₂ : m₂ < 2 ^ 53) (hleast₁ : -1074 ≤ e₁) (hleast₂ : -1074 ≤ e₂)
    (hleading₁ : 2 ^ 52 ≤ m₁ ∨ e₁ = -1074) (hleading₂ : 2 ^ 52 ≤ m₂ ∨ e₂ = -1074)
    (hle : (e₂ + 1074) * 2 ^ 52 + m₂ ≤ (e₁ + 1074) * 2 ^ 52 + m₁) :
    1 ≤ Float.ofModel (.pack (UnpackedFloat.div .binary64 (.finite .positive m₁ e₁ hpos₁)
      (.finite .positive m₂ e₂ hpos₂))) := by
  have hlog₁ : m₁.log2 ≤ 52 := Nat.le_of_lt_succ ((Nat.log2_lt (by omega)).2 hlt₁)
  have hlog₂ : m₂.log2 ≤ 52 := Nat.le_of_lt_succ ((Nat.log2_lt (by omega)).2 hlt₂)
  obtain ⟨d, rfl⟩ : ∃ d : Nat, e₁ = e₂ + d := ⟨(e₁ - e₂).toNat, by omega⟩
  -- a greater exponent comes with a leading bit
  have hcases : d = 0 ∧ m₂ ≤ m₁ ∨ 2 ^ 52 ≤ m₁ ∧ 2 ≤ 2 ^ d := by
    rcases Nat.eq_zero_or_pos d with hd | hd
    · exact Or.inl ⟨hd, by omega⟩
    · exact Or.inr ⟨by omega, Nat.le_self_pow (by omega) 2⟩
  have hvalue : m₂ ≤ m₁ * 2 ^ d := by
    rcases hcases with ⟨rfl, h⟩ | ⟨h, hd⟩
    · rwa [Nat.pow_zero, Nat.mul_one]
    · calc m₂ ≤ 2 ^ 52 * 2 := by omega
        _ ≤ m₁ * 2 ^ d := Nat.mul_le_mul h hd
  have hlog : m₂.log2 ≤ m₁.log2 + d := by
    rcases hcases with ⟨rfl, h⟩ | ⟨h, -⟩
    · exact (Nat.le_log2 (by omega)).2 ((Nat.log2_self_le (by omega)).trans h)
    · have := (Nat.le_log2 (by omega)).2 h
      omega
  obtain ⟨hlow, hone⟩ := divCore_leading hpos₁ hpos₂ hlog₁ hvalue
  obtain ⟨m, e, hpos, hround, hlow, hhigh, hleast⟩ := roundWithAccuracy_leading (.positive / .positive)
    (accuracyOfFraction (m₁ * 2 ^ (m₂.log2 + 53 - m₁.log2) % m₂) m₂) hlow hone
  rw [UnpackedFloat.div, divCore_eq hlog₁ hlog]
  dsimp only
  rw [hround]
  exact one_le_pack hpos hlow hhigh hleast

/-- A number divided by a positive finite one that is not greater is at least one. -/
theorem one_le_div {x y : Float} (hfinite : y.isFinite = true) (hpos : 0 < y) (hle : y ≤ x) :
    1 ≤ x / y := by
  obtain ⟨-, -, hplace⟩ := le_iff.1 hle
  obtain ⟨-, -, hplace₀⟩ := lt_iff.1 hpos
  rw [rank_zero] at hplace₀
  rw [div_eq]
  rcases positive_form (canonical_form y) hplace₀ with hy | ⟨m₂, e₂, hpos₂, hy, hlt₂, hleast₂, hleading₂⟩
  · rw [isFinite_eq, hy] at hfinite
    cases hfinite
  rcases positive_form (canonical_form x) (hplace₀.trans_le hplace) with
    hx | ⟨m₁, e₁, hpos₁, hx, hlt₁, hleast₁, hleading₁⟩
  · rw [hx, hy, UnpackedFloat.div]
    decide
  · rw [rank, rank, hx, hy] at hplace
    rw [hx, hy]
    exact one_le_div_finite hpos₁ hpos₂ hlt₁ hlt₂ hleast₁ hleast₂ hleading₁ hleading₂ hplace

theorem isFinite_pack {form : UnpackedFloat} (h : Canonical form) :
    (Float.ofModel (.pack form)).isFinite = form.isFinite := by
  rw [isFinite_eq, unpack_pack h]

/-- What is not a number stays so when it is divided. -/
theorem isNaN_div {x : Float} (h : x.isNaN = true) (y : Float) : (x / y).isNaN = true := by
  have hform : x.toModel.unpack = .notANumber := by
    by_contra hne
    rw [isNaN_eq_false_iff.2 hne] at h
    cases h
  rw [div_eq, hform, UnpackedFloat.div]
  decide

/-- Nothing divided by zero is finite. -/
theorem not_isFinite_div_zero {y : Float} (hnumber : y.isNaN = false) (hzero : rank y = 0) (x : Float) :
    (x / y).isFinite = false := by
  have hform : ∃ sign, y.toModel.unpack = .zero sign := by
    have hy := canonical_form y
    rw [isNaN_eq_false_iff] at hnumber
    unfold rank at hzero
    generalize y.toModel.unpack = form at *
    cases hy with
    | notANumber => exact absurd rfl hnumber
    | zero sign => exact ⟨sign, rfl⟩
    | infinity sign => cases sign <;> cases hzero
    | @finite sign => cases sign <;> simp only [place, Sign.apply] at hzero <;> omega
  obtain ⟨sign, hy⟩ := hform
  rw [div_eq, hy]
  -- zero by zero is not a number, and all else is an infinity
  cases x.toModel.unpack with
  | notANumber => exact isFinite_pack .notANumber
  | zero => exact isFinite_pack .notANumber
  | infinity s => exact isFinite_pack (.infinity (s / sign))
  | finite s => exact isFinite_pack (.infinity (s / sign))

end BenchScope.Decimal
