import BenchScope.Proofs.Numerals

/-!
# Units and the numerals before them

A quantity is divided by the base until it is below the base or the units run out; the quotient is rounded to
the stated places only after that. So the numeral is at least one behind every unit but the least, but it can
reach the base: it does so just when the quotient is within half a unit of the last place below the base.
-/

namespace BenchScope.Decimal

theorem isNaN_of_isFinite {x : Float} (h : x.isFinite = true) : x.isNaN = false := by
  rw [isNaN_eq_false_iff]
  intro hform
  rw [isFinite_eq, hform] at h
  cases h

theorem toRat_lt_of_not_le {x y : Float} (hx : x.isFinite = true) (hy : y.isFinite = true) (h : ¬ x ≤ y) :
    toRat y < toRat x := by
  rw [le_iff] at h
  have hrank : rank y < rank x := by
    by_contra hle
    exact h ⟨isNaN_of_isFinite hx, isNaN_of_isFinite hy, not_lt.1 hle⟩
  exact toRat_lt_of_lt hy hx (lt_iff.2 ⟨isNaN_of_isFinite hy, isNaN_of_isFinite hx, hrank⟩)

theorem one_le_toRat {x : Float} (hx : x.isFinite = true) (h : 1 ≤ x) : 1 ≤ toRat x := by
  obtain ⟨hone, hnumber, hrank⟩ := le_iff.1 h
  rcases hrank.lt_or_eq with hlt | heq
  · rw [← toRat_one]
    exact (toRat_lt_of_lt (by decide) hx (lt_iff.2 ⟨hone, hnumber, hlt⟩)).le
  · rw [← eq_of_rank_eq heq (by decide), toRat_one]

/-- A quotient put on a decimal grid keeps to the same side of one, and of an even integer, except that it
reaches the even integer from half a step below it on. -/
theorem roundDiv_grid (num : Nat) {den : Nat} (hden : 0 < den) (places : Nat) :
    (1 ≤ (num / den : ℚ) → (1 : ℚ) ≤ roundDiv (num * 10 ^ places) den .toEven / 10 ^ places) ∧
      ∀ n : Nat, 0 < n → n % 2 = 0 →
        ((num / den : ℚ) < n → (roundDiv (num * 10 ^ places) den .toEven / 10 ^ places : ℚ) ≤ n) ∧
        ((roundDiv (num * 10 ^ places) den .toEven / 10 ^ places : ℚ) < n ↔
          (num / den : ℚ) < n - 1 / (2 * 10 ^ places)) := by
  have hden' : (0 : ℚ) < den := by exact_mod_cast hden
  have hten : (0 : ℚ) < 10 ^ places := by positivity
  obtain ⟨hlow, hup⟩ := roundDiv_bounds (num * 10 ^ places) den .toEven
  refine ⟨fun hone => ?_, fun n hpos heven => ⟨fun hlt => ?_, ?_⟩⟩
  -- one is a count of units too, so that rounding does not lead below it
  · have hle : den ≤ num := by
      rw [one_le_div₀ hden'] at hone
      exact_mod_cast hone
    have hgrid : 10 ^ places ≤ roundDiv (num * 10 ^ places) den .toEven := by
      refine le_trans ?_ hlow
      rw [Nat.le_div_iff_mul_le hden, Nat.mul_comm]
      exact Nat.mul_le_mul_right _ hle
    rw [one_le_div₀ hten]
    exact_mod_cast hgrid
  -- below an integer rounding leads up to it at most
  · have hlt' : num < n * den := by
      rw [div_lt_iff₀ hden'] at hlt
      exact_mod_cast hlt
    have hgrid : roundDiv (num * 10 ^ places) den .toEven ≤ n * 10 ^ places := by
      have hquotient : num * 10 ^ places / den < n * 10 ^ places := by
        rw [Nat.div_lt_iff_lt_mul hden, Nat.mul_right_comm]
        exact Nat.mul_lt_mul_of_pos_right hlt' (by positivity)
      omega
    rw [div_le_iff₀ hten]
    exact_mod_cast hgrid
  · -- the integer is an even count of units, so that a tie below it goes up to it
    have hwhole : 0 < n * 10 ^ places := by positivity
    have hreach : n * 10 ^ places ≤ roundDiv (num * 10 ^ places) den .toEven ↔
        (2 * (n * 10 ^ places) - 1) * den ≤ 2 * (num * 10 ^ places) := by
      refine le_roundDiv_iff hden hwhole ?_
      rw [Nat.mul_mod, heven, Nat.zero_mul, Nat.zero_mod]
    have hexact : (n : ℚ) - 1 / (2 * 10 ^ places) ≤ num / den ↔
        (2 * (n * 10 ^ places) - 1) * den ≤ 2 * (num * 10 ^ places) := by
      rw [le_div_iff₀ hden', ← @Nat.cast_le ℚ, Nat.cast_mul, Nat.cast_sub (by omega)]
      push_cast
      rw [← mul_le_mul_iff_of_pos_left (by positivity : (0 : ℚ) < 2 * 10 ^ places)]
      have hscale : 2 * 10 ^ places * (((n : ℚ) - 1 / (2 * 10 ^ places)) * den) =
          (2 * (n * 10 ^ places) - 1) * den := by
        field_simp
      rw [hscale]
      exact iff_of_eq (by ring_nf)
    rw [← not_le, ← not_le, not_iff_not, hexact, ← hreach, le_div_iff₀ hten]
    exact_mod_cast Iff.rfl

/-- What is spelled with a stated number of places keeps to the same side of one and of an even integer as the
number, except that it reaches the even integer from half a unit of the last place below it on. -/
theorem exists_numeral_near {x : Float} (h : x.isFinite = true) (places : Nat) :
    ∃ q, Numeral (fixedChars x places) q ∧ (1 ≤ toRat x → 1 ≤ q) ∧
      ∀ n : Nat, 0 < n → n % 2 = 0 →
        (toRat x < n → q ≤ n) ∧ (q < n ↔ toRat x < n - 1 / (2 * 10 ^ places)) := by
  obtain ⟨negative, m, e, hreading, -⟩ := exists_reading h
  refine ⟨_, numeral_fixedChars hreading places, ?_⟩
  rw [toRat_of_reading hreading]
  cases negative with
  | false =>
    rw [show signFactor false = 1 from rfl, one_mul, one_mul]
    exact roundDiv_grid _ (fraction_pos m e) places
  | true =>
    -- neither the number nor what is spelled comes near one
    rw [show signFactor true = -1 from rfl, neg_one_mul, neg_one_mul]
    have hvalue : -((fraction m e).1 / (fraction m e).2 : ℚ) ≤ 0 := by
      rw [neg_nonpos]
      positivity
    have hspelled : -(roundDiv ((fraction m e).1 * 10 ^ places) (fraction m e).2 .toEven / 10 ^ places : ℚ) ≤ 0 := by
      rw [neg_nonpos]
      positivity
    refine ⟨fun hone => by linarith, fun n hpos _ => ?_⟩
    have hn : (1 : ℚ) ≤ n := by exact_mod_cast hpos
    have hhalf : 1 / (2 * 10 ^ places) < (1 : ℚ) := by
      have hten : (1 : ℚ) ≤ 10 ^ places := one_le_pow₀ (by norm_num)
      rw [div_lt_one (by positivity)]
      linarith
    exact ⟨fun _ => by linarith, iff_of_true (by linarith) (by linarith)⟩

end BenchScope.Decimal

namespace BenchScope.Units

open Decimal

theorem Base.divisor_pos (base : Base) : 0 < base.divisor := by
  cases base <;> decide

/-- Climbing stops at a unit of the list, at a quantity that is below the base unless there is no larger unit.
Where it has moved up at all, the quantity is at least one. -/
theorem climb_stops (base : Base) (value : Float) (unit : String) (larger : List String) :
    ∃ i, (unit :: larger)[i]? = some (climb base.divisor value unit larger).2 ∧
      (climb base.divisor value unit larger).1 = (· / base.divisor)^[i] value ∧
      (0 < i → 1 ≤ (climb base.divisor value unit larger).1) ∧
      (i < larger.length → ¬ base.divisor ≤ (climb base.divisor value unit larger).1) := by
  induction larger generalizing value unit with
  | nil => exact ⟨0, rfl, rfl, nofun, nofun⟩
  | cons next larger ih =>
    by_cases hle : base.divisor ≤ value
    · have hclimb : climb base.divisor value unit (next :: larger) =
          climb base.divisor (value / base.divisor) next larger := if_pos hle
      obtain ⟨i, hunit, hvalue, hone, hbelow⟩ := ih (value / base.divisor) next
      rw [hclimb]
      refine ⟨i + 1, hunit, hvalue, fun _ => ?_, fun hi => hbelow (Nat.lt_of_succ_lt_succ hi)⟩
      rcases Nat.eq_zero_or_pos i with rfl | hi
      · rw [hvalue]
        exact Decimal.one_le_div base.isFinite_divisor base.divisor_pos hle
      · exact hone hi
    · have hclimb : climb base.divisor value unit (next :: larger) = (value, unit) := if_neg hle
      rw [hclimb]
      exact ⟨0, rfl, rfl, nofun, fun _ => hle⟩

/-- A finite quantity is shown as a numeral before a unit of its base, counted after one division for each
unit up to that one. The numeral is at least one unless the unit is the least. Unless the unit is the greatest,
the numeral does not exceed the base, and it is below the base just when the quotient is more than half a unit
of the last place below it. -/
theorem shown_below_base_iff {size : Float} (hsize : size.isFinite = true) (base : Base) (places : Nat) :
    ∃ i unit numeral q, (base.least :: base.larger)[i]? = some unit ∧
      (humanReadable size base places).toList = numeral ++ unit.toList ∧ Numeral numeral q ∧
      (0 < i → 1 ≤ q) ∧
      (i < base.larger.length → q ≤ base.factor ∧
        (q < base.factor ↔
          toRat ((· / base.divisor)^[i + 1] size) < base.factor - 1 / (2 * 10 ^ places))) := by
  obtain ⟨i, hunit, hvalue, hone, hbelow⟩ :=
    climb_stops base (size / base.divisor) base.least base.larger
  have hfinite := isFinite_climb base (base.isFinite_div_divisor hsize) base.least base.larger
  obtain ⟨q, hnumeral, hleast, hnear⟩ := exists_numeral_near hfinite places
  obtain ⟨hle, hlt⟩ := hnear base.factor (by cases base <;> decide) (by cases base <;> decide)
  refine ⟨i, _, _, q, hunit, ?_, hnumeral, fun hi => hleast (one_le_toRat hfinite (hone hi)), fun hi => ⟨?_, ?_⟩⟩
  · unfold humanReadable inUnits
    dsimp only
    rw [String.toList_append, Decimal.fixed, String.toList_ofList]
  · refine hle ?_
    rw [← base.toRat_divisor]
    exact toRat_lt_of_not_le base.isFinite_divisor hfinite (hbelow hi)
  · rw [Function.iterate_succ_apply, ← hvalue]
    exact hlt

/-- A quarter below a million the quotient is closer to a thousand than half a thousandth. -/
theorem shown_below_base_iff_quarterBelow :
    (999999.75 : Float).isFinite = true ∧ ∃ i unit numeral q,
      (Base.decimal.least :: Base.decimal.larger)[i]? = some unit ∧
      "1000.000k".toList = numeral ++ unit.toList ∧ Numeral numeral q ∧ (0 < i → 1 ≤ q) ∧
      (i < Base.decimal.larger.length → q ≤ Base.decimal.factor ∧
        (q < Base.decimal.factor ↔ toRat ((· / Base.decimal.divisor)^[i + 1] 999999.75) <
          Base.decimal.factor - 1 / (2 * 10 ^ 3))) := by
  have hfinite : (999999.75 : Float).isFinite = true := by decide
  have htext : humanReadable 999999.75 .decimal 3 = "1000.000k" := by decide
  refine ⟨hfinite, ?_⟩
  rw [← htext]
  exact shown_below_base_iff hfinite .decimal 3

/-- A nonnegative quantity whose numeral reaches the base behind the least unit. -/
theorem shown_reaches_base :
    (999999.75 : Float).isFinite = true ∧ (0 : Float) ≤ 999999.75 ∧
      humanReadable 999999.75 .decimal 3 = "1000.000" ++ Base.decimal.least ∧
      Numeral "1000.000".toList Base.decimal.factor ∧ Base.decimal.larger ≠ [] := by
  refine ⟨by decide, by decide, by decide, ?_, by decide⟩
  have hnumeral := numeral_scaled false (1000 * 10 ^ 3) 3
  have hvalue : signFactor false * ((1000 * 10 ^ 3 : Nat) / 10 ^ 3) = Base.decimal.factor := by
    norm_num [signFactor, Base.factor]
  rw [hvalue] at hnumeral
  exact hnumeral

end BenchScope.Units
