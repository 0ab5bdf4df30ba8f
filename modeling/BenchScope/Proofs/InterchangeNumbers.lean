import BenchScope.Proofs.JsonWriting
import BenchScope.Proofs.Numerals

/-!
# Numbers that other programs read

The shortest decimal of a double does not exceed the upper end of the interval of reals that round to the
double. The reader of numbers gathers its digits into one significand and multiplies this by one power of ten.
Both factors are rounded, so the product can exceed the decimal. Still it stays in the range of doubles: there
is room enough below the greatest doubles, and the two greatest ones are computed. So the reader takes the text
of every finite double.
-/

namespace BenchScope.Decimal

open Float.Model Float.Model.UnpackedFloat

/-! ## The size of the shortest decimal -/

/-- The number that a decimal stands for. -/
def Scientific.toRat (s : Scientific) : ℚ := s.digits * 10 ^ s.exponent

/-- What rounds to a double does not lie above the range of the double. -/
theorem Rounding.le_of_contains {r : Rounding} {unit value : Nat} (h : r.contains unit value = true) :
    value ≤ r.high * unit := by
  unfold contains at h
  split at h
  · exact (of_decide_eq_true h).2
  · exact (of_decide_eq_true h).2.le

/-- A point of a decimal grid that rounds to a double does not exceed the midpoint above the double. -/
theorem onGrid?_le {tie : Tie} {m : Nat} {e place : Int} {s : Scientific} (h : onGrid? tie m e place = some s) :
    s.exponent = place ∧ 0 < s.digits ∧ s.toRat ≤ (4 * m + 2) * 2 ^ (e - 2) := by
  -- the comparison of integers that the search makes, as one of rationals
  have hgrid : ∀ n : Nat, n * (Nat.pow 2 (2 - e).toNat * Nat.pow 10 place.toNat) ≤
      (4 * m + 2) * (Nat.pow 2 (e - 2).toNat * Nat.pow 10 (-place).toNat) →
      (n : ℚ) * 10 ^ place ≤ (4 * m + 2) * 2 ^ (e - 2) := by
    intro n hn
    rw [zpow_eq_div 10 place, zpow_eq_div 2 (e - 2), neg_sub, mul_div_assoc',
      mul_div_assoc', div_le_div_iff₀ (by positivity) (by positivity)]
    have hn' : (n : ℚ) * (2 ^ (2 - e).toNat * 10 ^ place.toNat) ≤
        (4 * m + 2) * (2 ^ (e - 2).toNat * 10 ^ (-place).toNat) := by exact_mod_cast hn
    linarith
  unfold onGrid? at h
  dsimp only at h
  generalize hunit : Nat.pow 2 (e - 2).toNat * Nat.pow 10 (-place).toNat = unit at h hgrid
  generalize hstep : Nat.pow 2 (2 - e).toNat * Nat.pow 10 place.toNat = step at h hgrid
  have hhigh : ∀ value, (Rounding.around m e).contains unit value = true → value ≤ (4 * m + 2) * unit :=
    fun value => Rounding.le_of_contains
  split at h
  · rename_i hboth
    cases h
    obtain ⟨hlow, hup⟩ := roundDiv_bounds (4 * m * unit) step tie
    exact ⟨rfl, hboth.1.1.trans_le hlow, hgrid _ ((Nat.mul_le_mul_right step hup).trans (hhigh _ hboth.2))⟩
  · split at h
    · rename_i hbelow
      cases h
      exact ⟨rfl, hbelow.1, hgrid _ (hhigh _ hbelow.2)⟩
    · split at h
      · rename_i habove
        cases h
        exact ⟨rfl, Nat.succ_pos _, hgrid _ (hhigh _ habove)⟩
      · cases h

/-- All digits of a double spell it exactly. -/
theorem allDigits_toRat (m : Nat) (e : Int) : (allDigits m e).toRat = m * 2 ^ e := by
  unfold allDigits Scientific.toRat
  split
  · rename_i he
    obtain ⟨n, rfl⟩ := Int.eq_ofNat_of_zero_le he
    simp
  · rename_i he
    obtain ⟨n, rfl⟩ : ∃ n : Nat, e = -(n : Int) := ⟨(-e).toNat, by omega⟩
    have hten : (10 : ℚ) ^ (-(n : Int)) = (2 ^ n)⁻¹ * (5 ^ n)⁻¹ := by
      rw [zpow_neg, zpow_natCast, ← mul_inv, ← mul_pow]
      norm_num
    simp only [neg_neg, Int.toNat_natCast, Nat.pow_eq]
    push_cast
    rw [hten, zpow_neg, zpow_natCast]
    field_simp

/-- The shortest decimal of a double: it is positive, it does not exceed the midpoint above the double, and
its last place is not too far down. -/
theorem shortest_bounds (tie : Tie) {m : Nat} {e : Int} (hpos : 0 < m) (hleast : -1074 ≤ e) :
    0 < (shortest tie m e).digits ∧ (shortest tie m e).toRat ≤ (4 * m + 2) * 2 ^ (e - 2) ∧
      -1074 ≤ (shortest tie m e).exponent := by
  unfold shortest
  dsimp only
  -- the search tries the grids from the top; if it finds nothing, all digits are taken
  cases hfind : ((List.range 24).map fun i : Nat => topPlace m e - (i : Int)).findSome? (onGrid? tie m e) with
  | none =>
    rw [Option.getD_none]
    refine ⟨?_, ?_, ?_⟩
    · unfold allDigits
      split
      · exact Nat.mul_pos hpos (Nat.pow_pos (by decide))
      · exact Nat.mul_pos hpos (Nat.pow_pos (by decide))
    · have hquarter : (2 : ℚ) ^ e = 2 ^ (e - 2) * 4 := by
        rw [zpow_sub₀ (by norm_num)]
        norm_num
      have hscale : (0 : ℚ) < 2 ^ (e - 2) := by positivity
      rw [allDigits_toRat, hquarter]
      nlinarith
    · unfold allDigits
      split
      · exact (by decide : (-1074 : Int) ≤ 0)
      · exact hleast
  | some s =>
    rw [Option.getD_some]
    obtain ⟨place, hplace, hgrid⟩ := List.exists_of_findSome?_eq_some hfind
    obtain ⟨i, hi, rfl⟩ := List.mem_map.1 hplace
    obtain ⟨hexponent, hdigits, hle⟩ := onGrid?_le hgrid
    refine ⟨hdigits, hle, ?_⟩
    rw [List.mem_range] at hi
    rw [hexponent, topPlace, Int.fdiv_eq_ediv_of_nonneg _ (by decide)]
    omega

/-! ## Powers of ten -/

/-- A magnitude of at least one exceeds its double at most by its `2 ^ 53`rd part. -/
theorem abs_toRat_pack_le_of_one_le {sign : Sign} {v : ℚ} {form : UnpackedFloat} (h : Rounds sign v form)
    (hone : 1 ≤ v) (hlt : v < overflow) : |toRat (.ofModel (.pack form))| ≤ v * (1 + 1 / 2 ^ 53) := by
  have hleast : (2 : ℚ) ^ (-1075 : Int) ≤ v / 2 ^ 53 := by
    rw [le_div_iff₀ (by positivity), ← zpow_natCast, ← zpow_add₀ two_ne_zero]
    exact (zpow_le_one_of_nonpos₀ (by norm_num) (by decide)).trans hone
  have hbound := abs_toRat_pack_le h hlt
  rw [max_eq_left hleast] at hbound
  linarith

/-- A power of ten that is no double itself is put on the grid of doubles. -/
theorem rounds_ofScientific {k : Nat} (hlow : 22 < k) (hhigh : k ≤ 308) :
    ∃ form, Float.ofScientific 1 false k = .ofModel (.pack form) ∧ Rounds .positive (10 ^ k) form := by
  have hexponent : ¬ ((k : Int) > 2 ^ Format.binary64.exponentBits) := by
    change ¬ ((k : Int) > 2 ^ 11)
    omega
  have hexponent' : ¬ ((k : Int) < -(2 ^ Format.binary64.exponentBits + (Nat.log2 1 : Nat))) := by
    change ¬ ((k : Int) < -(2 ^ 11 + (Nat.log2 1 : Nat)))
    omega
  have hform : UnpackedFloat.ofScientific .binary64 1 k =
      roundWithAccuracy .binary64 .positive (1 <<< 53 * 10 ^ k) (-53 + 0) .exact := by
    unfold UnpackedFloat.ofScientific
    rw [dif_neg (by decide), if_neg hexponent, if_neg hexponent', if_pos (by omega)]
    rfl
  refine ⟨UnpackedFloat.ofScientific .binary64 1 k, ?_, ?_⟩
  · unfold Float.ofScientific
    rw [dif_neg (by omega)]
    rfl
  · have hpower : 0 < 10 ^ k := by positivity
    have hfits : 52 ≤ (1 <<< 53 * 10 ^ k).log2 := by
      rw [Nat.one_shiftLeft, Nat.le_log2 (by positivity)]
      calc 2 ^ 52 ≤ 2 ^ 53 * 1 := by decide
        _ ≤ 2 ^ 53 * 10 ^ k := Nat.mul_le_mul_left _ hpower
    have hrounds := rounds_roundWithAccuracy .positive (represents_exact (1 <<< 53 * 10 ^ k)) Nat.one_pos
      (e := -53 + 0) (.inl hfits)
    have hvalue : ((1 <<< 53 * 10 ^ k : Nat) : ℚ) / (1 : Nat) * 2 ^ (-53 + 0 : Int) = 10 ^ k := by
      rw [Nat.one_shiftLeft, add_zero, zpow_neg, show (53 : Int) = (53 : Nat) from rfl, zpow_natCast]
      push_cast
      field_simp
      norm_num
    rw [hvalue] at hrounds
    rw [hform]
    exact hrounds

/-- The midpoint behind the greatest double, as an integer. -/
theorem natCast_overflow : (((2 ^ 54 - 1) * 2 ^ 970 : Nat) : ℚ) = overflow := by
  rw [overflow, show (970 : Int) = (970 : Nat) from rfl, zpow_natCast, Nat.cast_mul, Nat.cast_pow 2 970]
  norm_num

/-- The least power of ten beyond the range of doubles. The powers are computed in parts, as they are too large to
be computed at once. -/
theorem ten_pow_bounds : 10 ^ 308 < (2 ^ 54 - 1) * 2 ^ 970 ∧ (2 ^ 54 - 1) * 2 ^ 970 ≤ 10 ^ 309 := by
  have hten : 10 ^ 308 = 10 ^ 154 * 10 ^ 154 := by rw [← pow_add]
  have htwo : 2 ^ 970 = 2 ^ 242 * 2 ^ 243 * (2 ^ 242 * 2 ^ 243) := by
    rw [← pow_add, ← pow_add]
  rw [pow_succ 10 308, hten, htwo]
  norm_num

/-- The powers of ten up to the greatest exponent are in the range of doubles. -/
theorem ten_pow_lt_overflow {k : Nat} (h : k ≤ 308) : (10 : ℚ) ^ k < overflow := by
  have hpow : ∀ n, k ≤ n → 10 ^ k ≤ 10 ^ n := fun n => Nat.pow_le_pow_right (by decide)
  have hlt : ((10 ^ k : Nat) : ℚ) < ((2 ^ 54 - 1) * 2 ^ 970 : Nat) :=
    Nat.cast_lt.2 ((hpow 308 h).trans_lt ten_pow_bounds.1)
  rw [natCast_overflow, Nat.cast_pow] at hlt
  exact hlt

/-- Whether a power of ten is a double that does not exceed it. -/
def exactPower (k : Nat) : Bool :=
  match Reading.ofFloat (Float.ofScientific 1 false k) with
  | .finite negative m e => !negative && decide ((fraction m e).1 ≤ 10 ^ k * (fraction m e).2)
  | _ => false

/-- Only finite doubles are read as fractions. -/
theorem isFinite_of_reading {x : Float} {negative : Bool} {m : Nat} {e : Int}
    (h : Reading.ofFloat x = .finite negative m e) : x.isFinite = true := by
  unfold Reading.ofFloat at h
  rw [isFinite_eq]
  generalize x.toModel.unpack = form at *
  cases form with
  | notANumber => cases h
  | infinity => cases h
  | zero => rfl
  | finite => rfl

/-- The double for a power of ten exceeds the power at most by its `2 ^ 53`rd part. -/
theorem ofScientific_bounds {k : Nat} (h : k ≤ 308) :
    (Float.ofScientific 1 false k).isFinite = true ∧
      |toRat (Float.ofScientific 1 false k)| ≤ 10 ^ k * (1 + 1 / 2 ^ 53) := by
  by_cases hlow : 22 < k
  · obtain ⟨form, hform, hrounds⟩ := rounds_ofScientific hlow h
    have hlt := ten_pow_lt_overflow h
    rw [hform]
    exact ⟨(isFinite_pack_iff hrounds).2 hlt,
      abs_toRat_pack_le_of_one_le hrounds (one_le_pow₀ (by norm_num)) hlt⟩
  · have hexact : exactPower k = true := (by decide : ∀ k ≤ 22, exactPower k = true) k (not_lt.1 hlow)
    unfold exactPower at hexact
    split at hexact
    · rename_i negative m e hreading
      refine ⟨isFinite_of_reading hreading, ?_⟩
      rw [Bool.and_eq_true, decide_eq_true_eq, Bool.not_eq_true'] at hexact
      obtain ⟨rfl, hle⟩ := hexact
      have hden : (0 : ℚ) < (fraction m e).2 := by exact_mod_cast fraction_pos m e
      have hle' : ((fraction m e).1 / (fraction m e).2 : ℚ) ≤ 10 ^ k := by
        rw [div_le_iff₀ hden]
        exact_mod_cast hle
      rw [toRat_of_reading hreading, show signFactor false = 1 from rfl, one_mul, abs_of_nonneg (by positivity)]
      refine hle'.trans (le_mul_of_one_le_right (by positivity) (by norm_num))
    · cases hexact

/-- The midpoint above a mantissa, where there is room up to the next power of two. -/
theorem midpoint_mantissa_le {m room : Nat} (h : m + room ≤ 2 ^ 53) :
    (4 * m + 2 : ℚ) ≤ 2 ^ 55 + 2 - 4 * room := by
  have hcast : ((4 * m + 4 * room : Nat) : ℚ) ≤ (2 ^ 55 : Nat) := Nat.cast_le.2 (by omega)
  push_cast at hcast
  linarith

/-- Rounding twice does not lift the midpoint above a double out of the range, unless the double is one of the
two greatest. -/
theorem twice_rounded_lt_overflow {m : Nat} {e : Int} (hm : m < 2 ^ 53) (he : e ≤ 971)
    (hroom : e ≤ 970 ∨ m ≤ 2 ^ 53 - 3) :
    ((4 * m + 2) * 2 ^ (e - 2) : ℚ) * (1 + 1 / 2 ^ 53) ^ 2 < overflow := by
  have hstep : (2 : ℚ) ^ ((968 : Int) + 2) = 2 ^ (968 : Int) * 4 := by
    rw [zpow_add₀ two_ne_zero 968 2]
    norm_num
  have hpos : (0 : ℚ) < 2 ^ (968 : Int) := by positivity
  rw [overflow, show (970 : Int) = 968 + 2 from rfl, hstep]
  -- one exponent below the greatest there is room for a factor of two, at the greatest for two steps
  rcases hroom with he' | hm'
  · have hscale : (2 : ℚ) ^ (e - 2) ≤ 2 ^ (968 : Int) := zpow_le_zpow_right₀ (by norm_num) (by omega)
    have hm'' := midpoint_mantissa_le (by omega : m + 1 ≤ 2 ^ 53)
    generalize (2 : ℚ) ^ (968 : Int) = step at hpos hscale
    calc ((4 * m + 2) * 2 ^ (e - 2) : ℚ) * (1 + 1 / 2 ^ 53) ^ 2
        ≤ ((2 ^ 55 + 2 - 4 * (1 : Nat)) * step) * (1 + 1 / 2 ^ 53) ^ 2 := by gcongr
      _ < (2 ^ 54 - 1) * (step * 4) := by nlinarith
  · have hdouble : (2 : ℚ) ^ ((968 : Int) + 1) = 2 ^ (968 : Int) * 2 := zpow_add_one₀ two_ne_zero 968
    have hscale : (2 : ℚ) ^ (e - 2) ≤ 2 ^ ((968 : Int) + 1) := zpow_le_zpow_right₀ (by norm_num) (by omega)
    have hm'' := midpoint_mantissa_le (by omega : m + 3 ≤ 2 ^ 53)
    rw [hdouble] at hscale
    generalize (2 : ℚ) ^ (968 : Int) = step at hpos hscale
    calc ((4 * m + 2) * 2 ^ (e - 2) : ℚ) * (1 + 1 / 2 ^ 53) ^ 2
        ≤ ((2 ^ 55 + 2 - 4 * (3 : Nat)) * (step * 2)) * (1 + 1 / 2 ^ 53) ^ 2 := by gcongr
      _ < (2 ^ 54 - 1) * (step * 4) := by nlinarith

/-- The double for a significand exceeds it at most by its `2 ^ 53`rd part. -/
theorem abs_toRat_toFloat_le {n : Nat} (hpos : 0 < n) (hlt : n < 2 ^ 64) :
    |toRat (UInt64.ofNat n).toFloat| ≤ n * (1 + 1 / 2 ^ 53) := by
  have hone : (1 : ℚ) ≤ n := by exact_mod_cast hpos
  have hn : (UInt64.ofNat n).toNat = n := UInt64.toNat_ofNat_of_lt hlt
  rw [toFloat_eq, hn]
  exact abs_toRat_pack_le_of_one_le (rounds_ofNat n) hone (natCast_lt_overflow hlt)

/-- A significand times a power of ten stays in the range of doubles if the exact product does not exceed the
midpoint above a double that is none of the two greatest. -/
theorem isFinite_mul_power {n k m : Nat} {e : Int} (hpos : 0 < n) (hlt : n < 2 ^ 64) (hk : k ≤ 308)
    (hle : (n * 10 ^ k : ℚ) ≤ (4 * m + 2) * 2 ^ (e - 2)) (hm : m < 2 ^ 53) (he : e ≤ 971)
    (hroom : e ≤ 970 ∨ m ≤ 2 ^ 53 - 3) :
    ((UInt64.ofNat n).toFloat * Float.ofScientific 1 false k).isFinite = true := by
  obtain ⟨hfinite, hpower⟩ := ofScientific_bounds hk
  have hfactor := abs_toRat_toFloat_le hpos hlt
  rw [isFinite_mul_iff (isFinite_toFloat _) hfinite]
  calc |toRat (UInt64.ofNat n).toFloat| * |toRat (Float.ofScientific 1 false k)|
      ≤ (n * (1 + 1 / 2 ^ 53)) * (10 ^ k * (1 + 1 / 2 ^ 53)) := by gcongr
    _ = n * 10 ^ k * (1 + 1 / 2 ^ 53) ^ 2 := by ring
    _ ≤ (4 * m + 2) * 2 ^ (e - 2) * (1 + 1 / 2 ^ 53) ^ 2 := by gcongr
    _ < overflow := twice_rounded_lt_overflow hm he hroom

end BenchScope.Decimal

namespace BenchScope.Json

open Decimal Grammar

/-! ## Gathering digits -/

theorem gather_cons (significand : Nat) (c : Char) (rest : List Char) :
    gather significand (c :: rest) =
      if significand * 10 + digitValue c < 2 ^ 64 then gather (significand * 10 + digitValue c) rest
      else (significand, c :: rest) := rfl

theorem ofDigitChars_cons (significand : Nat) (c : Char) (rest : List Char) :
    Nat.ofDigitChars 10 (c :: rest) significand = Nat.ofDigitChars 10 rest (significand * 10 + digitValue c) := by
  rw [Nat.ofDigitChars_cons, Nat.mul_comm]
  rfl

/-- More digits do not make a number smaller. -/
theorem le_ofDigitChars (significand : Nat) (digits : List Char) :
    significand ≤ Nat.ofDigitChars 10 digits significand := by
  rw [Nat.ofDigitChars_eq_ofDigitChars_zero]
  exact (Nat.le_mul_of_pos_left _ (by positivity)).trans (Nat.le_add_right _ _)

/-- The digits that are gathered, and those that are left over. -/
theorem gather_spec {significand : Nat} (h : significand < 2 ^ 64) (digits : List Char) :
    ∃ taken, digits = taken ++ (gather significand digits).2 ∧
      (gather significand digits).1 = Nat.ofDigitChars 10 taken significand ∧
      (gather significand digits).1 < 2 ^ 64 := by
  induction digits generalizing significand with
  | nil => exact ⟨[], rfl, rfl, h⟩
  | cons c rest ih =>
    rw [gather_cons]
    by_cases hfits : significand * 10 + digitValue c < 2 ^ 64
    · rw [if_pos hfits]
      obtain ⟨taken, hrest, hvalue, hlt⟩ := ih hfits
      refine ⟨c :: taken, by rw [List.cons_append, ← hrest], ?_, hlt⟩
      rw [ofDigitChars_cons, hvalue]
    · rw [if_neg hfits]
      exact ⟨[], rfl, rfl, h⟩

/-- Digits that fit are gathered all. -/
theorem gather_eq {significand : Nat} {digits : List Char} (h : Nat.ofDigitChars 10 digits significand < 2 ^ 64) :
    gather significand digits = (Nat.ofDigitChars 10 digits significand, []) := by
  induction digits generalizing significand with
  | nil => rfl
  | cons c rest ih =>
    rw [ofDigitChars_cons] at h ⊢
    rw [gather_cons, if_pos ((le_ofDigitChars _ rest).trans_lt h), ih h]

theorem toNat_of_isDigit {c : Char} (h : c.isDigit = true) : 48 ≤ c.toNat ∧ c.toNat ≤ 57 := by
  simp only [Char.isDigit, Bool.and_eq_true, decide_eq_true_eq, ge_iff_le, UInt32.le_iff_toNat_le] at h
  exact h

theorem digitValue_eq (c : Char) : digitValue c = c.toNat - 48 := rfl

theorem digitValue_lt {c : Char} (h : c.isDigit = true) : digitValue c < 10 := by
  have hrange := toNat_of_isDigit h
  rw [digitValue_eq]
  omega

theorem digitValue_pos {c : Char} (h : c.isDigit = true) (hzero : c ≠ '0') : 0 < digitValue c := by
  have hrange := toNat_of_isDigit h
  have hne : c.toNat ≠ 48 := fun heq => hzero (Char.toNat_inj.1 heq)
  rw [digitValue_eq]
  omega

/-- A number with more digits behind it stays below the next number with as many zeros behind it. -/
theorem ofDigitChars_lt {digits : List Char} (h : ∀ c ∈ digits, c.isDigit = true) (significand : Nat) :
    Nat.ofDigitChars 10 digits significand < (significand + 1) * 10 ^ digits.length := by
  induction digits generalizing significand with
  | nil => exact Nat.lt_of_lt_of_eq (Nat.lt_succ_self significand) (Nat.mul_one _).symm
  | cons c rest ih =>
    obtain ⟨hc, hrest⟩ := List.forall_mem_cons.1 h
    have hdigit := digitValue_lt hc
    rw [ofDigitChars_cons, List.length_cons, Nat.pow_succ']
    calc Nat.ofDigitChars 10 rest (significand * 10 + digitValue c)
        < (significand * 10 + digitValue c + 1) * 10 ^ rest.length := ih hrest _
      _ ≤ ((significand + 1) * 10) * 10 ^ rest.length := Nat.mul_le_mul_right _ (by omega)
      _ = (significand + 1) * (10 * 10 ^ rest.length) := Nat.mul_assoc _ _ _

/-! ## Reading numerals -/

/-- A text that does not go on with a digit. -/
def NoDigit (text : List Char) : Prop := ∀ c, text.head? = some c → c.isDigit = false

/-- Digits end where a text follows that does not go on with one. -/
theorem takeWhile_digits {digits rest : List Char} (h : ∀ c ∈ digits, c.isDigit = true) (hrest : NoDigit rest) :
    (digits ++ rest).takeWhile Char.isDigit = digits ∧ (digits ++ rest).dropWhile Char.isDigit = rest := by
  induction digits with
  | nil =>
    cases rest with
    | nil => exact ⟨rfl, rfl⟩
    | cons c tail =>
      have hc : ¬ c.isDigit = true := by simp [hrest c rfl]
      exact ⟨List.takeWhile_cons_of_neg hc, List.dropWhile_cons_of_neg hc⟩
  | cons c digits ih =>
    obtain ⟨hc, hdigits⟩ := List.forall_mem_cons.1 h
    obtain ⟨htake, hdrop⟩ := ih hdigits
    rw [List.cons_append, List.takeWhile_cons_of_pos hc, List.dropWhile_cons_of_pos hc, htake, hdrop]
    exact ⟨rfl, rfl⟩

/-- The digits behind a point are gathered into the significand, and those gathered move the point. -/
theorem fractionPart_digits (negative : Bool) (significand : Nat) (exponent : Int) {part rest : List Char}
    (hpart : Digits part) (hrest : NoDigit rest) :
    fractionPart negative significand exponent (part ++ rest) =
      afterDigits negative (gather significand part).1
        (exponent - (part.length - (gather significand part).2.length : Nat)) rest := by
  obtain ⟨htake, hdrop⟩ := takeWhile_digits hpart.2 hrest
  unfold fractionPart
  rw [htake, hdrop, if_neg (by simp [hpart.1])]

/-- The digits of a small exponent are read as its number. -/
theorem exponentDigits_digits {digits rest : List Char} (h : ∀ c ∈ digits, c.isDigit = true) (hrest : NoDigit rest)
    {start : Nat} (hlt : Nat.ofDigitChars 10 digits start < 2 ^ 31) :
    exponentDigits start (digits ++ rest) = (some (Nat.ofDigitChars 10 digits start), rest) := by
  induction digits generalizing start with
  | nil =>
    cases rest with
    | nil => rfl
    | cons c tail => rw [List.nil_append, exponentDigits, if_neg (by simp [hrest c rfl]), Nat.ofDigitChars_nil]
  | cons c digits ih =>
    obtain ⟨hc, hdigits⟩ := List.forall_mem_cons.1 h
    rw [ofDigitChars_cons] at hlt ⊢
    rw [List.cons_append, exponentDigits, if_pos hc]
    dsimp only [Nat.pow_eq]
    rw [if_pos ((le_ofDigitChars _ digits).trans_lt hlt), ih hdigits hlt]

/-- An exponent that is written behind its sign moves the point by its number. -/
theorem exponentPart_digits (negative : Bool) (significand : Nat) (start : Int) {n : Nat} (hn : n < 2 ^ 31)
    {text rest : List Char} {down : Bool} (hsign : exponentSign text = (down, digitsOf n ++ rest))
    (hrest : NoDigit rest) :
    exponentPart negative significand start text =
      assemble negative significand (if down then start - n else start + n) rest := by
  obtain ⟨hne, hdigits⟩ := digits_digitsOf n
  have hvalue : Nat.ofDigitChars 10 (digitsOf n) 0 = n := Nat.ofDigitChars_ten_toDigits
  obtain ⟨c, digits, hcons⟩ := List.exists_cons_of_ne_nil hne
  rw [hcons] at hdigits hvalue hsign
  obtain ⟨hc, hdigits⟩ := List.forall_mem_cons.1 hdigits
  rw [ofDigitChars_cons, Nat.zero_mul, Nat.zero_add] at hvalue
  have hread : exponentDigits (digitValue c) (digits ++ rest) = (some n, rest) := by
    rw [exponentDigits_digits hdigits hrest (by rw [hvalue]; exact hn), hvalue]
  rw [exponentPart_eq, hsign]
  dsimp only [List.cons_append]
  rw [if_pos hc, hread]

/-- An exponent with its mark and sign moves the point. -/
theorem afterDigits_exponent (negative : Bool) (significand : Nat) (start lead : Int) (hlead : lead.natAbs < 2 ^ 31)
    {rest : List Char} (hrest : NoDigit rest) :
    afterDigits negative significand start
        ('e' :: (if lead < 0 then '-' else '+') :: (digitsOf lead.natAbs ++ rest)) =
      assemble negative significand (start + lead) rest := by
  change exponentPart negative significand start _ = _
  by_cases hneg : lead < 0
  · rw [if_pos hneg, exponentPart_digits negative significand start hlead rfl hrest, if_pos rfl,
      show start - (lead.natAbs : Int) = start + lead by omega]
  · rw [if_neg hneg, exponentPart_digits negative significand start hlead rfl hrest, if_neg (by decide),
      show start + (lead.natAbs : Int) = start + lead by omega]

/-- A numeral with a point is read from its digits. -/
theorem number_point (negative : Bool) {whole part rest : List Char} (hwhole : Digits whole)
    (hzero : whole.head? = some '0' → whole = ['0']) (hpart : Digits part) (hrest : NoDigit rest) :
    number negative (whole ++ '.' :: (part ++ rest)) =
      afterDigits negative (gather (gather 0 whole).1 part).1
        ((gather 0 whole).2.length -
          (part.length - (gather (gather 0 whole).1 part).2.length : Nat)) rest := by
  have hpoint : NoDigit ('.' :: (part ++ rest)) := by
    rintro c ⟨⟩
    rfl
  obtain ⟨htake, hdrop⟩ := takeWhile_digits hwhole.2 hpoint
  obtain ⟨c, tail, rfl⟩ := List.exists_cons_of_ne_nil hwhole.1
  have hc := hwhole.2 c List.mem_cons_self
  have hlead : ¬ (c = '0' ∧ ((tail ++ '.' :: (part ++ rest)).head?.map Char.isDigit).getD false = true) := by
    rintro ⟨rfl, hdigit⟩
    obtain rfl : tail = [] := (List.cons.inj (hzero rfl)).2
    cases hdigit
  rw [List.cons_append] at htake hdrop ⊢
  rw [number_eq negative hc hlead, htake, hdrop]
  exact fractionPart_digits negative _ _ hpart hrest

/-- What the reader makes of digits in scientific notation: the significand, and its exponent. -/
def gathered (digits : List Char) (lead : Int) : Nat × Int :=
  ((gather (gather 0 (digits.take 1)).1 (digits.drop 1)).1,
    lead - ((digits.drop 1).length - (gather (gather 0 (digits.take 1)).1 (digits.drop 1)).2.length : Nat))

theorem gather_digit {c : Char} (h : c.isDigit = true) : gather 0 [c] = (digitValue c, []) := by
  have hdigit := digitValue_lt h
  have hvalue : Nat.ofDigitChars 10 [c] 0 = digitValue c := by
    rw [ofDigitChars_cons, Nat.zero_mul, Nat.zero_add, Nat.ofDigitChars_nil]
  rw [gather_eq (by rw [hvalue]; omega), hvalue]

/-- A first digit is the significand that the others are gathered into. -/
theorem gathered_cons {c : Char} (hc : c.isDigit = true) (part : List Char) (lead : Int) :
    gathered (c :: part) lead = ((gather (digitValue c) part).1,
      lead - (part.length - (gather (digitValue c) part).2.length : Nat)) := by
  change ((gather (gather 0 [c]).1 part).1, lead - (part.length - (gather (gather 0 [c]).1 part).2.length : Nat)) = _
  rw [gather_digit hc]

theorem afterWhole_exponent (negative : Bool) (significand : Nat) (rest : List Char) :
    afterWhole negative significand [] ('e' :: rest) = afterDigits negative significand 0 ('e' :: rest) := by
  unfold afterWhole
  split
  · rename_i heq
    cases heq
  · exact if_neg fun h => h.2.1 rfl

/-- Digits in scientific notation are read as the significand and exponent that the reader gathers. -/
theorem number_scientific (negative : Bool) {digits : List Char} (hdigits : Digits digits) (lead : Int)
    (hlead : lead.natAbs < 2 ^ 31) {rest : List Char} (hrest : NoDigit rest) :
    number negative (scientific digits lead ++ rest) =
      assemble negative (gathered digits lead).1 (gathered digits lead).2 rest := by
  obtain ⟨c, part, rfl⟩ := List.exists_cons_of_ne_nil hdigits.1
  have hc := hdigits.2 c List.mem_cons_self
  have hmark : NoDigit ('e' :: (if lead < 0 then '-' else '+') :: (digitsOf lead.natAbs ++ rest)) := by
    rintro _ ⟨⟩
    rfl
  -- with one digit there is no point
  cases part with
  | nil =>
    have htext : scientific [c] lead ++ rest =
        [c] ++ 'e' :: (if lead < 0 then '-' else '+') :: (digitsOf lead.natAbs ++ rest) := by
      simp [scientific]
    have hsingle : ∀ d ∈ [c], d.isDigit = true := List.forall_mem_singleton.2 hc
    obtain ⟨htake, hdrop⟩ := takeWhile_digits hsingle hmark
    have hafter := afterDigits_exponent negative (digitValue c) 0 lead hlead hrest
    rw [htext, List.singleton_append] at *
    rw [number_eq negative hc (by rintro ⟨-, hdigit⟩; cases hdigit), htake, hdrop, gather_digit hc,
      afterWhole_exponent, hafter, gathered_cons hc, zero_add]
    change _ = assemble negative (digitValue c) (lead - 0) rest
    rw [sub_zero]
  | cons d part =>
    have htext : scientific (c :: d :: part) lead ++ rest = [c] ++ '.' :: ((d :: part) ++
        'e' :: (if lead < 0 then '-' else '+') :: (digitsOf lead.natAbs ++ rest)) := by
      simp [scientific]
    have hpart : Digits (d :: part) := ⟨List.cons_ne_nil _ _, fun e he => hdigits.2 e (List.mem_cons_of_mem c he)⟩
    have hwhole : Digits [c] := ⟨List.cons_ne_nil _ _, List.forall_mem_singleton.2 hc⟩
    have hzero : [c].head? = some '0' → [c] = ['0'] := by
      rintro ⟨⟩
      rfl
    rw [htext, number_point negative hwhole hzero hpart hmark, afterDigits_exponent _ _ _ _ hlead hrest,
      gathered_cons hc, gather_digit hc]
    dsimp only [List.length_nil]
    rw [Nat.cast_zero, zero_sub, neg_add_eq_sub]

/-! ## Scaling -/

theorem isInf_of_isFinite {x : Float} (h : x.isFinite = true) : x.isInf = false := by
  have hinf : x.isInf = x.toModel.unpack.isInf := rfl
  rw [isFinite_eq] at h
  rw [hinf]
  cases hform : x.toModel.unpack with
  | infinity sign =>
    rw [hform] at h
    cases h
  | notANumber => rfl
  | zero sign => rfl
  | finite sign m e hpos => rfl

/-- A product in the range of doubles is no overflow. -/
theorem scale_of_isFinite {f : Float} {k : Nat} (hk : k ≤ 308)
    (h : (f * Float.ofScientific 1 false k).isFinite = true) : ∃ y, scale f k = some y := by
  rw [scale, if_pos (by omega), if_pos (by omega)]
  dsimp only
  rw [Int.toNat_natCast, isInf_of_isFinite h]
  exact ⟨_, rfl⟩

/-- Scaling down always gives a double. -/
theorem scale_of_neg (f : Float) {exponent : Int} (h : exponent < 0) : ∃ y, scale f exponent = some y := by
  induction hn : (-exponent).toNat using Nat.strong_induction_on generalizing f exponent with
  | _ n ih =>
    rw [scale]
    by_cases hsmall : exponent.natAbs ≤ 308
    · rw [if_pos hsmall, if_neg (by omega)]
      exact ⟨_, rfl⟩
    · rw [if_neg hsmall]
      split
      · exact ⟨_, rfl⟩
      · rw [if_neg (by omega)]
        exact ih _ (by omega) _ (by omega) rfl

/-- What is scaled down stays in the range of doubles. -/
theorem scale_of_nonpos {f : Float} (hf : f.isFinite = true) {exponent : Int} (h : exponent ≤ 0) :
    ∃ y, scale f exponent = some y := by
  rcases h.lt_or_eq with h | rfl
  · exact scale_of_neg f h
  · have hone : Float.ofScientific 1 false 0 = 1 := rfl
    exact scale_of_isFinite (by decide) (by rw [hone]; exact isFinite_mul_one hf)

/-- A significand that can be scaled gives a double with the sign. -/
theorem assemble_of_scale {significand : Nat} {exponent : Int} {y : Float}
    (h : scale (UInt64.ofNat significand).toFloat exponent = some y) (negative : Bool) (rest : List Char) :
    assemble negative significand exponent rest = .ok (.real (signed negative y), rest) := by
  rw [assemble, h]

/-! ## The text of a double -/

/-- No zero stands in front of the digits of a positive number. -/
theorem head?_digitsOf {n : Nat} (h : 0 < n) : (digitsOf n).head? ≠ some '0' := by
  have hdigit : ∀ d < 10, 0 < d → d.digitChar ≠ '0' := by decide
  induction n using Nat.strong_induction_on with
  | _ n ih =>
    unfold digitsOf
    rw [Nat.toDigits_eq_if (by decide)]
    split
    · rename_i hlt
      exact fun heq => hdigit n hlt h (Option.some.inj heq)
    · rename_i hge
      have hhead := ih (n / 10) (Nat.div_lt_self h (by decide)) (Nat.div_pos (Nat.not_lt.1 hge) (by decide))
      rwa [List.head?_append_of_ne_nil _ Nat.toDigits_ne_nil]

/-- What the reader makes of a decimal that is written in scientific notation. -/
def reread (s : Scientific) : Nat × Int :=
  gathered (digitsOf s.digits) ((digitsOf s.digits).length + s.exponent - 1)

/-- The significand that is gathered from the digits of a decimal, with its exponent, does not exceed the
decimal. -/
theorem gathered_bounds (s : Scientific) (hpos : 0 < s.digits) :
    0 < (reread s).1 ∧ (reread s).1 < 2 ^ 64 ∧ ((reread s).1 * 10 ^ (reread s).2 : ℚ) ≤ s.toRat := by
  unfold reread
  obtain ⟨hne, hdigits⟩ := digits_digitsOf s.digits
  have hvalue : Nat.ofDigitChars 10 (digitsOf s.digits) 0 = s.digits := Nat.ofDigitChars_ten_toDigits
  have hhead := head?_digitsOf hpos
  obtain ⟨c, part, hcons⟩ := List.exists_cons_of_ne_nil hne
  rw [hcons] at hdigits hvalue hhead ⊢
  have hc := hdigits c List.mem_cons_self
  have hlt := digitValue_lt hc
  -- of the digits behind the first some are taken, and the others are counted by the exponent
  obtain ⟨taken, hpart, hsignificand, hfits⟩ := gather_spec (by omega : digitValue c < 2 ^ 64) part
  rw [gathered_cons hc]
  generalize gather (digitValue c) part = read at hpart hsignificand hfits ⊢
  obtain ⟨significand, dropped⟩ := read
  subst hpart
  dsimp only at hsignificand hfits ⊢
  have hlead : 0 < digitValue c := digitValue_pos hc fun hzero => hhead (congrArg some hzero)
  refine ⟨?_, hfits, ?_⟩
  · rw [hsignificand]
    exact hlead.trans_le (le_ofDigitChars _ _)
  · have hexponent : ((c :: (taken ++ dropped)).length : Int) + s.exponent - 1 -
        ((taken ++ dropped).length - dropped.length : Nat) = dropped.length + s.exponent := by
      simp only [List.length_cons, List.length_append, Nat.add_sub_cancel]
      push_cast
      ring
    rw [hexponent, zpow_add₀ (by norm_num), zpow_natCast, Scientific.toRat, ← mul_assoc]
    gcongr
    rw [← hvalue, ofDigitChars_cons, Nat.zero_mul, Nat.zero_add, Nat.ofDigitChars_append, ← hsignificand,
      Nat.ofDigitChars_eq_ofDigitChars_zero]
    push_cast
    nlinarith

/-- The two greatest doubles are read back without overflow. -/
theorem greatest_reread : ∀ m ∈ [2 ^ 53 - 2, 2 ^ 53 - 1], (reread (shortest .toEven m 971)).2 ≤ 308 ∧
    ((UInt64.ofNat (reread (shortest .toEven m 971)).1).toFloat *
      Float.ofScientific 1 false (reread (shortest .toEven m 971)).2.toNat).isFinite = true := by
  decide +kernel

theorem overflow_le_ten_pow : overflow ≤ 10 ^ 309 := by
  have hle := (@Nat.cast_le ℚ _ _ _ _).2 ten_pow_bounds.2
  rw [natCast_overflow, Nat.cast_pow] at hle
  exact hle

/-- The significand of a shortest decimal can be scaled. -/
theorem scale_reread {m : Nat} {e : Int} (hpos : 0 < m) (hlt : m < 2 ^ 53) (hleast : -1074 ≤ e)
    (hgreatest : e ≤ 971) :
    ∃ y, scale (UInt64.ofNat (reread (shortest .toEven m e)).1).toFloat (reread (shortest .toEven m e)).2 =
      some y := by
  obtain ⟨hdigits, hbound, -⟩ := shortest_bounds .toEven hpos hleast
  obtain ⟨hsignificand, hfits, hle⟩ := gathered_bounds (shortest .toEven m e) hdigits
  -- the two greatest doubles leave no room for two roundings, so they are computed
  by_cases hroom : e ≤ 970 ∨ m ≤ 2 ^ 53 - 3
  · generalize reread (shortest .toEven m e) = read at *
    obtain ⟨significand, exponent⟩ := read
    dsimp only at *
    rcases Int.le_total exponent 0 with hnonpos | hnonneg
    · exact scale_of_nonpos (isFinite_toFloat _) hnonpos
    obtain ⟨k, rfl⟩ := Int.eq_ofNat_of_zero_le hnonneg
    rw [zpow_natCast] at hle
    have hle' := hle.trans hbound
    have hk : k ≤ 308 := by
      have hone : (1 : ℚ) ≤ significand := by exact_mod_cast hsignificand
      have hpower : (10 : ℚ) ^ k < 10 ^ 309 := by
        calc (10 : ℚ) ^ k ≤ significand * 10 ^ k := le_mul_of_one_le_left (by positivity) hone
          _ ≤ (4 * m + 2) * 2 ^ (e - 2) := hle'
          _ ≤ (4 * m + 2) * 2 ^ (e - 2) * (1 + 1 / 2 ^ 53) ^ 2 :=
            le_mul_of_one_le_right (by positivity) (by norm_num)
          _ < overflow := twice_rounded_lt_overflow hlt hgreatest hroom
          _ ≤ 10 ^ 309 := overflow_le_ten_pow
      have hlt := (pow_lt_pow_iff_right₀ (by norm_num : (1 : ℚ) < 10)).1 hpower
      omega
    exact scale_of_isFinite hk (isFinite_mul_power hsignificand hfits hk hle' hlt hgreatest hroom)
  · have hm : m ∈ [2 ^ 53 - 2, 2 ^ 53 - 1] := by
      simp only [List.mem_cons, List.not_mem_nil, or_false]
      omega
    obtain rfl : e = 971 := by omega
    obtain ⟨hk, hfinite⟩ := greatest_reread m hm
    generalize reread (shortest .toEven m 971) = read at *
    rcases Int.le_total read.2 0 with hnonpos | hnonneg
    · exact scale_of_nonpos (isFinite_toFloat _) hnonpos
    obtain ⟨k, hexponent⟩ := Int.eq_ofNat_of_zero_le hnonneg
    rw [hexponent] at hk hfinite ⊢
    exact scale_of_isFinite (by omega) hfinite

/-- Digits in positional notation are a whole part and a part behind the point. -/
theorem positionalWithPoint_form {digits : List Char} (hdigits : Digits digits) {point : Int} (hpoint : point ≤ 16)
    (hzero : digits.head? = some '0' → digits = ['0'] ∧ point = 1) :
    ∃ whole part, positionalWithPoint digits point = whole ++ '.' :: part ∧ Digits whole ∧ Digits part ∧
      (whole.head? = some '0' → whole = ['0']) ∧ whole.length ≤ 16 := by
  unfold positionalWithPoint positional
  dsimp only
  by_cases hlow : point ≤ 0
  · rw [if_pos hlow, if_pos (by simp)]
    exact ⟨['0'], _, rfl, digits_zero, replicate_append_digits _ hdigits, fun _ => rfl, by decide⟩
  rw [if_neg hlow]
  by_cases hlong : digits.length ≤ point.toNat
  · have hwhole : Digits (digits ++ List.replicate (point.toNat - digits.length) '0') :=
      digits_append hdigits fun _ => isDigit_of_mem_replicate
    have hdot : '.' ∉ digits ++ List.replicate (point.toNat - digits.length) '0' :=
      fun hmem => absurd (hwhole.2 '.' hmem) (by decide)
    rw [if_pos hlong, if_neg hdot]
    refine ⟨_, ['0'], rfl, hwhole, digits_zero, fun hhead => ?_, ?_⟩
    · rw [List.head?_append_of_ne_nil _ hdigits.1] at hhead
      obtain ⟨rfl, rfl⟩ := hzero hhead
      rfl
    · rw [List.length_append, List.length_replicate]
      omega
  · have hdot : '.' ∈ digits.take point.toNat ++ '.' :: digits.drop point.toNat :=
      List.mem_append_right _ List.mem_cons_self
    have htake : digits.take point.toNat ≠ [] := by
      rw [Ne, List.take_eq_nil_iff, not_or]
      exact ⟨by omega, hdigits.1⟩
    rw [if_neg hlong, if_pos hdot]
    refine ⟨_, _, rfl, ⟨htake, fun c hc => hdigits.2 c (List.mem_of_mem_take hc)⟩,
      ⟨by simpa using hlong, fun c hc => hdigits.2 c (List.mem_of_mem_drop hc)⟩, fun hhead => ?_, ?_⟩
    · rw [List.head?_take, if_neg (by omega)] at hhead
      obtain ⟨rfl, rfl⟩ := hzero hhead
      exact absurd (by decide) hlong
    · rw [List.length_take]
      omega

/-- A numeral without exponent is read as a double, if its whole part fits. -/
theorem number_positional (negative : Bool) {whole part : List Char} (hwhole : Digits whole)
    (hzero : whole.head? = some '0' → whole = ['0']) (hpart : Digits part) (hlength : whole.length ≤ 16) :
    ∃ y, ∀ rest, NoDigit rest → rest.head? ≠ some 'e' → rest.head? ≠ some 'E' →
      number negative ((whole ++ '.' :: part) ++ rest) = .ok (.real (signed negative y), rest) := by
  have hfits : Nat.ofDigitChars 10 whole 0 < 2 ^ 64 := by
    calc Nat.ofDigitChars 10 whole 0 < (0 + 1) * 10 ^ whole.length := ofDigitChars_lt hwhole.2 0
      _ ≤ (0 + 1) * 10 ^ 16 := Nat.mul_le_mul_left _ (Nat.pow_le_pow_right (by decide) hlength)
      _ < 2 ^ 64 := by decide
  have hgather := gather_eq hfits
  obtain ⟨y, hy⟩ := scale_of_nonpos (isFinite_toFloat (UInt64.ofNat (gather (gather 0 whole).1 part).1))
    (by rw [hgather]; simp : ((gather 0 whole).2.length : Int) -
      (part.length - (gather (gather 0 whole).1 part).2.length : Nat) ≤ 0)
  refine ⟨y, fun rest hrest hlower hupper => ?_⟩
  rw [List.append_assoc, List.cons_append, number_point negative hwhole hzero hpart hrest,
    afterDigits_other _ _ _ hlower hupper, assemble_of_scale hy]

/-- A text that ends a number in front of it. -/
def EndsNumber (rest : List Char) : Prop :=
  NoDigit rest ∧ rest.head? ≠ some 'e' ∧ rest.head? ≠ some 'E'

/-- A minus or a digit begins a number. -/
theorem scalar_signed (negative : Bool) {c : Char} (hc : c.isDigit = true) (tail : List Char) :
    Read.scalar (sign negative ++ c :: tail) = number negative (c :: tail) := by
  cases negative with
  | true => rfl
  | false =>
    have hother : ∀ d : Char, d.isDigit = false → c ≠ d := by
      rintro d hd rfl
      rw [hc] at hd
      cases hd
    change Read.scalar (c :: tail) = _
    rw [Read.scalar, if_neg (hother 'n' rfl), if_neg (hother 't' rfl), if_neg (hother 'f' rfl),
      if_neg (hother '-' rfl), if_pos hc]

/-- What `interchangeChars` writes behind the sign. -/
def unsignedChars (digits : List Char) (point : Int) : List Char :=
  if interchangeRange.1 ≤ point - 1 ∧ point - 1 ≤ interchangeRange.2 then positionalWithPoint digits point
  else scientific digits (point - 1)

/-- What is written for a double is read as a double, in either of its two notations. -/
theorem scalar_unsignedChars (negative : Bool) {digits : List Char} {point : Int} (hdigits : Digits digits)
    (hzero : digits.head? = some '0' → digits = ['0'] ∧ point = 1) (hsmall : (point - 1).natAbs < 2 ^ 31)
    (hscale : ∃ y, scale (UInt64.ofNat (gathered digits (point - 1)).1).toFloat (gathered digits (point - 1)).2 =
      some y) :
    ∃ y, ∀ rest, EndsNumber rest →
      Read.scalar (sign negative ++ unsignedChars digits point ++ rest) = .ok (.real y, rest) := by
  unfold unsignedChars
  split
  · rename_i hrange
    have hpoint : point ≤ 16 := by
      have := hrange.2
      change point - 1 ≤ 15 at this
      omega
    -- in positional notation the text has a point, so it is read as a double
    obtain ⟨whole, part, htext, hwhole, hpart, hlead, hlength⟩ := positionalWithPoint_form hdigits hpoint hzero
    obtain ⟨y, hy⟩ := number_positional negative hwhole hlead hpart hlength
    obtain ⟨c, tail, rfl⟩ := List.exists_cons_of_ne_nil hwhole.1
    refine ⟨signed negative y, fun rest hrest => ?_⟩
    have hread := hy rest hrest.1 hrest.2.1 hrest.2.2
    rw [htext, List.append_assoc]
    rw [List.cons_append, List.cons_append] at hread ⊢
    rw [scalar_signed negative (hwhole.2 c List.mem_cons_self), hread]
  · obtain ⟨y, hy⟩ := hscale
    obtain ⟨c, tail, rfl⟩ := List.exists_cons_of_ne_nil hdigits.1
    refine ⟨signed negative y, fun rest hrest => ?_⟩
    have hread := number_scientific negative hdigits (point - 1) hsmall hrest.1
    rw [assemble_of_scale hy] at hread
    have hcons : ∃ more, scientific (c :: tail) (point - 1) ++ rest = c :: more := ⟨_, rfl⟩
    obtain ⟨more, hmore⟩ := hcons
    rw [List.append_assoc, hmore, scalar_signed negative (hdigits.2 c List.mem_cons_self), ← hmore, hread]

/-- A finite double is written as its sign and its shortest digits. -/
theorem interchangeChars_eq {x : Float} {negative : Bool} {m : Nat} {e : Int}
    (h : Reading.ofFloat x = .finite negative m e) :
    interchangeChars x = sign negative ++
      unsignedChars (shortestDigits .toEven m e).1 (shortestDigits .toEven m e).2 := by
  unfold interchangeChars
  rw [h]
  rfl

/-- The midpoint above a double does not lie behind the midpoint above the greatest one. -/
theorem midpoint_le_overflow {m : Nat} {e : Int} (hlt : m < 2 ^ 53) (hgreatest : e ≤ 971) :
    ((4 * m + 2) * 2 ^ (e - 2) : ℚ) ≤ overflow := by
  have hscale : (2 : ℚ) ^ (e - 2) ≤ 2 ^ ((970 : Int) + -1) := zpow_le_zpow_right₀ (by norm_num) (by omega)
  have hm := midpoint_mantissa_le (by omega : m + 1 ≤ 2 ^ 53)
  have hpos : (0 : ℚ) < 2 ^ (970 : Int) := by positivity
  rw [zpow_add₀ two_ne_zero 970 (-1), zpow_neg_one] at hscale
  rw [overflow]
  generalize (2 : ℚ) ^ (970 : Int) = step at hpos hscale
  calc ((4 * m + 2) * 2 ^ (e - 2) : ℚ) ≤ (2 ^ 55 + 2 - 4 * (1 : Nat)) * (step * 2⁻¹) := by gcongr
    _ = (2 ^ 54 - 1) * step := by ring

/-- The point of a shortest decimal stands where the reader can count it. -/
theorem point_small {m : Nat} {e : Int} (hpos : 0 < m) (hlt : m < 2 ^ 53) (hleast : -1074 ≤ e)
    (hgreatest : e ≤ 971) :
    ((digitsOf (shortest .toEven m e).digits).length + (shortest .toEven m e).exponent - 1).natAbs < 2 ^ 31 := by
  obtain ⟨hdigits, hbound, hexponent⟩ := shortest_bounds .toEven hpos hleast
  generalize shortest .toEven m e = s at *
  have hlength : 0 < (digitsOf s.digits).length := List.length_pos_of_ne_nil (digits_digitsOf s.digits).1
  -- The leading digit stands for a power of ten that the decimal reaches.
  have hlead : 10 ^ ((digitsOf s.digits).length - 1) ≤ s.digits := by
    by_contra hless
    rcases Nat.eq_zero_or_pos ((digitsOf s.digits).length - 1) with hzero | hmore
    · rw [hzero, pow_zero] at hless
      exact hless hdigits
    · have := (Nat.length_toDigits_le_iff (by decide : 1 < 10) hmore).2 (Nat.not_le.1 hless)
      unfold digitsOf at *
      omega
  have hpower : (10 : ℚ) ^ (((digitsOf s.digits).length - 1 : Nat) + s.exponent) ≤ 10 ^ (309 : Int) := by
    calc (10 : ℚ) ^ (((digitsOf s.digits).length - 1 : Nat) + s.exponent)
        = (10 ^ ((digitsOf s.digits).length - 1) : Nat) * 10 ^ s.exponent := by
          rw [zpow_add₀ (by norm_num), zpow_natCast, Nat.cast_pow]
          rfl
      _ ≤ s.digits * 10 ^ s.exponent := by gcongr
      _ ≤ (4 * m + 2) * 2 ^ (e - 2) := hbound
      _ ≤ overflow := midpoint_le_overflow hlt hgreatest
      _ ≤ 10 ^ 309 := overflow_le_ten_pow
      _ = 10 ^ (309 : Int) := (zpow_natCast 10 309).symm
  have hle := (zpow_le_zpow_iff_right₀ (by norm_num : (1 : ℚ) < 10)).1 hpower
  omega

/-- The text of a finite double is read as a double, whatever follows that does not belong to it. -/
theorem scalar_interchangeChars {x : Float} (h : x.isFinite = true) :
    ∃ y, ∀ rest, EndsNumber rest → Read.scalar (interchangeChars x ++ rest) = .ok (.real y, rest) := by
  obtain ⟨negative, m, e, hreading, ⟨rfl, rfl⟩ | ⟨hpos, hlt, hleast, hgreatest⟩⟩ := exists_reading h
  · rw [interchangeChars_eq hreading]
    exact scalar_unsignedChars negative digits_zero (fun _ => ⟨rfl, rfl⟩) (by decide)
      (scale_of_nonpos (isFinite_toFloat _) (by decide))
  · have hdigits : shortestDigits .toEven m e = (digitsOf (shortest .toEven m e).digits,
        (digitsOf (shortest .toEven m e).digits).length + (shortest .toEven m e).exponent) := if_neg hpos.ne'
    obtain ⟨hpositive, -, -⟩ := shortest_bounds .toEven hpos hleast
    rw [interchangeChars_eq hreading, hdigits]
    exact scalar_unsignedChars negative (digits_digitsOf _) (fun hhead => absurd hhead (head?_digitsOf hpositive))
      (point_small hpos hlt hleast hgreatest) (scale_reread hpos hlt hleast hgreatest)

end BenchScope.Json
