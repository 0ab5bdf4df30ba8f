import BenchScope.Decimal.Binary64
import Mathlib

/-!
# The order of doubles

A double is unpacked into one form: not a number, an infinity, a zero, or a mantissa with an exponent
whose leading bit has a fixed place. Packing such a form and unpacking it again gives it back.

The forms of numbers stand in a row, and `rank` counts the steps from zero. Comparing doubles is comparing
ranks, so that on numbers `≤` is a total order up to the sign of zero: apart from the two zeros, different
numbers have different ranks.
-/

namespace BenchScope.Decimal

open Float.Model Float.Model.UnpackedFloat

/-! ## Forms -/

/-- The unpacked forms of doubles. A finite one has a leading bit in its place unless its exponent is the
least one. -/
inductive Canonical : UnpackedFloat → Prop where
  | notANumber : Canonical .notANumber
  | infinity (sign : Sign) : Canonical (.infinity sign)
  | zero (sign : Sign) : Canonical (.zero sign)
  | finite {sign : Sign} {mantissa : Nat} {exponent : Int} (hpos : 0 < mantissa)
      (hlt : mantissa < 2 ^ 53) (hleast : -1074 ≤ exponent) (hgreatest : exponent ≤ 971)
      (hleading : 2 ^ 52 ≤ mantissa ∨ exponent = -1074) :
      Canonical (.finite sign mantissa exponent hpos)

/-- A mantissa with its implicit bit in front. -/
theorem toNat_leading (m : BitVec 52) : (1#1 ++ m).toNat = 2 ^ 52 + m.toNat := by
  rw [BitVec.toNat_append, ← Nat.shiftLeft_add_eq_or_of_lt m.isLt]
  rfl

/-- Unpacking gives a form in which the leading bit is in its place. -/
theorem canonical_unpack (bits : BitVec Format.binary64.numBits) :
    Canonical (UnpackedFloat.unpack .binary64 bits) := by
  have hmantissa : (unpackMantissa bits).toNat < 2 ^ 52 := (unpackMantissa bits).isLt
  have hexponent : (unpackExponent bits).toNat < 2 ^ 11 := (unpackExponent bits).isLt
  have hbias : (Format.binary64.exponentBias : Int) = 1023 := rfl
  have hwidth : (Format.binary64.mantissaBitsWithoutImplicit : Int) = 52 := rfl
  unfold UnpackedFloat.unpack
  dsimp only
  split_ifs with hones hzero hnone hempty
  · exact .infinity _
  · exact .notANumber
  · exact .zero _
  · refine .finite _ (by omega) ?_ ?_ (Or.inr ?_) <;> rw [hbias, hwidth, hnone] <;> decide
  · have hne : (unpackExponent bits).toNat ≠ 0 := fun h => hnone (BitVec.eq_of_toNat_eq h)
    have hne' : (unpackExponent bits).toNat ≠ 2047 := fun h => hones (BitVec.eq_of_toNat_eq h)
    have hleading := toNat_leading (unpackMantissa bits)
    refine .finite _ ?_ ?_ ?_ (Or.inl ?_)
    · change (1#1 ++ unpackMantissa bits).toNat < _
      omega
    · rw [hbias, hwidth]; omega
    · rw [hbias, hwidth]; omega
    · change _ ≤ (1#1 ++ unpackMantissa bits).toNat
      omega

theorem canonical_form (x : Float) : Canonical x.toModel.unpack := canonical_unpack _

theorem log2_eq_of_leading {m : Nat} (hlow : 2 ^ 52 ≤ m) (hhigh : m < 2 ^ 53) : m.log2 = 52 :=
  (Nat.log2_eq_iff (by omega)).2 ⟨hlow, hhigh⟩

/-- The biased exponent of a form, with the numbers of the format put in. -/
theorem biasedExponent (e : Int) :
    (e + Format.binary64.exponentBias + Format.binary64.mantissaBitsWithoutImplicit).toNat =
      (e + 1075).toNat := by
  rw [show (Format.binary64.exponentBias : Int) = 1023 from rfl,
    show (Format.binary64.mantissaBitsWithoutImplicit : Int) = 52 from rfl, Int.add_assoc]
  rfl

/-- A form with a leading bit is packed into its biased exponent and the bits behind the leading one. -/
theorem pack_normal (sign : Sign) {m : Nat} {e : Int} (hpos : 0 < m) (hlow : 2 ^ 52 ≤ m)
    (hhigh : m < 2 ^ 53) (hgreatest : e ≤ 971) :
    UnpackedFloat.pack .binary64 (.finite sign m e hpos) =
      packComponents .binary64 sign (BitVec.ofNat 11 (e + 1075).toNat) (BitVec.ofNat 52 m) := by
  have hbits : m.log2 + 1 = Format.binary64.mantissaBits := by
    rw [log2_eq_of_leading hlow hhigh]
    rfl
  have hfits : ¬ 2 ^ Format.binary64.exponentBits ≤ (e + 1075).toNat + 1 := by
    change ¬ 2048 ≤ _
    omega
  rw [UnpackedFloat.pack]
  dsimp only
  rw [biasedExponent, if_neg hfits, if_pos hbits]

/-- A form without a leading bit is packed into its mantissa. -/
theorem pack_subnormal (sign : Sign) {m : Nat} (hpos : 0 < m) (hlt : m < 2 ^ 52) :
    UnpackedFloat.pack .binary64 (.finite sign m (-1074) hpos) =
      packComponents .binary64 sign 0#11 (BitVec.ofNat 52 m) := by
  have hbits : m.log2 + 1 ≠ Format.binary64.mantissaBits := by
    have hlog : m.log2 < 52 := (Nat.log2_lt (by omega)).2 hlt
    change _ ≠ 53
    omega
  rw [UnpackedFloat.pack]
  dsimp only
  rw [biasedExponent, if_neg (by decide), if_neg hbits]

/-- What is too great for a double is packed into an infinity. -/
theorem pack_overflow (sign : Sign) {m : Nat} {e : Int} (hpos : 0 < m) (hgreat : 971 < e) :
    UnpackedFloat.pack .binary64 (.finite sign m e hpos) = packedInfinity .binary64 sign := by
  have hover : 2 ^ Format.binary64.exponentBits ≤ (e + 1075).toNat + 1 := by
    change 2048 ≤ _
    omega
  rw [UnpackedFloat.pack]
  dsimp only
  rw [biasedExponent, if_pos hover]

/-- What packed parts are unpacked into. The greatest exponent means an infinity or no number, and the
least one means that there is no leading bit. -/
theorem unpack_packComponents (sign : Sign) (exponent : BitVec 11) (mantissa : BitVec 52) :
    UnpackedFloat.unpack .binary64 (packComponents .binary64 sign exponent mantissa) =
      if exponent = -1#11 then if mantissa = 0#52 then .infinity sign else .notANumber
      else if exponent = 0#11 then
        if h : mantissa = 0#52 then .zero sign
        else .finite sign mantissa.toNat (-1074) (by
          rwa [Nat.pos_iff_ne_zero, Ne, ← BitVec.toNat_zero, BitVec.toNat_inj])
      else .finite sign (2 ^ 52 + mantissa.toNat) (exponent.toNat - 1075) (by omega) := by
  unfold UnpackedFloat.unpack
  simp only [unpackExponent_packComponents, unpackMantissa_packComponents,
    unpackSign_packComponents, Sign.ofBitVec_toBitVec]
  split_ifs with h₁ h₂ h₃ h₄
  · rfl
  · rfl
  · rfl
  · rw [h₃]
    rfl
  · congr 1
    exact toNat_leading mantissa

/-- A form of a double is found again after packing it. -/
theorem unpack_pack {u : UnpackedFloat} (h : Canonical u) : (Float.Model.pack u).unpack = u := by
  change UnpackedFloat.unpack .binary64 (UnpackedFloat.pack .binary64 u) = u
  cases h with
  | notANumber => rfl
  | infinity sign => cases sign <;> rfl
  | zero sign => cases sign <;> rfl
  | @finite sign m e hpos hlt hleast hgreatest hleading =>
    -- with a leading bit the exponent field is neither the least nor the greatest one
    by_cases hlow : 2 ^ 52 ≤ m
    · have hexponent : (BitVec.ofNat 11 (e + 1075).toNat).toNat = (e + 1075).toNat :=
        Nat.mod_eq_of_lt (by omega)
      have hmantissa : (BitVec.ofNat 52 m).toNat = m - 2 ^ 52 := by
        rw [BitVec.toNat_ofNat]
        omega
      have hones : BitVec.ofNat 11 (e + 1075).toNat ≠ -1#11 := by
        intro heq
        have := congrArg BitVec.toNat heq
        rw [hexponent] at this
        change _ = 2047 at this
        omega
      have hzero : BitVec.ofNat 11 (e + 1075).toNat ≠ 0#11 := by
        intro heq
        have := congrArg BitVec.toNat heq
        rw [hexponent] at this
        change _ = 0 at this
        omega
      rw [pack_normal sign hpos hlow hlt hgreatest, unpack_packComponents, if_neg hones, if_neg hzero]
      congr 1
      · omega
      · omega
    · have hmantissa : (BitVec.ofNat 52 m).toNat = m := Nat.mod_eq_of_lt (by omega)
      have hempty : BitVec.ofNat 52 m ≠ 0#52 := by
        intro heq
        have := congrArg BitVec.toNat heq
        rw [hmantissa] at this
        change _ = 0 at this
        omega
      obtain rfl := hleading.resolve_left hlow
      rw [pack_subnormal sign hpos (by omega), unpack_packComponents, if_neg (by decide), if_pos rfl,
        dif_neg hempty]
      congr 1

/-! ## The order -/

/-- The place of a form among the forms, counted from zero in both directions. -/
def place : UnpackedFloat → Int
  | .notANumber => 0
  | .infinity sign => sign.apply (2047 * 2 ^ 52)
  | .zero _ => 0
  | .finite sign mantissa exponent _ => sign.apply ((exponent + 1074) * 2 ^ 52 + mantissa)

/-- The place of a double among the doubles, counted from zero in both directions. -/
def rank (x : Float) : Int := place x.toModel.unpack

/-- Exponents first and mantissas then is the same as one place in the row of forms. -/
theorem compare_then_eq {e₁ e₂ : Int} {m₁ m₂ : Nat} (h₁ : m₁ < 2 ^ 53) (h₂ : m₂ < 2 ^ 53)
    (hleast₁ : -1074 ≤ e₁) (hleast₂ : -1074 ≤ e₂) (hleading₁ : 2 ^ 52 ≤ m₁ ∨ e₁ = -1074)
    (hleading₂ : 2 ^ 52 ≤ m₂ ∨ e₂ = -1074) :
    (compare e₁ e₂).then (compare m₁ m₂) =
      compare ((e₁ + 1074) * 2 ^ 52 + m₁) ((e₂ + 1074) * 2 ^ 52 + m₂) := by
  -- a greater exponent comes with a leading bit, so it decides before the mantissas do
  rcases lt_trichotomy e₁ e₂ with he | rfl | he
  · have hlt : (e₁ + 1074) * 2 ^ 52 + m₁ < (e₂ + 1074) * 2 ^ 52 + m₂ := by omega
    rw [compare_lt_iff_lt.2 he, compare_lt_iff_lt.2 hlt]
    rfl
  · rw [compare_eq_iff_eq.2 rfl]
    rcases lt_trichotomy m₁ m₂ with hm | rfl | hm
    · rw [compare_lt_iff_lt.2 hm, compare_lt_iff_lt.2 (by omega)]
      rfl
    · rw [compare_eq_iff_eq.2 rfl, compare_eq_iff_eq.2 rfl]
      rfl
    · rw [compare_gt_iff_gt.2 hm, compare_gt_iff_gt.2 (by omega)]
      rfl
  · have hgt : (e₂ + 1074) * 2 ^ 52 + m₂ < (e₁ + 1074) * 2 ^ 52 + m₁ := by omega
    rw [compare_gt_iff_gt.2 he, compare_gt_iff_gt.2 hgt]
    rfl

theorem swap_compare (a b : Int) : (compare a b).swap = compare (-a) (-b) := by
  rcases lt_trichotomy a b with h | rfl | h
  · rw [compare_lt_iff_lt.2 h, compare_gt_iff_gt.2 (by omega)]
    rfl
  · rw [compare_eq_iff_eq.2 rfl, compare_eq_iff_eq.2 rfl]
    rfl
  · rw [compare_gt_iff_gt.2 h, compare_lt_iff_lt.2 (by omega)]
    rfl

theorem compare_eq_of_lt {u v : UnpackedFloat} (hcompare : u.compare v = some .lt)
    (h : place u < place v) : u.compare v = some (compare (place u) (place v)) := by
  rw [hcompare, compare_lt_iff_lt.2 h]

theorem compare_eq_of_gt {u v : UnpackedFloat} (hcompare : u.compare v = some .gt)
    (h : place v < place u) : u.compare v = some (compare (place u) (place v)) := by
  rw [hcompare, compare_gt_iff_gt.2 h]

/-- Numbers are compared by their places. -/
theorem compare_eq {u v : UnpackedFloat} (hu : Canonical u) (hv : Canonical v) (hu' : u ≠ .notANumber)
    (hv' : v ≠ .notANumber) : u.compare v = some (compare (place u) (place v)) := by
  cases hu with
  | notANumber => exact absurd rfl hu'
  | infinity s =>
    cases hv with
    | notANumber => exact absurd rfl hv'
    | infinity t => cases s <;> cases t <;> rfl
    | zero t => cases s <;> rfl
    | @finite t =>
      cases s <;> cases t
      · exact compare_eq_of_lt rfl (by simp only [place, Sign.apply]; omega)
      · exact compare_eq_of_lt rfl (by simp only [place, Sign.apply]; omega)
      · exact compare_eq_of_gt rfl (by simp only [place, Sign.apply]; omega)
      · exact compare_eq_of_gt rfl (by simp only [place, Sign.apply]; omega)
  | zero s =>
    cases hv with
    | notANumber => exact absurd rfl hv'
    | infinity t => cases t <;> rfl
    | zero t => rfl
    | @finite t =>
      cases t
      · exact compare_eq_of_gt rfl (by simp only [place, Sign.apply]; omega)
      · exact compare_eq_of_lt rfl (by simp only [place, Sign.apply]; omega)
  | @finite s m₁ e₁ _ hlt₁ hleast₁ _ hleading₁ =>
    cases hv with
    | notANumber => exact absurd rfl hv'
    | infinity t =>
      cases s <;> cases t
      · exact compare_eq_of_gt rfl (by simp only [place, Sign.apply]; omega)
      · exact compare_eq_of_lt rfl (by simp only [place, Sign.apply]; omega)
      · exact compare_eq_of_gt rfl (by simp only [place, Sign.apply]; omega)
      · exact compare_eq_of_lt rfl (by simp only [place, Sign.apply]; omega)
    | zero t =>
      cases s
      · exact compare_eq_of_lt rfl (by simp only [place, Sign.apply]; omega)
      · exact compare_eq_of_gt rfl (by simp only [place, Sign.apply]; omega)
    | @finite t m₂ e₂ _ hlt₂ hleast₂ _ hleading₂ =>
      -- only forms of the same sign are compared by exponent and mantissa
      have hmagnitude := compare_then_eq hlt₁ hlt₂ hleast₁ hleast₂ hleading₁ hleading₂
      cases s <;> cases t
      · rw [UnpackedFloat.compare, hmagnitude, swap_compare]
        rfl
      · exact compare_eq_of_lt rfl (by simp only [place, Sign.apply]; omega)
      · exact compare_eq_of_gt rfl (by simp only [place, Sign.apply]; omega)
      · rw [UnpackedFloat.compare, hmagnitude]
        rfl

/-- A double is a number unless it is unpacked into the form of no number. -/
theorem isNaN_eq_false_iff {x : Float} : x.isNaN = false ↔ x.toModel.unpack ≠ .notANumber := by
  change x.toModel.unpack.isNaN = false ↔ _
  cases x.toModel.unpack <;> simp [UnpackedFloat.isNaN]

/-- Doubles are compared by their ranks; what is not a number compares with nothing. -/
theorem compare_eq_some_iff {x y : Float} {order : Ordering} :
    x.toModel.unpack.compare y.toModel.unpack = some order ↔
      x.isNaN = false ∧ y.isNaN = false ∧ compare (rank x) (rank y) = order := by
  rw [isNaN_eq_false_iff, isNaN_eq_false_iff]
  by_cases hx' : x.toModel.unpack = .notANumber
  · rw [hx']
    simp [UnpackedFloat.compare]
  by_cases hy' : y.toModel.unpack = .notANumber
  · have hnone : x.toModel.unpack.compare .notANumber = none := by
      cases x.toModel.unpack with
      | infinity s => cases s <;> rfl
      | notANumber => rfl
      | zero s => rfl
      | finite s => cases s <;> rfl
    rw [hy', hnone]
    simp
  · rw [compare_eq (canonical_form x) (canonical_form y) hx' hy', Option.some_inj]
    exact ⟨fun h => ⟨hx', hy', h⟩, fun h => h.2.2⟩

/-- One double is at most another if both are numbers and their ranks are so ordered. -/
theorem le_iff {x y : Float} : x ≤ y ↔ x.isNaN = false ∧ y.isNaN = false ∧ rank x ≤ rank y := by
  have hle : x ≤ y ↔ (x.toModel.unpack.compare y.toModel.unpack).any (·.isLE) = true :=
    decide_eq_true_iff
  rw [hle, Option.any_eq_true]
  simp only [compare_eq_some_iff, and_assoc, exists_and_left, exists_eq_left',
    Ordering.isLE_iff_ne_gt, compare_gt_iff_gt, not_lt]

/-- One double is less than another if both are numbers and their ranks are so ordered. -/
theorem lt_iff {x y : Float} : x < y ↔ x.isNaN = false ∧ y.isNaN = false ∧ rank x < rank y := by
  have hlt : x < y ↔ (x.toModel.unpack.compare y.toModel.unpack == some .lt) = true :=
    decide_eq_true_iff
  rw [hlt, beq_iff_eq, compare_eq_some_iff, compare_lt_iff_lt]

/-- Two doubles are equal if both are numbers of the same rank; the two zeros have one rank. -/
theorem beq_iff {x y : Float} :
    (x == y) = true ↔ x.isNaN = false ∧ y.isNaN = false ∧ rank x = rank y := by
  change (x.toModel.unpack.compare y.toModel.unpack == some .eq) = true ↔ _
  rw [beq_iff_eq, compare_eq_some_iff, compare_eq_iff_eq]

/-- Apart from zero, every place holds one number only. -/
theorem form_eq_of_place_eq {u v : UnpackedFloat} (hu : Canonical u) (hv : Canonical v)
    (h : place u = place v) (hzero : place u ≠ 0) : u = v := by
  cases hu with
  | notANumber => exact absurd rfl hzero
  | zero s => exact absurd rfl hzero
  | infinity s =>
    cases hv with
    | notANumber => exact absurd h hzero
    | zero t => exact absurd h hzero
    | infinity t => cases s <;> cases t <;> first | rfl | exact absurd h (by decide)
    | @finite t => cases s <;> cases t <;> simp only [place, Sign.apply] at h <;> omega
  | @finite s =>
    cases hv with
    | notANumber => exact absurd h hzero
    | zero t => exact absurd h hzero
    | infinity t => cases s <;> cases t <;> simp only [place, Sign.apply] at h <;> omega
    | @finite t => cases s <;> cases t <;> simp only [place, Sign.apply] at h <;> congr <;> omega

/-- Apart from zero, a rank belongs to one double only. -/
theorem eq_of_rank_eq {x y : Float} (h : rank x = rank y) (hzero : rank x ≠ 0) : x = y := by
  have hform := form_eq_of_place_eq (canonical_form x) (canonical_form y) h hzero
  have hbits := (unpack_inj_of_valid x.toModel.valid y.toModel.valid).1 hform
  exact Float.toBits_inj.1 (UInt64.toBitVec_inj.1 hbits)

theorem rank_zero : rank 0 = 0 := by decide

theorem isNaN_zero : (0 : Float).isNaN = false := by decide

end BenchScope.Decimal
