import BenchScope.Proofs.DoubleRounding
import BenchScope.Proofs.JsonGrammar
import BenchScope.Proofs.Markup
import BenchScope.Report.Chart

/-!
# Numbers that are shown as numerals

A numeral is an optional minus, digits, and optionally a point with more digits; it spells a rational. The
text of a finite double is a numeral in every notation, so a cell shows one whenever the number that it ends
up with is finite. That number has been scaled and rounded before, and only one of the scalings can leave the
range of doubles: rounding to three places multiplies by a thousand first.
-/

namespace BenchScope.Decimal

open Json.Grammar

/-! ## Numerals -/

/-- The factor that a sign stands for. -/
def signFactor (negative : Bool) : ℚ := if negative then -1 else 1

/-- A numeral in positional notation, and the number that it spells. -/
inductive Numeral : List Char → ℚ → Prop where
  | whole (negative : Bool) {digits : List Char} (h : Digits digits) :
      Numeral (sign negative ++ digits) (signFactor negative * Nat.ofDigitChars 10 digits 0)
  | point (negative : Bool) {digits part : List Char} (h : Digits digits) (hpart : Digits part) :
      Numeral (sign negative ++ (digits ++ '.' :: part))
        (signFactor negative * (Nat.ofDigitChars 10 (digits ++ part) 0 / 10 ^ part.length))

/-- A natural number is written with one digit or more. -/
theorem digits_digitsOf (n : Nat) : Digits (digitsOf n) :=
  ⟨Nat.toDigits_ne_nil, fun _ hc => Nat.isDigit_of_mem_toDigits (by decide) (by decide) hc⟩

theorem digits_zero : Digits ['0'] := digits_digitsOf 0

/-- Digits in front of digits, or of nothing, are digits. -/
theorem digits_append {first second : List Char} (h₁ : Digits first)
    (h₂ : ∀ c ∈ second, c.isDigit = true) : Digits (first ++ second) := by
  refine ⟨by simp [h₁.1], fun c hc => ?_⟩
  rcases List.mem_append.1 hc with hc | hc
  · exact h₁.2 c hc
  · exact h₂ c hc

theorem isDigit_of_mem_replicate {n : Nat} {c : Char} (h : c ∈ List.replicate n '0') : c.isDigit = true := by
  rw [List.eq_of_mem_replicate h]
  rfl

theorem replicate_append_digits (n : Nat) {digits : List Char} (h : Digits digits) :
    Digits (List.replicate n '0' ++ digits) := by
  refine ⟨by simp [h.1], fun c hc => ?_⟩
  rcases List.mem_append.1 hc with hc | hc
  · exact isDigit_of_mem_replicate hc
  · exact h.2 c hc

/-- A text of digits in positional notation is a numeral, wherever the point stands. -/
theorem exists_numeral_positional (negative : Bool) {digits : List Char} (h : Digits digits) (point : Int) :
    ∃ q, Numeral (sign negative ++ positional digits point) q := by
  unfold positional
  by_cases hpoint : point ≤ 0
  · rw [if_pos hpoint]
    exact ⟨_, .point negative digits_zero (replicate_append_digits _ h)⟩
  rw [if_neg hpoint]
  by_cases hlength : digits.length ≤ point.toNat
  · rw [if_pos hlength]
    exact ⟨_, .whole negative (digits_append h fun _ hc => isDigit_of_mem_replicate hc)⟩
  · rw [if_neg hlength]
    have htake : Digits (digits.take point.toNat) := by
      refine ⟨?_, fun c hc => h.2 c (List.mem_of_mem_take hc)⟩
      rw [Ne, List.take_eq_nil_iff, not_or]
      exact ⟨by omega, h.1⟩
    have hdrop : Digits (digits.drop point.toNat) := by
      refine ⟨?_, fun c hc => h.2 c (List.mem_of_mem_drop hc)⟩
      rw [Ne, List.drop_eq_nil_iff]
      exact hlength
    exact ⟨_, .point negative htake hdrop⟩

/-- The shortest digits are never absent; for zero there is one. -/
theorem digits_shortestDigits (tie : Tie) (mantissa : Nat) (exponent : Int) :
    Digits (shortestDigits tie mantissa exponent).1 := by
  unfold shortestDigits
  split
  · exact digits_zero
  · exact digits_digitsOf _

/-- The reading of a finite double, and the range of its parts. -/
theorem exists_reading {x : Float} (h : x.isFinite = true) :
    ∃ negative m e, Reading.ofFloat x = .finite negative m e ∧
      (m = 0 ∧ e = 0 ∨ 0 < m ∧ m < 2 ^ 53 ∧ -1074 ≤ e ∧ e ≤ 971) := by
  unfold Reading.ofFloat
  rcases finite_form h with ⟨s, hx⟩ | ⟨s, m, e, hpos, hx, hlt, hleast, hgreatest, -⟩
  · rw [hx]
    exact ⟨_, 0, 0, rfl, .inl ⟨rfl, rfl⟩⟩
  · rw [hx]
    exact ⟨_, m, e, rfl, .inr ⟨hpos, hlt, hleast, hgreatest⟩⟩

/-- A finite double is displayed as a numeral. -/
theorem exists_numeral_displayChars {x : Float} (h : x.isFinite = true) :
    ∃ q, Numeral (displayChars x) q := by
  obtain ⟨negative, m, e, hreading, -⟩ := exists_reading h
  unfold displayChars
  rw [hreading]
  exact exists_numeral_positional negative (digits_shortestDigits _ _ _) _

/-! ### A stated number of places -/

/-- A power with any exponent is a quotient of two powers, one of which is one. -/
theorem zpow_eq_div (b : ℚ) (n : Int) : b ^ n = b ^ n.toNat / b ^ (-n).toNat := by
  rcases Int.le_total 0 n with hn | hn
  · rw [Int.toNat_eq_zero.2 (by omega : -n ≤ 0), pow_zero, div_one, ← zpow_natCast, Int.toNat_of_nonneg hn]
  · rw [Int.toNat_eq_zero.2 hn, pow_zero, ← zpow_natCast, Int.toNat_of_nonneg (by omega), zpow_neg, one_div,
      inv_inv]

/-- The number of a double, from the fraction that it is read as. -/
theorem toRat_of_reading {x : Float} {negative : Bool} {m : Nat} {e : Int}
    (h : Reading.ofFloat x = .finite negative m e) :
    toRat x = signFactor negative * ((fraction m e).1 / (fraction m e).2) := by
  have hfraction : (m : ℚ) * 2 ^ e = (fraction m e).1 / (fraction m e).2 := by
    unfold fraction
    dsimp only [Nat.pow_eq]
    push_cast
    rw [zpow_eq_div 2 e, mul_div_assoc]
  rw [toRat, h, ← hfraction]
  rfl

theorem fraction_pos (m : Nat) (e : Int) : 0 < (fraction m e).2 := Nat.two_pow_pos _

/-- A count of units in the last place, written out. -/
theorem numeral_scaled (negative : Bool) (scaled places : Nat) :
    Numeral (sign negative ++ digitsOf (scaled / 10 ^ places) ++
      if places = 0 then []
      else '.' :: (List.replicate (places - (digitsOf (scaled % 10 ^ places)).length) '0' ++
        digitsOf (scaled % 10 ^ places)))
      (signFactor negative * (scaled / 10 ^ places)) := by
  have hwhole : ∀ n, Nat.ofDigitChars 10 (digitsOf n) 0 = n := fun n => Nat.ofDigitChars_ten_toDigits
  by_cases hplaces : places = 0
  · have h := Numeral.whole negative (digits_digitsOf scaled)
    rw [hwhole] at h
    simpa [hplaces] using h
  · rw [if_neg hplaces]
    have hlength : (digitsOf (scaled % 10 ^ places)).length ≤ places :=
      (Nat.length_toDigits_le_iff (by decide) (by omega)).2 (Nat.mod_lt _ (by positivity))
    have h := Numeral.point negative (digits_digitsOf (scaled / 10 ^ places))
      (replicate_append_digits (places - (digitsOf (scaled % 10 ^ places)).length)
        (digits_digitsOf (scaled % 10 ^ places)))
    have hvalue : Nat.ofDigitChars 10 (digitsOf (scaled / 10 ^ places) ++
        (List.replicate (places - (digitsOf (scaled % 10 ^ places)).length) '0' ++
          digitsOf (scaled % 10 ^ places))) 0 = scaled := by
      rw [Nat.ofDigitChars_append, hwhole, Nat.ofDigitChars_append, Nat.ofDigitChars_replicate_zero,
        Nat.ofDigitChars_eq_ofDigitChars_zero, hwhole, ← Nat.mul_assoc, ← Nat.pow_add,
        Nat.add_sub_cancel' hlength]
      exact Nat.div_add_mod scaled (10 ^ places)
    rw [hvalue, List.length_append, List.length_replicate, Nat.sub_add_cancel hlength] at h
    rw [List.append_assoc]
    exact h

/-- A number with a stated number of places spells its exact magnitude in units of the last place, rounded
to the nearest count. -/
theorem numeral_fixedChars {x : Float} {negative : Bool} {m : Nat} {e : Int}
    (h : Reading.ofFloat x = .finite negative m e) (places : Nat) :
    Numeral (fixedChars x places) (signFactor negative *
      (roundDiv ((fraction m e).1 * 10 ^ places) (fraction m e).2 .toEven / 10 ^ places)) := by
  unfold fixedChars
  rw [h]
  exact numeral_scaled negative _ places

/-! ## Scaling and rounding -/

theorem toRat_one : toRat 1 = 1 := by
  have h : Reading.ofFloat 1 = .finite false (2 ^ 52) (-52) := rfl
  rw [toRat, h]
  norm_num

theorem toRat_thousand : toRat 1000 = 1000 := by
  have h : Reading.ofFloat 1000 = .finite false (1000 * 2 ^ 43) (-43) := rfl
  rw [toRat, h]
  norm_num

theorem toRat_million : toRat 1e6 = 1000000 := by
  have h : Reading.ofFloat 1e6 = .finite false (1000000 * 2 ^ 33) (-33) := rfl
  rw [toRat, h]
  norm_num

theorem powTen_zero : powTen (placesOfUInt32 0) = 1 := by decide

theorem powTen_three : powTen (placesOfUInt32 3) = 1000 := by decide +kernel

theorem ofNat_eq {n : Nat} (h : n < 2 ^ 53) : Float.ofNat n = n.toUInt64.toFloat * 1 := by
  change Float.ofScientific n false 0 = _
  unfold Float.ofScientific
  rw [dif_pos ⟨h, by decide⟩]
  rfl

theorem isFinite_mul_one {x : Float} (h : x.isFinite = true) : (x * 1).isFinite = true := by
  rw [isFinite_mul_iff h (by decide), toRat_one, abs_one, mul_one]
  exact abs_toRat_lt h

/-- Rounding to an integer keeps a double finite. -/
theorem isFinite_roundHalfAway {x : Float} (h : x.isFinite = true) : (roundHalfAway x).isFinite = true := by
  unfold roundHalfAway
  split
  · rename_i negative m e hreading
    rw [isFinite_signed]
    have hm : m < 2 ^ 53 := by
      unfold Reading.ofFloat at hreading
      rcases finite_form h with ⟨s, hx⟩ | ⟨s, m', e', hpos, hx, hlt, -⟩
      · rw [hx] at hreading
        cases hreading
      · rw [hx] at hreading
        cases hreading
        exact hlt
    -- halved at least once, the significand has room for a carry
    have hsmall : roundDiv m (Nat.pow 2 (e + 1)) .awayFromZero < 2 ^ 53 := by
      have hup := (roundDiv_bounds m (Nat.pow 2 (e + 1)) .awayFromZero).2
      have hhalf : m / Nat.pow 2 (e + 1) ≤ m / 2 := Nat.div_le_div_left (Nat.le_self_pow (by omega) 2) (by decide)
      omega
    rw [ofNat_eq hsmall]
    exact isFinite_mul_one (isFinite_toFloat _)
  · exact h

/-- Rounding to no places keeps a double finite: there is nothing to scale. -/
theorem isFinite_toPlaces_zero {x : Float} (h : x.isFinite = true) : (toPlaces x 0).isFinite = true := by
  unfold toPlaces
  dsimp only
  rw [powTen_zero]
  refine isFinite_div (isFinite_roundHalfAway (isFinite_mul_one h)) (by decide) ?_
  rw [toRat_one, abs_one]

/-- Scaled by a thousand, a double is finite or packed into an infinity. -/
theorem mul_thousand_cases {x : Float} (h : x.isFinite = true) :
    |toRat x| * 1000 < overflow ∧ (x * 1000).isFinite = true ∨
      overflow ≤ |toRat x| * 1000 ∧ ∃ sign, x * 1000 = .ofModel (.pack (.infinity sign)) := by
  have habs : |toRat 1000| = 1000 := by rw [toRat_thousand]; norm_num
  obtain ⟨sign, hrounds⟩ := exists_rounds_mul h (by decide : (1000 : Float).isFinite = true)
  rw [habs] at hrounds
  rcases hrounds.cases with ⟨hlt, -⟩ | ⟨hle, hpack⟩
  · refine .inl ⟨hlt, ?_⟩
    rw [isFinite_mul_iff h (by decide), habs]
    exact hlt
  · exact .inr ⟨hle, sign, by rw [mul_eq, hpack]⟩

/-- Rounded to three places, a double is finite or packed into an infinity, as its thousandfold is. -/
theorem toPlaces_three_cases {x : Float} (h : x.isFinite = true) :
    |toRat x| * 1000 < overflow ∧ (toPlaces x 3).isFinite = true ∨
      overflow ≤ |toRat x| * 1000 ∧ ∃ sign, toPlaces x 3 = .ofModel (.pack (.infinity sign)) := by
  unfold toPlaces
  dsimp only
  rw [powTen_three]
  rcases mul_thousand_cases h with ⟨hlt, hfinite⟩ | ⟨hle, sign, hinfinite⟩
  · refine .inl ⟨hlt, isFinite_div (isFinite_roundHalfAway hfinite) (by decide) ?_⟩
    rw [toRat_thousand]
    norm_num
  · refine .inr ⟨hle, sign, ?_⟩
    rw [hinfinite]
    cases sign <;> decide

/-- Dividing by a million leaves enough room to multiply by a thousand. -/
theorem isFinite_toPlaces_millions {x : Float} (h : x.isFinite = true) :
    (toPlaces (x / 1e6) 3).isFinite = true := by
  have hmillion : |toRat 1e6| = 1000000 := by rw [toRat_million]; norm_num
  have hfinite : (x / 1e6).isFinite = true := isFinite_div h (by decide) (by rw [hmillion]; norm_num)
  obtain ⟨sign, hrounds⟩ := exists_rounds_div h (by decide : (1e6 : Float).isFinite = true)
    (by rw [toRat_million]; norm_num)
  rw [hmillion] at hrounds
  have hquotient : |toRat x| / 1000000 < overflow := by
    rw [← isFinite_pack_iff hrounds]
    exact hfinite
  -- the rounded quotient is off by less than the quotient itself, or by next to nothing
  have hbound := abs_toRat_pack_le hrounds hquotient
  rw [← div_eq] at hbound
  have hroom : |toRat (x / 1e6)| * 1000 < overflow := by
    have hsmall : (2 : ℚ) ^ (-1075 : Int) ≤ 1 := zpow_le_one_of_nonpos₀ (by norm_num) (by decide)
    have hmax : max (|toRat x| / 1000000 / 2 ^ 53) ((2 : ℚ) ^ (-1075 : Int)) ≤ |toRat x| / 1000000 + 1 := by
      have hnonneg : 0 ≤ |toRat x| / 1000000 := by positivity
      refine max_le ?_ (by linarith)
      exact (div_le_self hnonneg (by norm_num)).trans (by linarith)
    have hgreat : ((2000 : Nat) : ℚ) < overflow := natCast_lt_overflow (by decide)
    have hx := abs_toRat_lt h
    push_cast at hgreat
    linarith
  rcases toPlaces_three_cases hfinite with ⟨-, hplaces⟩ | ⟨hle, -⟩
  · exact hplaces
  · exact absurd hroom hle.not_gt

end BenchScope.Decimal

namespace BenchScope

open Decimal

/-! ## What cells and tooltips show -/

/-- A text is a numeral followed by one of the endings. -/
def ShowsNumeral (endings : List String) (text : String) : Prop :=
  ∃ numeral q, ∃ ending ∈ endings, Numeral numeral q ∧ text.toList = numeral ++ ending.toList

/-- What is displayed for a finite double is a numeral. -/
theorem Units.exists_numeral_displayNumber {x : Float} (h : x.isFinite = true) :
    ∃ q, Numeral (Units.displayNumber x).toList q := by
  unfold Units.displayNumber
  split
  · exact ⟨_, .whole false digits_zero⟩
  · rw [Decimal.display, String.toList_ofList]
    exact exists_numeral_displayChars h

/-- With a text behind it, it is a numeral with this ending. -/
theorem Units.showsNumeral_displayNumber {x : Float} (h : x.isFinite = true) (ending : String) :
    ShowsNumeral [ending] (Units.displayNumber x ++ ending) := by
  obtain ⟨q, hq⟩ := Units.exists_numeral_displayNumber h
  exact ⟨_, q, ending, List.mem_singleton_self ending, hq, String.toList_append⟩

theorem Units.Base.isFinite_divisor (base : Base) : base.divisor.isFinite = true := by
  cases base <;> decide

/-- The base as a number. -/
def Units.Base.factor : Base → Nat
  | .decimal => 1000
  | .binary => 1024

/-- What a size is divided by to climb one unit, as a rational. -/
theorem Units.Base.toRat_divisor (base : Base) : toRat base.divisor = base.factor := by
  cases base with
  | decimal => exact toRat_thousand
  | binary =>
    have h : Reading.ofFloat 1024 = .finite false (2 ^ 52) (-42) := rfl
    change toRat 1024 = (1024 : Nat)
    rw [toRat, h]
    norm_num

/-- Climbing one unit keeps a size finite. -/
theorem Units.Base.isFinite_div_divisor (base : Base) {x : Float} (h : x.isFinite = true) :
    (x / base.divisor).isFinite = true := by
  refine isFinite_div h base.isFinite_divisor ?_
  rw [base.toRat_divisor]
  cases base <;> norm_num [factor]

/-- Climbing from unit to unit keeps a quantity finite. -/
theorem Units.isFinite_climb (base : Base) {value : Float} (h : value.isFinite = true) (unit : String)
    (larger : List String) : (climb base.divisor value unit larger).1.isFinite = true := by
  induction larger generalizing value unit with
  | nil => exact h
  | cons next larger ih =>
    unfold climb
    split
    · exact ih (base.isFinite_div_divisor h) next
    · exact h

/-- A finite size is a numeral with a unit behind it. -/
theorem Units.showsNumeral_humanReadable {size : Float} (h : size.isFinite = true) (base : Base)
    (places : Nat) : ShowsNumeral (base.least :: base.larger) (humanReadable size base places) := by
  have hfinite := Units.isFinite_climb base (base.isFinite_div_divisor h) base.least base.larger
  obtain ⟨negative, m, e, hreading, -⟩ := exists_reading hfinite
  refine ⟨_, _, _, Units.climb_unit base.divisor (size / base.divisor) base.least base.larger,
    numeral_fixedChars hreading places, ?_⟩
  unfold humanReadable inUnits
  dsimp only
  rw [String.toList_append, Decimal.fixed, String.toList_ofList]

/-- A numeral begins with a digit behind its sign. -/
theorem exists_digit_of_showsNumeral {endings : List String} {text : String}
    (h : ShowsNumeral endings text) :
    ∃ negative c rest, c.isDigit = true ∧ text.toList = sign negative ++ c :: rest := by
  obtain ⟨numeral, q, ending, -, hnumeral, htext⟩ := h
  cases hnumeral with
  | @whole negative digits hdigits =>
    obtain ⟨c, rest, rfl⟩ := List.exists_cons_of_ne_nil hdigits.1
    exact ⟨negative, c, rest ++ ending.toList, hdigits.2 c List.mem_cons_self, by simp [htext]⟩
  | @point negative digits part hdigits =>
    obtain ⟨c, rest, rfl⟩ := List.exists_cons_of_ne_nil hdigits.1
    exact ⟨negative, c, rest ++ '.' :: (part ++ ending.toList), hdigits.2 c List.mem_cons_self, by simp [htext]⟩

/-- What is shown for an infinity is no numeral, whatever stands behind it. -/
theorem not_showsNumeral_unusual {endings : List String} {text : String} {negative : Bool}
    {more : List Char} (h : text.toList = unusual negative ++ more) : ¬ ShowsNumeral endings text := by
  intro hshows
  obtain ⟨negative', c, rest, hc, htext⟩ := exists_digit_of_showsNumeral hshows
  rw [htext] at h
  have hminus : ('-' : Char).isDigit = false := by decide
  have hletter : ('i' : Char).isDigit = false := by decide
  cases negative <;> cases negative' <;> simp [sign, unusual] at h
  · rw [h.1, hletter] at hc
    cases hc
  · rw [h.1, hminus] at hc
    cases hc
  · rw [h.1, hletter] at hc
    cases hc

/-- An infinity is displayed with its sign and letters. -/
theorem Units.displayNumber_infinity (sign : Float.Model.UnpackedFloat.Sign) :
    Units.displayNumber (.ofModel (.pack (.infinity sign))) = String.ofList (unusual (isNegative sign)) := by
  cases sign <;> decide

namespace Report

/-- What may stand behind the numeral that a renderer shows. -/
def Renderer.endings : Renderer → List String
  | .human => Units.Base.decimal.least :: Units.Base.decimal.larger
  | _ => [""]

/-- A renderer that has a finite number shows it, and no placeholder. -/
theorem Renderer.number_of_isFinite (renderer : Renderer) {x : Float} (h : x.isFinite = true) :
    renderer.number (some x) = renderer.finite x := if_pos h

theorem timesMin_of_isFinite {x : Float} (h : x.isFinite = true) :
    timesMin x = Units.displayNumber (toPlaces x 3) ++ "x min" := if_pos h

/-- Every renderer but the one with three places shows a finite number as a numeral. -/
theorem Renderer.showsNumeral {renderer : Renderer} (hrenderer : renderer ≠ .fixed) {x : Float}
    (h : x.isFinite = true) : ShowsNumeral renderer.endings (renderer.number (some x)) := by
  have hdisplay : ∀ y : Float, y.isFinite = true → ShowsNumeral [""] (Units.displayNumber y) := by
    intro y hy
    have hshows := Units.showsNumeral_displayNumber hy ""
    rwa [String.append_empty] at hshows
  rw [renderer.number_of_isFinite h]
  cases renderer with
  | int => exact hdisplay _ (isFinite_toPlaces_zero h)
  | megas => exact hdisplay _ (isFinite_toPlaces_millions h)
  | fixed => exact absurd rfl hrenderer
  | human => exact Units.showsNumeral_humanReadable h .decimal 3
  | escaped =>
    have hplain := (Units.numberText_displayNumber x).plain.escapeChars_eq
    have heq : Markup.escape (Units.displayNumber x) = Units.displayNumber x := by
      rw [Markup.escape, hplain, String.ofList_toList]
    change ShowsNumeral [""] (Markup.escape (Units.displayNumber x))
    rw [heq]
    exact hdisplay x h

/-- With three places a finite number is a numeral just when a thousand times the number is below the midpoint
behind the greatest double. -/
theorem showsNumeral_threePlaces_iff {x : Float} (h : x.isFinite = true) (ending : String) :
    ShowsNumeral [ending] (Units.displayNumber (toPlaces x 3) ++ ending) ↔ |toRat x| * 1000 < overflow := by
  rcases toPlaces_three_cases h with ⟨hlt, hfinite⟩ | ⟨hle, sign, hinfinite⟩
  · exact iff_of_true (Units.showsNumeral_displayNumber hfinite ending) hlt
  · refine iff_of_false ?_ hle.not_gt
    rw [hinfinite, Units.displayNumber_infinity]
    have htext : (String.ofList (unusual (isNegative sign)) ++ ending).toList =
        unusual (isNegative sign) ++ ending.toList := by
      rw [String.toList_append, String.toList_ofList]
    exact not_showsNumeral_unusual htext

/-- Every finite number is shown as a numeral, in a cell by any renderer and in a tooltip as a multiple of the
least value, unless it has three places and a thousand times the number is too great for a double. It is then
shown as an infinity. -/
theorem finite_shows_numeral_iff {x : Float} (hx : x.isFinite = true) :
    (∀ renderer : Renderer, ShowsNumeral renderer.endings (renderer.number (some x)) ↔
      (renderer = .fixed → |toRat x| * 1000 < overflow)) ∧
    (ShowsNumeral ["x min"] (timesMin x) ↔ |toRat x| * 1000 < overflow) ∧
    (overflow ≤ |toRat x| * 1000 →
      ∃ infinity ∈ ["inf", "-inf"], Renderer.fixed.number (some x) = infinity ∧
        timesMin x = infinity ++ "x min") := by
  have hfixed : Renderer.fixed.number (some x) = Units.displayNumber (toPlaces x 3) :=
    Renderer.fixed.number_of_isFinite hx
  refine ⟨fun renderer => ?_, ?_, fun hle => ?_⟩
  · by_cases hrenderer : renderer = .fixed
    · have hiff := showsNumeral_threePlaces_iff hx ""
      rw [String.append_empty] at hiff
      rw [hrenderer, hfixed]
      exact hiff.trans ⟨fun hlt _ => hlt, fun himp => himp rfl⟩
    · exact iff_of_true (Renderer.showsNumeral hrenderer hx) fun heq => absurd heq hrenderer
  · rw [timesMin_of_isFinite hx]
    exact showsNumeral_threePlaces_iff hx "x min"
  · rcases toPlaces_three_cases hx with ⟨hlt, -⟩ | ⟨-, sign, hinfinite⟩
    · exact absurd hlt hle.not_gt
    · rw [hfixed, timesMin_of_isFinite hx, hinfinite, Units.displayNumber_infinity]
      refine ⟨_, ?_, rfl, rfl⟩
      cases sign <;> decide

/-- A thousand times this number is too great for a double. -/
theorem overflow_le_thousandfold : overflow ≤ |toRat 1e306| * 1000 := by
  have h : Reading.ofFloat 1e306 = .finite false 6413338752028713 964 := by decide +kernel
  have hsplit : (2 : ℚ) ^ (970 : Int) = 2 ^ (964 : Int) * 64 := by
    rw [show (970 : Int) = 964 + 6 from rfl, zpow_add₀ (by norm_num : (2 : ℚ) ≠ 0) 964 6]
    norm_num
  have hpos : 0 < (2 : ℚ) ^ (964 : Int) := by positivity
  have hvalue : toRat 1e306 = 6413338752028713 * 2 ^ (964 : Int) := by
    rw [toRat, h]
    exact one_mul _
  rw [hvalue, overflow, hsplit, abs_of_nonneg (by positivity)]
  generalize (2 : ℚ) ^ (964 : Int) = step at hpos ⊢
  linarith

/-- At a great number one renderer shows a numeral and another one an infinity. -/
theorem finite_shows_numeral_iff_great :
    (1e306 : Float).isFinite = true ∧ overflow ≤ |toRat 1e306| * 1000 ∧
      ShowsNumeral Renderer.human.endings (Renderer.human.number (some 1e306)) ∧
      ¬ ShowsNumeral Renderer.fixed.endings (Renderer.fixed.number (some 1e306)) ∧
      ¬ ShowsNumeral ["x min"] (timesMin 1e306) := by
  have hfinite : (1e306 : Float).isFinite = true := by decide +kernel
  obtain ⟨hcells, htooltip, -⟩ := finite_shows_numeral_iff hfinite
  refine ⟨hfinite, overflow_le_thousandfold, (hcells .human).2 nofun, ?_, ?_⟩
  · rw [hcells .fixed]
    exact fun h => (h rfl).not_ge overflow_le_thousandfold
  · rw [htooltip]
    exact overflow_le_thousandfold.not_gt

/-- A finite number is shown as an infinity, in a cell and in a tooltip. -/
theorem finite_shown_infinite :
    (1e306 : Float).isFinite = true ∧ Renderer.fixed.number (some 1e306) = "inf" ∧
      timesMin 1e306 = "infx min" ∧ ¬ ShowsNumeral Renderer.fixed.endings "inf" ∧
      ¬ ShowsNumeral ["x min"] "infx min" := by
  refine ⟨by decide +kernel, by decide +kernel, by decide +kernel, ?_, ?_⟩
  · have htext : "inf".toList = unusual false ++ [] := by decide
    exact not_showsNumeral_unusual htext
  · have htext : "infx min".toList = unusual false ++ "x min".toList := by decide
    exact not_showsNumeral_unusual htext

end Report

end BenchScope
