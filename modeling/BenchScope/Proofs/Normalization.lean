import BenchScope.Proofs.DoubleQuotients
import BenchScope.Results.Normalized

/-!
# Normalization

The reference value of a column is one of the values that its records carry, and it bounds all the others:
a fold keeps the better of two values, and on numbers being better is a total order. The ratios of a column
depend on the values of that column alone, and a reference value that is not zero depends only on which
values there are, so that changing the order of the records changes the order of the ratios in the same
way.

Relative to the least value of a column, if it is positive and finite, every ratio is at least one and the
least value itself has the ratio one. A column whose least value is zero has no finite ratio.
-/

namespace BenchScope

open Decimal

namespace Aggregator

/-! ## The reference value of a column -/

/-- Whether a value bounds another: from below for the least value, from above for the greatest. -/
def Bounds : Aggregator → Float → Float → Prop
  | .min, best, x => best ≤ x
  | .max, best, x => x ≤ best

theorem bounds_refl (aggregator : Aggregator) {x : Float} (hx : x.isNaN = false) :
    aggregator.Bounds x x := by
  cases aggregator
  · exact le_iff.2 ⟨hx, hx, le_refl _⟩
  · exact le_iff.2 ⟨hx, hx, le_refl _⟩

/-- What bounds a bound bounds the value. -/
theorem Bounds.trans {aggregator : Aggregator} {x y z : Float} (hxy : aggregator.Bounds x y)
    (hyz : aggregator.Bounds y z) : aggregator.Bounds x z := by
  cases aggregator
  · obtain ⟨hx, -, hxy⟩ := le_iff.1 hxy
    obtain ⟨-, hz, hyz⟩ := le_iff.1 hyz
    exact le_iff.2 ⟨hx, hz, hxy.trans hyz⟩
  · obtain ⟨-, hx, hxy⟩ := le_iff.1 hxy
    obtain ⟨hz, -, hyz⟩ := le_iff.1 hyz
    exact le_iff.2 ⟨hz, hx, hyz.trans hxy⟩

/-- Two values that bound each other have the same rank. -/
theorem Bounds.rank_eq {aggregator : Aggregator} {x y : Float} (hxy : aggregator.Bounds x y)
    (hyx : aggregator.Bounds y x) : rank x = rank y := by
  cases aggregator
  · exact le_antisymm (le_iff.1 hxy).2.2 (le_iff.1 hyx).2.2
  · exact le_antisymm (le_iff.1 hyx).2.2 (le_iff.1 hxy).2.2

/-- The better of two values is one of them. -/
theorem pick_eq_or (aggregator : Aggregator) (a b : Float) :
    aggregator.pick a b = a ∨ aggregator.pick a b = b := by
  cases aggregator <;> unfold pick <;> dsimp only <;> split <;> simp

/-- The better of two values bounds both. -/
theorem pick_bounds (aggregator : Aggregator) {a b : Float} (ha : a.isNaN = false) (hb : b.isNaN = false) :
    aggregator.Bounds (aggregator.pick a b) a ∧ aggregator.Bounds (aggregator.pick a b) b := by
  cases aggregator
  · by_cases h : b < a
    · rw [pick, if_pos h]
      exact ⟨le_iff.2 ⟨hb, ha, (lt_iff.1 h).2.2.le⟩, bounds_refl .min hb⟩
    · rw [pick, if_neg h]
      rw [lt_iff, not_and, not_and, not_lt] at h
      exact ⟨bounds_refl .min ha, le_iff.2 ⟨ha, hb, h hb ha⟩⟩
  · by_cases h : a < b
    · rw [pick, if_pos h]
      exact ⟨le_iff.2 ⟨ha, hb, (lt_iff.1 h).2.2.le⟩, bounds_refl .max hb⟩
    · rw [pick, if_neg h]
      rw [lt_iff, not_and, not_and, not_lt] at h
      exact ⟨bounds_refl .max ha, le_iff.2 ⟨hb, ha, h ha hb⟩⟩

/-- The best of some values is one of them. -/
theorem foldl_pick_mem (aggregator : Aggregator) (first : Float) (rest : List Float) :
    rest.foldl aggregator.pick first ∈ first :: rest := by
  induction rest generalizing first with
  | nil => exact List.mem_singleton_self first
  | cons x rest ih =>
    have hmem := ih (aggregator.pick first x)
    rw [List.foldl_cons]
    rcases aggregator.pick_eq_or first x with h | h
    · rw [h] at hmem ⊢
      rcases List.mem_cons.1 hmem with hmem | hmem
      · rw [hmem]
        exact List.mem_cons_self
      · exact List.mem_cons_of_mem _ (List.mem_cons_of_mem _ hmem)
    · rw [h] at hmem ⊢
      exact List.mem_cons_of_mem _ hmem

/-- What a fold has kept bounds everything it has seen. -/
theorem foldl_pick_bounds (aggregator : Aggregator) {first : Float} {rest : List Float}
    (h : ∀ x ∈ first :: rest, x.isNaN = false) :
    ∀ x ∈ first :: rest, aggregator.Bounds (rest.foldl aggregator.pick first) x := by
  induction rest generalizing first with
  | nil =>
    intro x hx
    rw [List.mem_singleton.1 hx]
    exact bounds_refl aggregator (h first List.mem_cons_self)
  | cons y rest ih =>
    have hfirst := h first List.mem_cons_self
    have hy := h y (List.mem_cons_of_mem _ List.mem_cons_self)
    obtain ⟨hkeep, hnew⟩ := aggregator.pick_bounds hfirst hy
    have hpicked : ∀ x ∈ aggregator.pick first y :: rest, x.isNaN = false := by
      intro x hx
      rcases List.mem_cons.1 hx with rfl | hx
      · rcases aggregator.pick_eq_or first y with hpick | hpick
        · rwa [hpick]
        · rwa [hpick]
      · exact h x (List.mem_cons_of_mem _ (List.mem_cons_of_mem _ hx))
    -- the rest of the fold bounds what was picked, and that bounds both values it was picked from
    have hbest := ih hpicked
    have hhead := hbest _ List.mem_cons_self
    intro x hx
    rw [List.foldl_cons]
    rcases List.mem_cons.1 hx with rfl | hx
    · exact hhead.trans hkeep
    rcases List.mem_cons.1 hx with rfl | hx
    · exact hhead.trans hnew
    · exact hbest x (List.mem_cons_of_mem _ hx)

/-- The candidates of a column are its values that are numbers. -/
theorem mem_candidates {records : List Record} {m : Metric} {x : Float} :
    x ∈ candidates records m ↔ (∃ record ∈ records, record.metric m = some x) ∧ x.isNaN = false := by
  rw [candidates, List.mem_filter, List.mem_filterMap, Bool.not_eq_true']

theorem aggregate_eq_none {aggregator : Aggregator} {records : List Record} {m : Metric} :
    aggregator.aggregate records m = none ↔ ∀ x, x ∉ candidates records m := by
  rw [← List.eq_nil_iff_forall_not_mem]
  unfold aggregate
  cases candidates records m <;> simp

/-- A column has no reference value exactly if none of its values is a number. -/
theorem aggregate_eq_none_iff {aggregator : Aggregator} {records : List Record} {m : Metric} :
    aggregator.aggregate records m = none ↔
      ∀ record ∈ records, ∀ x, record.metric m = some x → x.isNaN = true := by
  simp only [aggregate_eq_none, mem_candidates, not_and, Bool.not_eq_false]
  constructor
  · intro h record hrecord x hx
    exact h x ⟨record, hrecord, hx⟩
  · rintro h x ⟨record, hrecord, hx⟩
    exact h record hrecord x hx

/-- The reference value of a column is a value that takes part, and it bounds all of them. -/
theorem aggregate_eq_some {aggregator : Aggregator} {records : List Record} {m : Metric} {best : Float}
    (h : aggregator.aggregate records m = some best) :
    best ∈ candidates records m ∧ ∀ x ∈ candidates records m, aggregator.Bounds best x := by
  have hnumbers : ∀ x ∈ candidates records m, x.isNaN = false := fun x hx => (mem_candidates.1 hx).2
  unfold aggregate at h
  generalize candidates records m = values at h hnumbers
  cases values with
  | nil => cases h
  | cons first rest =>
    obtain rfl := Option.some.inj h
    exact ⟨aggregator.foldl_pick_mem first rest, aggregator.foldl_pick_bounds hnumbers⟩

/-- A reference value that is not zero depends only on which values there are. -/
theorem aggregate_congr {aggregator : Aggregator} {records others : List Record} {m : Metric}
    (h : ∀ x, x ∈ candidates others m ↔ x ∈ candidates records m)
    (hzero : ∀ best, aggregator.aggregate records m = some best → rank best ≠ 0) :
    aggregator.aggregate others m = aggregator.aggregate records m := by
  cases hbest : aggregator.aggregate records m with
  | none =>
    rw [aggregate_eq_none] at hbest ⊢
    intro x hx
    exact hbest x ((h x).1 hx)
  | some best =>
    obtain ⟨hmem, hbounds⟩ := aggregate_eq_some hbest
    cases hother : aggregator.aggregate others m with
    | none => exact absurd ((h best).2 hmem) (aggregate_eq_none.1 hother best)
    | some best' =>
      -- both reference values bound each other, and a rank other than zero is that of one double
      obtain ⟨hmem', hbounds'⟩ := aggregate_eq_some hother
      have hrank : rank best = rank best' :=
        (hbounds best' ((h best').1 hmem')).rank_eq (hbounds' best ((h best).2 hmem))
      rw [eq_of_rank_eq hrank (hzero best hbest)]

/-- The reference value depends on the values of the column alone. -/
theorem aggregate_eq_of_column {aggregator : Aggregator} {records others : List Record} {m : Metric}
    (h : (others.map fun record => record.metric m) = records.map fun record => record.metric m) :
    aggregator.aggregate others m = aggregator.aggregate records m := by
  have hcandidates : ∀ records : List Record, candidates records m =
      ((records.map fun record => record.metric m).filterMap id).filter fun x => !x.isNaN := by
    intro records
    rw [candidates, List.filterMap_map]
    rfl
  unfold aggregate
  rw [hcandidates others, hcandidates records, h]

/-- Records in another order have the same values. -/
theorem mem_candidates_of_equiv {records others : List Record} {m : Metric}
    (place : Fin others.length ≃ Fin records.length)
    (h : ∀ i, (others.get i).metric m = (records.get (place i)).metric m) (x : Float) :
    x ∈ candidates others m ↔ x ∈ candidates records m := by
  rw [mem_candidates, mem_candidates]
  refine and_congr_left fun _ => ⟨?_, ?_⟩
  · rintro ⟨record, hrecord, hx⟩
    obtain ⟨i, rfl⟩ := List.mem_iff_get.1 hrecord
    exact ⟨records.get (place i), List.get_mem _ _, (h i).symm.trans hx⟩
  · rintro ⟨record, hrecord, hx⟩
    obtain ⟨i, rfl⟩ := List.mem_iff_get.1 hrecord
    refine ⟨others.get (place.symm i), List.get_mem _ _, ?_⟩
    rw [h, Equiv.apply_symm_apply, hx]

end Aggregator

/-! ## Ratios -/

namespace Normalized

/-- The ratio of the record at a position, for one metric. -/
def ratio? (normalized : Normalized) (position : Nat) (m : Metric) : Option Float :=
  (normalized.ratios[position]?).map fun ratios => ratios.get m

/-- The ratios of each metric are those of its column. -/
theorem map_get_ratios (aggregator : Aggregator) (results : Results) (m : Metric) :
    (relativeTo aggregator results).ratios.map (fun ratios => ratios.get m) =
      normalizeBy results.records m aggregator := by
  unfold relativeTo normalizeBy
  rw [List.map_map]
  apply List.map_congr_left
  intro record _
  simp only [Function.comp_apply, PerMetric.get_ofFn]

/-- A ratio depends on the value of its own record and on the reference value of its own column. -/
theorem ratio?_relativeTo (aggregator : Aggregator) (results : Results) (position : Nat) (m : Metric) :
    (relativeTo aggregator results).ratio? position m =
      ((results.records.map fun record => record.metric m)[position]?).map
        (ratio (aggregator.aggregate results.records m)) := by
  rw [ratio?, ← List.getElem?_map, map_get_ratios, normalizeBy, List.getElem?_map, List.getElem?_map,
    Option.map_map]
  rfl

end Normalized

/-- Without a value, or without a reference value, there is no ratio. -/
theorem isNaN_ratio {best value : Option Float} (h : value = none ∨ best = none) :
    (ratio best value).isNaN = true := by
  have hnan : notANumber.isNaN = true := by decide
  rcases h with rfl | rfl
  · cases best <;> exact hnan
  · exact hnan

/-- Normalizing keeps the results and gives each record a ratio for each metric: of its own value to the
reference value of the column, which is one of the column's values and bounds the others. The other
metrics have no part in it, and unless the reference value is zero, neither has the order of the records. -/
theorem normalization_exact (aggregator : Aggregator) (results : Results) (m : Metric) :
    let normalized := Normalized.relativeTo aggregator results
    let best := aggregator.aggregate results.records m
    normalized.results = results ∧
    normalized.ratios.length = results.records.length ∧
    (best = none ↔ ∀ record ∈ results.records, ∀ x, record.metric m = some x → x.isNaN = true) ∧
    (∀ x, best = some x → x.isNaN = false ∧ (∃ record ∈ results.records, record.metric m = some x) ∧
      ∀ record ∈ results.records, ∀ v, record.metric m = some v → v.isNaN = false →
        aggregator.Bounds x v) ∧
    (∀ i record, results.records[i]? = some record → ∃ ratio, normalized.ratio? i m = some ratio ∧
      (record.metric m = none ∨ best = none → ratio.isNaN = true) ∧
      ∀ v x, record.metric m = some v → best = some x → ratio = v / x) ∧
    (∀ other : Results,
      (other.records.map fun record => record.metric m) =
        (results.records.map fun record => record.metric m) →
      ∀ i, (Normalized.relativeTo aggregator other).ratio? i m = normalized.ratio? i m) ∧
    ∀ (other : Results) (place : Fin other.records.length ≃ Fin results.records.length),
      (∀ i, (other.records.get i).metric m = (results.records.get (place i)).metric m) →
      (∀ x, best = some x → (x == 0) = false) →
      ∀ i : Fin other.records.length,
        (Normalized.relativeTo aggregator other).ratio? i m = normalized.ratio? (place i) m := by
  intro normalized best
  refine ⟨rfl, ?_, Aggregator.aggregate_eq_none_iff, ?_, ?_, ?_, ?_⟩
  · exact List.length_map _
  · intro x hx
    obtain ⟨hmem, hbounds⟩ := Aggregator.aggregate_eq_some hx
    obtain ⟨hcarried, hnumber⟩ := Aggregator.mem_candidates.1 hmem
    refine ⟨hnumber, hcarried, ?_⟩
    intro record hrecord v hv hv'
    exact hbounds v (Aggregator.mem_candidates.2 ⟨⟨record, hrecord, hv⟩, hv'⟩)
  · intro i record hrecord
    refine ⟨ratio best (record.metric m), ?_, isNaN_ratio, ?_⟩
    · rw [Normalized.ratio?_relativeTo, List.getElem?_map, hrecord]
      rfl
    · intro v x hv hx
      rw [hv, hx]
      rfl
  · intro other hcolumn i
    rw [Normalized.ratio?_relativeTo, Normalized.ratio?_relativeTo, hcolumn,
      Aggregator.aggregate_eq_of_column hcolumn]
  -- two zeros of different sign have one rank, so only a reference value that is not zero is the same
  -- double
  · intro other place hcolumn hzero i
    have hrank : ∀ x, best = some x → rank x ≠ 0 := by
      intro x hx hrank
      have hnumber := (Aggregator.mem_candidates.1 (Aggregator.aggregate_eq_some hx).1).2
      have heq : (x == 0) = true := beq_iff.2 ⟨hnumber, isNaN_zero, hrank.trans rank_zero.symm⟩
      rw [hzero x hx] at heq
      cases heq
    have hbest := Aggregator.aggregate_congr (Aggregator.mem_candidates_of_equiv place hcolumn) hrank
    have hvalue := hcolumn i
    rw [List.get_eq_getElem, List.get_eq_getElem] at hvalue
    rw [Normalized.ratio?_relativeTo, Normalized.ratio?_relativeTo, hbest, List.getElem?_map,
      List.getElem?_map, List.getElem?_eq_getElem i.isLt, List.getElem?_eq_getElem (place i).isLt,
      Option.map_some, Option.map_some, hvalue]
    rfl

/-! ## Ratios to the least value -/

section Least

variable {records : List Record} {m : Metric} {least : Float}

/-- The least value is that of a record, and a number. -/
theorem least_mem (h : Aggregator.min.aggregate records m = some least) :
    (∃ record ∈ records, record.metric m = some least) ∧ least.isNaN = false :=
  Aggregator.mem_candidates.1 (Aggregator.aggregate_eq_some h).1

/-- No number of the column is less than the least value. -/
theorem least_le (h : Aggregator.min.aggregate records m = some least) {record : Record}
    (hrecord : record ∈ records) {v : Float} (hv : record.metric m = some v) (hnumber : v.isNaN = false) :
    least ≤ v :=
  (Aggregator.aggregate_eq_some h).2 v (Aggregator.mem_candidates.2 ⟨⟨record, hrecord, hv⟩, hnumber⟩)

/-- A positive finite least value has the ratio one, wherever it is carried. -/
theorem ratio_eq_one (hfinite : least.isFinite = true) (hpos : 0 < least) {v : Float}
    (hv : (v == least) = true) : ratio (some least) (some v) = 1 := by
  obtain ⟨-, -, hrank⟩ := beq_iff.1 hv
  obtain ⟨-, -, hpos⟩ := lt_iff.1 hpos
  rw [rank_zero] at hpos
  obtain rfl : least = v := eq_of_rank_eq hrank.symm hpos.ne'
  exact div_self hfinite hpos.ne'

/-- Every number of a column is at least once the least one, if that is positive and finite. -/
theorem one_le_ratio (h : Aggregator.min.aggregate records m = some least)
    (hfinite : least.isFinite = true) (hpos : 0 < least) {record : Record} (hrecord : record ∈ records)
    {v : Float} (hv : record.metric m = some v) (hnumber : v.isNaN = false) :
    1 ≤ ratio (some least) (some v) :=
  one_le_div hfinite hpos (least_le h hrecord hv hnumber)

/-- No ratio to zero is finite. -/
theorem isFinite_ratio_zero (hzero : (least == 0) = true) (value : Option Float) :
    (ratio (some least) value).isFinite = false := by
  obtain ⟨hnumber, -, hrank⟩ := beq_iff.1 hzero
  rw [rank_zero] at hrank
  cases value with
  | none =>
    change notANumber.isFinite = false
    decide
  | some v => exact not_isFinite_div_zero hnumber hrank v

theorem mem_normalizeBy {aggregator : Aggregator} {r : Float} :
    r ∈ normalizeBy records m aggregator ↔
      ∃ record ∈ records, ratio (aggregator.aggregate records m) (record.metric m) = r := List.mem_map

/-- The least ratio of a column is one. -/
theorem least_ratio (h : Aggregator.min.aggregate records m = some least) (hfinite : least.isFinite = true)
    (hpos : 0 < least) :
    1 ∈ normalizeBy records m .min ∧ ∀ r ∈ normalizeBy records m .min, r.isNaN = false → 1 ≤ r := by
  constructor
  · obtain ⟨⟨record, hrecord, hcarried⟩, hnumber⟩ := least_mem h
    refine mem_normalizeBy.2 ⟨record, hrecord, ?_⟩
    rw [h, hcarried]
    exact ratio_eq_one hfinite hpos (beq_iff.2 ⟨hnumber, hnumber, rfl⟩)
  · intro r hr hnumber
    obtain ⟨record, hrecord, rfl⟩ := mem_normalizeBy.1 hr
    rw [h] at hnumber ⊢
    cases hv : record.metric m with
    | none =>
      rw [isNaN_ratio (.inl hv)] at hnumber
      cases hnumber
    | some v =>
      -- a value that is not a number would make the ratio one that is not
      rw [hv] at hnumber
      refine one_le_ratio h hfinite hpos hrecord hv ?_
      by_contra hnan
      rw [ratio, isNaN_div (Bool.eq_true_of_not_eq_false hnan)] at hnumber
      cases hnumber

end Least

end BenchScope
