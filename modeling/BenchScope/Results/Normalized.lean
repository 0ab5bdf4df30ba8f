import BenchScope.Results.Basic

/-!
# Normalized results

Every metric column is divided by its least (or greatest) value over the records, so that values read
as multiples of the best one. A record without the metric has the ratio NaN, and so has every record
of a column without values.
-/

namespace BenchScope

/-- How the reference value of a column is chosen. -/
inductive Aggregator where
  | min
  | max
  deriving DecidableEq, Repr

namespace Aggregator

/-- The better of two values; of equal values the first. -/
def pick : Aggregator → Float → Float → Float
  | .min, a, b => if b < a then b else a
  | .max, a, b => if a < b then b else a

/-- The values of a metric that take part: present, and not NaN. -/
def candidates (records : List Record) (m : Metric) : List Float :=
  (records.filterMap fun record => record.metric m).filter fun x => !x.isNaN

/-- The reference value of a column; none if no value takes part. -/
def aggregate (aggregator : Aggregator) (records : List Record) (m : Metric) : Option Float :=
  match candidates records m with
  | [] => none
  | first :: rest => some (rest.foldl aggregator.pick first)

end Aggregator

/-- The double that is not a number. -/
def notANumber : Float := 0 / 0

/-- The ratio of a value to the reference value of its column. -/
def ratio (best value : Option Float) : Float :=
  match best, value with
  | some best, some value => value / best
  | _, _ => notANumber

/-- The ratios of a column, one for each record. -/
def normalizeBy (records : List Record) (m : Metric) (aggregator : Aggregator) : List Float :=
  records.map fun record => ratio (aggregator.aggregate records m) (record.metric m)

/-- Results with the ratios of each record. -/
structure Normalized where
  results : Results
  ratios : List (PerMetric Float)

namespace Normalized

/-- Normalizes every column of the results by the reference value that the aggregator picks. -/
def relativeTo (aggregator : Aggregator) (results : Results) : Normalized where
  results := results
  ratios :=
    let best : PerMetric (Option Float) := .ofFn fun m => aggregator.aggregate results.records m
    results.records.map fun record => .ofFn fun m => ratio (best.get m) (record.metric m)

/-- Normalizes every column of the results by its least value. -/
def ofResults (results : Results) : Normalized := relativeTo .min results

/-- The records with their ratios. -/
def rows (normalized : Normalized) : List (Record × PerMetric Float) :=
  normalized.results.records.zip normalized.ratios

end Normalized

/-- The ratios of a record as JSON. -/
def ratiosJson (ratios : PerMetric Float) : Json :=
  .object (Metric.all.map fun m => (m.column, Json.ofFloat (ratios.get m)))

end BenchScope
