import BenchScope.Json.Value
import BenchScope.Markup.Escape

/-!
# Benchmark results

A results document is a list of measured cases. Each has a name, five metrics that may be absent, and
free fields that are kept as they are. Building results numbers the records by position and decodes
the character references of their names, once.
-/

namespace BenchScope

/-- The numeric columns of a record. -/
inductive Metric where
  | iterations
  | realTime
  | cpuTime
  | bytesPerSecond
  | itemsPerSecond
  deriving DecidableEq, Repr

namespace Metric

/-- Every metric, in record order. -/
def all : List Metric := [.iterations, .realTime, .cpuTime, .bytesPerSecond, .itemsPerSecond]

/-- The field name in documents. -/
def column : Metric → String
  | .iterations => "iterations"
  | .realTime => "real_time"
  | .cpuTime => "cpu_time"
  | .bytesPerSecond => "bytes_per_second"
  | .itemsPerSecond => "items_per_second"

/-- The name of the column that holds the ratios of the metric. -/
def normalizedColumn (m : Metric) : String := m.column ++ "_normalized"

/-- The metric with a field name. -/
def ofColumn? (column : String) : Option Metric := all.find? fun m => m.column == column

end Metric

/-- One value for each metric. -/
structure PerMetric (α : Type) where
  iterations : α
  realTime : α
  cpuTime : α
  bytesPerSecond : α
  itemsPerSecond : α

namespace PerMetric

variable {α : Type}

/-- The value of a metric. -/
def get (values : PerMetric α) : Metric → α
  | .iterations => values.iterations
  | .realTime => values.realTime
  | .cpuTime => values.cpuTime
  | .bytesPerSecond => values.bytesPerSecond
  | .itemsPerSecond => values.itemsPerSecond

/-- The values that a function gives. -/
def ofFn (f : Metric → α) : PerMetric α :=
  ⟨f .iterations, f .realTime, f .cpuTime, f .bytesPerSecond, f .itemsPerSecond⟩

/-- Replaces the value of a metric. -/
def set (values : PerMetric α) (m : Metric) (value : α) : PerMetric α :=
  ofFn fun m' => if m' = m then value else values.get m'

@[simp] theorem get_ofFn (f : Metric → α) (m : Metric) : (ofFn f).get m = f m := by
  cases m <;> rfl

end PerMetric

/-- One measured case. -/
structure Record where
  id : Nat
  name : String
  runName : String
  metrics : PerMetric (Option Float)
  extra : Entries Json

namespace Record

/-- A record with a name and no metrics. -/
def named (name : String) : Record := ⟨0, name, name, .ofFn fun _ => none, []⟩

/-- The value of a metric, if present. -/
def metric (record : Record) (m : Metric) : Option Float := record.metrics.get m

/-- A record with one metric set. -/
def withMetric (record : Record) (m : Metric) (value : Float) : Record :=
  { record with metrics := record.metrics.set m (some value) }

/-- A record in its place: numbered by position, its names decoded. -/
def placed (record : Record) (position : Nat) : Record :=
  { record with
    id := position
    name := Markup.decode record.name
    runName := Markup.decode record.runName }

/-- A record as JSON: absent metrics are left out, free fields come last. -/
def toJson (record : Record) : Json :=
  .object ([("id", Json.ofNat record.id), ("name", .string record.name),
      ("run_name", .string record.runName)] ++
    (Metric.all.filterMap fun m => (record.metric m).map fun x => (m.column, Json.ofFloat x)) ++
    record.extra)

end Record

/-- A results document: its free fields and its records, numbered by position. -/
structure Results where
  context : Entries Json
  records : List Record

namespace Results

/-- Results from free fields and records: every record is put in its place. -/
def build (context : Entries Json) (records : List Record) : Results :=
  ⟨context, records.mapIdx fun i record => record.placed i⟩

/-- Results as JSON. -/
def toJson (results : Results) : Json :=
  .object (results.context ++ [("benchmarks", .array (results.records.map Record.toJson))])

end Results

end BenchScope
