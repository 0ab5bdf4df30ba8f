import BenchScope.Report.Table

/-!
# Charts

A loaded benchmark shows one bar chart for each metric: a bar per record, as high as the record's
ratio. The tooltip of a bar is markup with all values of the record.
-/

namespace BenchScope.Report

/-- One bar: no height where the ratio is not finite. -/
structure Point where
  label : String
  height : Option Float
  tooltip : String

/-- One bar chart. -/
structure Chart where
  column : String
  title : String
  observation : String
  points : List Point

/-- A time in whole nanoseconds. -/
def nanoseconds (x : Option Float) : String :=
  Units.displayOrPlaceholder x fun x => Renderer.int.finite x ++ "ns"

/-- A multiple of the least value. -/
def timesMin (x : Float) : String :=
  Units.displayOrPlaceholder (some x) fun x => Renderer.fixed.finite x ++ "x min"

/-- The name and the absolute value of a tooltip row, with its metric. -/
def tooltipRows (record : Record) : List (String × String × Metric) :=
  let human (m : Metric) := Renderer.human.number (record.metric m)
  let nanos (m : Metric) := nanoseconds (record.metric m)
  [("B/s", human .bytesPerSecond, .bytesPerSecond),
   ("items/s", human .itemsPerSecond, .itemsPerSecond),
   ("CPU", nanos .cpuTime, .cpuTime),
   ("Clock", nanos .realTime, .realTime),
   ("Iterations", human .iterations, .iterations)]

/-- The markup of a tooltip row. -/
def tooltipRow (ratios : PerMetric Float) (row : String × String × Metric) : String :=
  "<tr><td>" ++ row.1 ++ "</td><td>" ++ row.2.1 ++ "</td><td>" ++ timesMin (ratios.get row.2.2) ++
    "</td></tr>"

/-- The markup of a tooltip: the name of the record, and a table of its values. -/
def tooltip (record : Record) (ratios : PerMetric Float) : String :=
  "<h4>" ++ Markup.escape record.name ++
    "</h4><table><tr><th></th><th>Absolute</th><th>Normalized</th></tr>" ++
    String.join ((tooltipRows record).map (tooltipRow ratios)) ++ "</table>"

/-- The metrics that have a chart, each with a title and a hint on how to read it. -/
def charted : List (Metric × String × String) :=
  [(.bytesPerSecond, "B/s", "(more is better)"),
   (.itemsPerSecond, "items/s", "(more is better)"),
   (.iterations, "Iterations", "(more is better)"),
   (.realTime, "Clock time", "(less is better)"),
   (.cpuTime, "CPU time", "(less is better)")]

/-- The bar of a record in the chart of a metric. -/
def point (m : Metric) (row : Record × PerMetric Float) : Point :=
  ⟨row.1.name, finite? (row.2.get m), tooltip row.1 row.2⟩

/-- The chart of a metric. -/
def chart (results : Normalized) (m : Metric) (title observation : String) : Chart :=
  ⟨m.normalizedColumn, title, observation, results.rows.map (point m)⟩

/-- The charts of a loaded benchmark. -/
def charts (results : Normalized) : List Chart :=
  charted.map fun (m, title, observation) => chart results m title observation

/-- A bar as view data. -/
def Point.toJson (p : Point) : Json :=
  .object [("label", .string p.label), ("y", Json.ofFloat? p.height), ("tooltip", .string p.tooltip)]

/-- A chart as view data. -/
def Chart.toJson (c : Chart) : Json :=
  .object [("column", .string c.column), ("title", .string c.title),
    ("observation", .string c.observation), ("points", .array (c.points.map Point.toJson))]

/-- A bar as data for the page's script, members in alphabetical order. -/
def Point.scriptData (p : Point) : Json :=
  .object [("label", .string p.label), ("tooltip", .string p.tooltip), ("y", Json.ofFloat? p.height)]

/-- A chart as data for the page's script, members in alphabetical order. -/
def Chart.scriptData (c : Chart) : Json :=
  .object [("column", .string c.column), ("observation", .string c.observation),
    ("points", .array (c.points.map Point.scriptData)), ("title", .string c.title)]

end BenchScope.Report
