import BenchScope.Report.Cell

/-!
# Result tables

A loaded benchmark shows two tables over the same records: absolute values, and values relative to the
least of their column. Both have the same seven columns.
-/

namespace BenchScope.Report

/-- Where a column takes its values from. -/
inductive Source where
  | id
  | name
  | absolute (metric : Metric)
  | normalized (metric : Metric)
  deriving DecidableEq, Repr

namespace Source

/-- The name of the field that the column shows. -/
def dataKey : Source → String
  | .id => "id"
  | .name => "name"
  | .absolute m => m.column
  | .normalized m => m.normalizedColumn

/-- The number that the column shows for a record. -/
def value (source : Source) (record : Record) (ratios : PerMetric Float) : Option Float :=
  match source with
  | .id => some (Float.ofNat record.id)
  | .name => none
  | .absolute m => record.metric m
  | .normalized m => some (ratios.get m)

/-- Whether the column holds a metric; such columns are aligned to the right. -/
def isMetric : Source → Bool
  | .absolute _ => true
  | .normalized _ => true
  | _ => false

/-- The source as view data. -/
def toJson : Source → Json
  | .id => .object [("source", .string "id")]
  | .name => .object [("source", .string "name")]
  | .absolute m => .object [("source", .string "absolute"), ("metric", .string m.column)]
  | .normalized m => .object [("source", .string "normalized"), ("metric", .string m.column)]

end Source

/-- One column of a table. -/
structure Column where
  title : String
  source : Source
  renderer : Renderer
  deriving DecidableEq, Repr

/-- The style class of the cells of a column. -/
def Column.className? (column : Column) : Option String :=
  if column.source.isMetric then some "text-right" else none

/-- One cell: its text, safe inside markup, and the number it is sorted by. -/
structure Cell where
  display : String
  sort : Option Float

/-- One row, for one record. -/
structure Row where
  id : Nat
  cells : List Cell

/-- A table. -/
structure Table where
  suffix : String
  heading : String
  searching : Bool
  columns : List Column
  rows : List Row

/-- A number if it is finite. -/
def finite? (x : Float) : Option Float := if x.isFinite then some x else none

/-- The cell of a record in a column. A name is text and has no sort key. -/
def cell (column : Column) (record : Record) (ratios : PerMetric Float) : Cell :=
  match column.source with
  | .name => ⟨column.renderer.text record.name, none⟩
  | source =>
    let value := source.value record ratios
    ⟨column.renderer.number value, value.bind finite?⟩

/-- What tells the two tables apart: where values come from, and how they are shown. -/
structure Layout where
  suffix : String
  heading : String
  clockUnit : String
  source : Metric → Source
  times : Renderer
  counts : Renderer
  rates : Renderer

/-- Absolute values: times in whole nanoseconds, counts and rates in millions. -/
def prettyLayout : Layout where
  suffix := "_pretty"
  heading := "Results"
  clockUnit := "(ns)"
  source := .absolute
  times := .int
  counts := .megas
  rates := .megas

/-- Values relative to the least of their column, with three places. -/
def normalizedLayout : Layout where
  suffix := "_normalized"
  heading := "Normalized by column min"
  clockUnit := ""
  source := .normalized
  times := .fixed
  counts := .fixed
  rates := .fixed

/-- The columns of a layout. -/
def Layout.columns (layout : Layout) : List Column :=
  let rate := layout.rates.unitLetter
  [⟨"ID", .id, .int⟩,
   ⟨"Name", .name, .escaped⟩,
   ⟨rate ++ "B/s", layout.source .bytesPerSecond, layout.rates⟩,
   ⟨rate ++ "items/s", layout.source .itemsPerSecond, layout.rates⟩,
   ⟨"Clock" ++ layout.clockUnit, layout.source .realTime, layout.times⟩,
   ⟨"CPU" ++ layout.clockUnit, layout.source .cpuTime, layout.times⟩,
   ⟨layout.counts.unitLetter ++ "Iterations", layout.source .iterations, layout.counts⟩]

/-- A table with more rows than this offers a search box. -/
def searchThreshold : Nat := 20

/-- The table of a layout. -/
def Layout.table (layout : Layout) (results : Normalized) : Table :=
  let rows := results.rows.map fun row =>
    Row.mk row.1.id (layout.columns.map fun column => cell column row.1 row.2)
  { suffix := layout.suffix
    heading := layout.heading
    searching := searchThreshold < rows.length
    columns := layout.columns
    rows }

/-- The table of absolute values. -/
def prettyTable (results : Normalized) : Table := prettyLayout.table results

/-- The table of relative values. -/
def normalizedTable (results : Normalized) : Table := normalizedLayout.table results

/-- A column as view data. -/
def Column.toJson (column : Column) : Json :=
  .object ([("title", .string column.title), ("data_key", .string column.source.dataKey),
      ("kind", .string (if column.source = .name then "text" else "num"))] ++
    (column.className?.map fun c => ("class_name", Json.string c)).toList ++
    [("renderer", .string column.renderer.name)])

/-- A cell as view data. -/
def Cell.toJson (cell : Cell) : Json :=
  .object (("display", .string cell.display) ::
    (cell.sort.map fun x => ("sort", Json.ofFloat x)).toList)

/-- A row as view data. -/
def Row.toJson (row : Row) : Json :=
  .object [("id", Json.ofNat row.id), ("cells", .array (row.cells.map Cell.toJson))]

/-- A table as view data. -/
def Table.toJson (table : Table) : Json :=
  .object [("suffix", .string table.suffix), ("heading", .string table.heading),
    ("searching", .bool table.searching), ("columns", .array (table.columns.map Column.toJson)),
    ("rows", .array (table.rows.map Row.toJson))]

end BenchScope.Report
