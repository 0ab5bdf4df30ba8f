import BenchScope.Proofs.Normalization
import BenchScope.Proofs.PageSafety
import BenchScope.Proofs.ResultsDocuments

/-!
# What a loaded benchmark shows

The records of a loaded benchmark are shown seven times, in two tables and in five charts, and always in
their order. Row `i` of each table and bar `i` of each chart are about record `i`: the cells show what
their columns say, a number is a sort key if and only if it is finite, and where there is none there is
the placeholder; bars are as high as the ratios they stand for; names are those of the document with
their references replaced once.

The ratios of a column to its least value are at least one, and one is reached, if that value is positive
and finite. If it is zero, the column shows placeholders only and its chart has no bars.
-/

namespace BenchScope.Report

open Decimal

/-! ## Cells -/

/-- A number that is kept if finite is the number itself. -/
theorem finite?_eq_some {x y : Float} : finite? x = some y ↔ x = y ∧ y.isFinite = true := by
  unfold finite?
  by_cases hx : x.isFinite = true
  · rw [if_pos hx, Option.some_inj]
    exact ⟨fun h => ⟨h, h ▸ hx⟩, And.left⟩
  · rw [if_neg hx]
    refine ⟨nofun, ?_⟩
    rintro ⟨rfl, hy⟩
    exact absurd hy hx

/-- A cell for a number that may be absent: it shows what the renderer makes of the number, it is sorted by
the number if that is finite, and it shows the placeholder if it is not sorted. -/
structure ShowsNumber (renderer : Renderer) (value : Option Float) (cell : Cell) : Prop where
  display : cell.display = renderer.number value
  sort_iff : ∀ x, cell.sort = some x ↔ value = some x ∧ x.isFinite = true
  placeholder_iff : cell.display = Units.placeholder ↔ cell.sort = none

/-- No number text is the placeholder. -/
theorem finite_ne_placeholder (renderer : Renderer) (x : Float) : renderer.finite x ≠ Units.placeholder := by
  intro heq
  have hdash : '—' ∉ (renderer.finite x).toList := (renderer.numberText_finite x).not_mem (by decide)
  rw [heq] at hdash
  exact hdash (by decide)

/-- A cell made of a number and a renderer shows the number. -/
theorem showsNumber (renderer : Renderer) (value : Option Float) :
    ShowsNumber renderer value ⟨renderer.number value, value.bind finite?⟩ := by
  refine ⟨rfl, ?_, ?_⟩
  · intro x
    rw [Option.bind_eq_some_iff]
    constructor
    · rintro ⟨y, hy, hx⟩
      obtain ⟨rfl, hfinite⟩ := finite?_eq_some.1 hx
      exact ⟨hy, hfinite⟩
    · rintro ⟨hx, hfinite⟩
      exact ⟨x, hx, finite?_eq_some.2 ⟨rfl, hfinite⟩⟩
  · dsimp only
    obtain ⟨x, hvalue, hfinite, hnumber⟩ | ⟨hinfinite, hnumber⟩ := renderer.number_cases value
    · rw [hnumber, hvalue, Option.bind_some, finite?, if_pos hfinite]
      exact iff_of_false (finite_ne_placeholder renderer x) nofun
    · -- without a finite number there is neither a text for it nor a sort key
      refine iff_of_true hnumber ?_
      cases value with
      | none => rfl
      | some x => rw [Option.bind_some, finite?, if_neg (by rw [hinfinite x rfl]; decide)]

/-- The cell of a number that is not finite. -/
theorem ShowsNumber.eq_placeholder {renderer : Renderer} {x : Float} {cell : Cell}
    (h : ShowsNumber renderer (some x) cell) (hx : x.isFinite = false) :
    cell = ⟨Units.placeholder, none⟩ := by
  have hsort : cell.sort = none := by
    rw [Option.eq_none_iff_forall_ne_some]
    intro y hy
    obtain ⟨hxy, hfinite⟩ := (h.sort_iff y).1 hy
    obtain rfl := Option.some.inj hxy
    rw [hx] at hfinite
    cases hfinite
  have hdisplay := h.placeholder_iff.2 hsort
  obtain ⟨display, sort⟩ := cell
  cases hsort
  cases hdisplay
  rfl

/-- Every cell but that of the name shows the number that its column is for. -/
theorem showsNumber_cell {column : Column} (h : column.source ≠ .name) (record : Record)
    (ratios : PerMetric Float) :
    ShowsNumber column.renderer (column.source.value record ratios) (cell column record ratios) := by
  have hcell : cell column record ratios = ⟨column.renderer.number (column.source.value record ratios),
      (column.source.value record ratios).bind finite?⟩ := by
    obtain ⟨title, source, renderer⟩ := column
    cases source with
    | id => rfl
    | name => exact absurd rfl h
    | absolute m => rfl
    | normalized m => rfl
  rw [hcell]
  exact showsNumber column.renderer (column.source.value record ratios)

/-! ## Records and their ratios -/

/-- Rows are about the records in their order. -/
theorem map_fst_rows {normalized : Normalized}
    (h : normalized.ratios.length = normalized.results.records.length) :
    normalized.rows.map Prod.fst = normalized.results.records := List.map_fst_zip h.ge

/-- Results with one entry of ratios for each record, numbered records, and names that are decoded from
the given ones. -/
structure Aligned (normalized : Normalized) (names : List String) : Prop where
  ratios : normalized.ratios.length = normalized.results.records.length
  ids : normalized.results.records.map Record.id = List.range names.length
  names : normalized.results.records.map Record.name = names.map Markup.decode

/-- Results that are built from records are aligned with the names of the records. -/
theorem aligned_relativeTo (aggregator : Aggregator) (context : Entries Json) (records : List Record) :
    Aligned (Normalized.relativeTo aggregator (Results.build context records))
      (records.map Record.name) := by
  refine ⟨List.length_map _, ?_, ?_⟩
  · apply List.ext_getElem?
    intro i
    by_cases hi : i < records.length
    · simp [Normalized.relativeTo, Results.build, Record.placed, hi]
    · simp [Normalized.relativeTo, Results.build, hi]
  · apply List.ext_getElem?
    intro i
    simp only [Normalized.relativeTo, Results.build, List.getElem?_map, List.getElem?_mapIdx, Option.map_map]
    rfl

namespace Aligned

variable {normalized : Normalized} {names : List String}

theorem length_records (h : Aligned normalized names) :
    normalized.results.records.length = names.length := by
  rw [← List.length_map Record.id, h.ids, List.length_range]

theorem map_rows {α : Type} (h : Aligned normalized names) (f : Record → α) :
    (normalized.rows.map fun row => f row.1) = normalized.results.records.map f := by
  rw [← map_fst_rows h.ratios, List.map_map]
  rfl

/-- The record and the ratios at a position. -/
theorem exists_row (h : Aligned normalized names) {i : Nat} (hi : i < names.length) :
    ∃ record ratios, normalized.rows[i]? = some (record, ratios) ∧
      normalized.results.records[i]? = some record ∧ normalized.ratios[i]? = some ratios ∧ record.id = i := by
  have hrecords : i < normalized.results.records.length := by rwa [h.length_records]
  have hratios : i < normalized.ratios.length := by rwa [h.ratios]
  refine ⟨normalized.results.records[i], normalized.ratios[i], ?_, List.getElem?_eq_getElem hrecords,
    List.getElem?_eq_getElem hratios, ?_⟩
  · exact List.getElem?_zip_eq_some.2
      ⟨List.getElem?_eq_getElem hrecords, List.getElem?_eq_getElem hratios⟩
  · have hid := congrArg (fun ids => ids[i]?) h.ids
    simpa [hrecords, hi] using hid

end Aligned

/-! ## Tables -/

/-- The cell of a table by its row and its column. -/
def Table.cell? (table : Table) (i j : Nat) : Option Cell :=
  (table.rows[i]?).bind fun row => row.cells[j]?

/-- The number that a column shows for the record at a position. -/
def Source.shown? (source : Source) (normalized : Normalized) (i : Nat) : Option Float :=
  match source with
  | .id => some (Float.ofNat i)
  | .name => none
  | .absolute m => (normalized.results.records[i]?).bind fun record => record.metric m
  | .normalized m => normalized.ratio? i m

/-- A cell shows what its column says about the record at a position. -/
inductive CellShows (normalized : Normalized) (i : Nat) (column : Column) (cell : Cell) : Prop where
  | name {record : Record} (h : column.source = .name)
      (hrecord : normalized.results.records[i]? = some record)
      (hcell : cell = ⟨Markup.escape record.name, none⟩)
  | number (h : column.source ≠ .name)
      (hcell : ShowsNumber column.renderer (column.source.shown? normalized i) cell)

/-- Every cell of a column is made from the record of its row. -/
theorem map_cells_table {α : Type} {layout : Layout} {j : Nat} {column : Column}
    (h : layout.columns[j]? = some column) (normalized : Normalized) (f : Option Cell → α) :
    ((layout.table normalized).rows.map fun row => f row.cells[j]?) =
      normalized.rows.map fun row => f (some (cell column row.1 row.2)) := by
  unfold Layout.table
  rw [List.map_map]
  apply List.map_congr_left
  intro row _
  simp only [Function.comp_apply, List.getElem?_map, h, Option.map_some]

/-- The cell in a row and a column is that of the record and the column. -/
theorem cell?_table {layout : Layout} {j : Nat} {column : Column} (h : layout.columns[j]? = some column)
    {normalized : Normalized} {i : Nat} {record : Record} {ratios : PerMetric Float}
    (hrow : normalized.rows[i]? = some (record, ratios)) :
    (layout.table normalized).cell? i j = some (cell column record ratios) := by
  unfold Table.cell? Layout.table
  simp only [List.getElem?_map, hrow, h, Option.map_some, Option.bind_some]

/-- The metrics of the tables, in the order of their columns. -/
def tabled : List Metric := [.bytesPerSecond, .itemsPerSecond, .realTime, .cpuTime, .iterations]

theorem mem_tabled (m : Metric) : m ∈ tabled := by
  cases m <;> decide

/-- The cell of a name is escaped text without a sort key. -/
theorem cell_name {layout : Layout} (hlayout : layout = prettyLayout ∨ layout = normalizedLayout)
    {column : Column} (hcolumn : column ∈ layout.columns) (hname : column.source = .name) (record : Record)
    (ratios : PerMetric Float) : cell column record ratios = ⟨Markup.escape record.name, none⟩ := by
  simp only [cell, hname, renderer_of_name hlayout hcolumn hname, Renderer.text]

section Layout

variable {layout : Layout} {normalized : Normalized} {names : List String}

/-- A cell shows what its column says about the record of its row. -/
theorem Aligned.cellShows (h : Aligned normalized names)
    (hlayout : layout = prettyLayout ∨ layout = normalizedLayout) {i j : Nat} {column : Column}
    (hi : i < names.length) (hcolumn : layout.columns[j]? = some column) :
    ∃ cell, (layout.table normalized).cell? i j = some cell ∧ CellShows normalized i column cell := by
  obtain ⟨record, ratios, hrow, hrecord, hratios, hid⟩ := h.exists_row hi
  refine ⟨cell column record ratios, cell?_table hcolumn hrow, ?_⟩
  by_cases hname : column.source = .name
  · exact .name hname hrecord (cell_name hlayout (List.mem_of_getElem? hcolumn) hname record ratios)
  · -- what the row was made from is what stands at its position in the results
    have hvalue : column.source.value record ratios = column.source.shown? normalized i := by
      cases column.source with
      | id => rw [Source.value, Source.shown?, hid]
      | name => rfl
      | absolute m => rw [Source.value, Source.shown?, hrecord, Option.bind_some]
      | normalized m => rw [Source.value, Source.shown?, Normalized.ratio?, hratios, Option.map_some]
    refine .number hname ?_
    rw [← hvalue]
    exact showsNumber_cell hname record ratios

/-- The column of names shows the names of the document, with their references replaced once. -/
theorem Aligned.decode_names (h : Aligned normalized names)
    (hlayout : layout = prettyLayout ∨ layout = normalizedLayout) {j : Nat} {column : Column}
    (hcolumn : layout.columns[j]? = some column)
    (hname : column.source = .name) :
    ((layout.table normalized).rows.map fun row =>
        (row.cells[j]?).map fun cell => Markup.decode cell.display) =
      names.map fun name => some (Markup.decode name) := by
  have hdecode : ∀ name, Markup.decode (Markup.escape name) = name := by
    intro name
    rw [Markup.decode, Markup.escape, String.toList_ofList, Markup.decodeChars_escapeChars,
      String.ofList_toList]
  calc ((layout.table normalized).rows.map fun row =>
        (row.cells[j]?).map fun cell => Markup.decode cell.display)
      = normalized.rows.map fun row =>
          (some (cell column row.1 row.2)).map fun cell => Markup.decode cell.display :=
        map_cells_table hcolumn normalized (Option.map fun cell => Markup.decode cell.display)
    _ = normalized.rows.map fun row => some row.1.name := by
        apply List.map_congr_left
        intro row _
        rw [Option.map_some, cell_name hlayout (List.mem_of_getElem? hcolumn) hname, hdecode]
    _ = (normalized.results.records.map Record.name).map some := by
        rw [h.map_rows fun record => some record.name, List.map_map]
        rfl
    _ = names.map fun name => some (Markup.decode name) := by
        rw [h.names, List.map_map]
        rfl

/-- The sort keys of a column of ratios are its finite ratios. -/
theorem map_sort_table {j : Nat} {column : Column} {m : Metric}
    (hcolumn : layout.columns[j]? = some column) (hsource : column.source = .normalized m)
    (normalized : Normalized) :
    ((layout.table normalized).rows.map fun row => (row.cells[j]?).bind Cell.sort) =
      normalized.rows.map fun row => finite? (row.2.get m) := by
  rw [map_cells_table hcolumn normalized fun cell => cell.bind Cell.sort]
  apply List.map_congr_left
  intro row _
  simp only [Option.bind_some, cell, hsource, Source.value]

/-- A column of ratios none of which is finite shows the placeholder everywhere. -/
theorem cells_of_infinite {j : Nat} {column : Column} {m : Metric}
    (hcolumn : layout.columns[j]? = some column) (hsource : column.source = .normalized m)
    (h : ∀ entry ∈ normalized.rows, (entry.2.get m).isFinite = false) {row : Row}
    (hrow : row ∈ (layout.table normalized).rows) : row.cells[j]? = some ⟨Units.placeholder, none⟩ := by
  obtain ⟨entry, hentry, rfl⟩ := List.mem_map.1 hrow
  have hne : column.source ≠ .name := by
    rw [hsource]
    exact nofun
  have hshows := showsNumber_cell hne entry.1 entry.2
  rw [hsource] at hshows
  rw [List.getElem?_map, hcolumn, Option.map_some]
  exact congrArg some (hshows.eq_placeholder (h entry hentry))

end Layout

/-! ## Charts -/

/-- Different metrics have different columns of ratios. -/
theorem normalizedColumn_injective {m m' : Metric} (h : m.normalizedColumn = m'.normalizedColumn) :
    m = m' := by
  revert h
  cases m <;> cases m' <;> decide

/-- Every chart is the chart of some metric. -/
theorem exists_chart {results : Normalized} {c : Chart} (h : c ∈ charts results) :
    ∃ m title observation, c = chart results m title observation := by
  obtain ⟨⟨m, title, observation⟩, -, rfl⟩ := List.mem_map.1 h
  exact ⟨m, title, observation, rfl⟩

/-- The bars of a chart are as high as the ratios of its metric, where these are finite. -/
theorem map_height_chart {results : Normalized} {c : Chart} {m : Metric} (h : c ∈ charts results)
    (hcolumn : c.column = m.normalizedColumn) :
    c.points.map Point.height = results.rows.map fun row => finite? (row.2.get m) := by
  obtain ⟨m', title, observation, rfl⟩ := exists_chart h
  obtain rfl := normalizedColumn_injective hcolumn
  rw [chart, List.map_map]
  rfl

/-- A chart of ratios none of which is finite has no bars. -/
theorem heights_of_infinite {results : Normalized} {c : Chart} {m : Metric} (hc : c ∈ charts results)
    (hcolumn : c.column = m.normalizedColumn)
    (h : ∀ entry ∈ results.rows, (entry.2.get m).isFinite = false) {point : Point}
    (hpoint : point ∈ c.points) : point.height = none := by
  have hmem : point.height ∈ c.points.map Point.height := List.mem_map_of_mem hpoint
  rw [map_height_chart hc hcolumn] at hmem
  obtain ⟨entry, hentry, heq⟩ := List.mem_map.1 hmem
  rw [← heq, finite?, h entry hentry]
  rfl

/-- Every metric has its chart. -/
theorem mem_map_column_charts (results : Normalized) (m : Metric) :
    m.normalizedColumn ∈ (charts results).map Chart.column := by
  have hcharted : m ∈ charted.map Prod.fst := by
    cases m <;> decide
  have hmap : (charts results).map Chart.column = (charted.map Prod.fst).map Metric.normalizedColumn := rfl
  rw [hmap]
  exact List.mem_map_of_mem hcharted

/-- Bars are labelled with the names of the document, with their references replaced once. -/
theorem Aligned.map_label {normalized : Normalized} {names : List String} (h : Aligned normalized names)
    {c : Chart} (hc : c ∈ charts normalized) : c.points.map Point.label = names.map Markup.decode := by
  obtain ⟨m, title, observation, rfl⟩ := exists_chart hc
  rw [chart, List.map_map, ← h.names]
  exact h.map_rows Record.name

/-! ## Panels -/

/-- The tables and the charts of a loaded benchmark show its records one by one: the records have the
given names before their references are replaced. -/
structure PanelShows (normalized : Normalized) (names : List String) (content : Loaded) : Prop where
  /-- There are two tables, of absolute values and of ratios. -/
  tables : (content.tables.map fun table => table.columns.map Column.source) =
    [.id :: .name :: tabled.map .absolute, .id :: .name :: tabled.map .normalized]
  /-- Rows are numbered by position, and each has a cell for each column. -/
  rows : ∀ table ∈ content.tables, table.rows.map Row.id = List.range names.length ∧
    ∀ row ∈ table.rows, row.cells.length = table.columns.length
  /-- Each cell shows what its column says about the record of its row. -/
  cells : ∀ table ∈ content.tables, ∀ (i j : Nat) (column : Column), i < names.length →
    table.columns[j]? = some column →
    ∃ cell, table.cell? i j = some cell ∧ CellShows normalized i column cell
  /-- There are five charts, one for each metric. -/
  charts : content.charts.map Chart.column =
    [Metric.bytesPerSecond, .itemsPerSecond, .iterations, .realTime, .cpuTime].map Metric.normalizedColumn
  /-- Bars are as high as the sort keys of the same ratios, row by row. -/
  heights : ∀ table ∈ content.tables, ∀ chart ∈ content.charts, ∀ (m : Metric) (j : Nat) (column : Column),
    table.columns[j]? = some column → column.source = .normalized m → chart.column = m.normalizedColumn →
    chart.points.map Point.height = table.rows.map fun row => (row.cells[j]?).bind Cell.sort
  /-- Bars are labelled with the decoded names. -/
  labels : ∀ chart ∈ content.charts, chart.points.map Point.label = names.map Markup.decode
  /-- The cells of names stand for the decoded names. -/
  names : ∀ table ∈ content.tables, ∀ (j : Nat) (column : Column), table.columns[j]? = some column →
    column.source = .name →
    (table.rows.map fun row => (row.cells[j]?).map fun cell => Markup.decode cell.display) =
      names.map fun name => some (Markup.decode name)

/-- The tables of a loaded benchmark are the two layouts, filled. -/
theorem exists_layout {results : Normalized} {code : Option Code} {table : Table}
    (h : table ∈ (Loaded.ofResults results code).tables) :
    ∃ layout, (layout = prettyLayout ∨ layout = normalizedLayout) ∧ table = layout.table results := by
  rcases List.mem_pair.1 h with rfl | rfl
  · exact ⟨prettyLayout, .inl rfl, rfl⟩
  · exact ⟨normalizedLayout, .inr rfl, rfl⟩

theorem Aligned.panelShows {normalized : Normalized} {names : List String} (h : Aligned normalized names)
    (code : Option Code) : PanelShows normalized names (Loaded.ofResults normalized code) where
  tables := rfl
  rows := by
    intro table htable
    obtain ⟨layout, -, rfl⟩ := exists_layout htable
    constructor
    · rw [Layout.table, List.map_map, ← h.ids]
      exact h.map_rows Record.id
    · intro row hrow
      obtain ⟨entry, -, rfl⟩ := List.mem_map.1 hrow
      exact List.length_map _
  cells := by
    intro table htable i j column hi hcolumn
    obtain ⟨layout, hlayout, rfl⟩ := exists_layout htable
    exact h.cellShows hlayout hi hcolumn
  charts := rfl
  heights := by
    intro table htable chart hchart m j column hcolumn hsource hname
    obtain ⟨layout, -, rfl⟩ := exists_layout htable
    rw [map_height_chart hchart hname, map_sort_table hcolumn hsource]
  labels := fun _ hchart => h.map_label hchart
  names := by
    intro table htable j column hcolumn hname
    obtain ⟨layout, hlayout, rfl⟩ := exists_layout htable
    exact h.decode_names hlayout hcolumn hname

end BenchScope.Report

namespace BenchScope.Results

open Json.Read Json.Grammar

/-! ## Names in documents -/

/-- The name that the text of a record gives, empty if there is none. -/
def NameIn (text : List Char) (name : String) : Prop :=
  ∃ raw found, IsObject text raw ∧ Once recordNames raw ∧ Gives raw "name" Quoted found ∧
    found.getD "" = name

/-- The names of the records of a document, in order. -/
def NamesIn (input : String) (names : List String) : Prop :=
  ∃ raw cores, IsDocument (fun core => IsObject core raw) input ∧ Once ["benchmarks"] raw ∧
    Gives raw "benchmarks" IsArray cores ∧ List.Forall₂ NameIn (cores.getD []) names

/-- A record that is read has the name that its text gives. -/
theorem nameIn_recordOfFields {text : List Char} {fields : List RecordField}
    (h : IsRecordFields text fields) : NameIn text (recordOfFields fields).name := by
  obtain ⟨⟨raw, hraw, hfields⟩, honce⟩ := h
  rw [filterMap_key? (fun _ _ _ h => h.known?_eq) hfields] at honce
  exact ⟨raw, _, hraw, honce, gives_name hfields, rfl⟩

/-- The names of the records that are read are those of the array under `benchmarks`. -/
theorem exists_names {raw : List (String × List Char)} {found : Option (List (List RecordField))}
    (h : Gives raw "benchmarks" (ArrayOf IsRecordFields) found) :
    ∃ cores, Gives raw "benchmarks" IsArray cores ∧
      List.Forall₂ NameIn (cores.getD []) (((found.getD []).map recordOfFields).map Record.name) := by
  cases found with
  | none => exact ⟨none, h, .nil⟩
  | some records =>
    obtain ⟨core, hcore, cores, harray, hforms⟩ := h
    refine ⟨some cores, ⟨core, hcore, harray⟩, ?_⟩
    rw [Option.getD_some, Option.getD_some, List.map_map, List.forall₂_map_right_iff]
    exact hforms.imp fun _ _ => nameIn_recordOfFields

/-- Results that are read from a document are built from records with the names of the document. -/
theorem exists_build_of_parse {input : String} {results : Results} (h : parse input = .ok results) :
    ∃ context records, results = build context records ∧ NamesIn input (records.map Record.name) := by
  unfold parse at h
  split at h
  · rename_i fields hread
    obtain rfl := Except.ok.inj h
    obtain ⟨before, core, after, hbefore, ⟨⟨raw, hraw, hfields⟩, honce⟩, hafter, hinput⟩ :=
      readDocument_sound hread
    rw [filterMap_key? (fun _ _ _ h => h.known?_eq) hfields] at honce
    obtain ⟨cores, hcores, hnames⟩ := exists_names (gives_records hfields)
    exact ⟨_, _, rfl, raw, cores, ⟨before, core, after, hbefore, hraw, hafter, hinput⟩, honce, hcores, hnames⟩
  · cases h

end BenchScope.Results

namespace BenchScope.Report

/-! ## Panels of results -/

/-- Of results that are built from records, or read from a document, a panel shows the records one by one
in two tables and five charts: the same names, decoded once, and the same numbers. -/
theorem panel_shows_records :
    (∀ (aggregator : Aggregator) (context : Entries Json) (records : List Record) (code : Option Code),
      let normalized := Normalized.relativeTo aggregator (Results.build context records)
      PanelShows normalized (records.map Record.name) (Loaded.ofResults normalized code)) ∧
    ∀ (input : String) (results : Results), Results.parse input = .ok results →
      ∃ names, Results.NamesIn input names ∧ ∀ (aggregator : Aggregator) (code : Option Code),
        let normalized := Normalized.relativeTo aggregator results
        PanelShows normalized names (Loaded.ofResults normalized code) := by
  constructor
  · intro aggregator context records code
    exact (aligned_relativeTo aggregator context records).panelShows code
  · intro input results h
    obtain ⟨context, records, rfl, hnames⟩ := Results.exists_build_of_parse h
    refine ⟨records.map Record.name, hnames, ?_⟩
    intro aggregator code
    exact (aligned_relativeTo aggregator context records).panelShows code

/-- A document with a name that stands for a reference, and with a column of zeros. -/
def doublyEscaped : String :=
  "\x7b\"benchmarks\":[\x7b\"name\":\"a&lt;b\",\"real_time\":0\x7d," ++
    "\x7b\"name\":\"&amp;lt;\",\"real_time\":4.5\x7d]\x7d"

theorem panel_shows_doublyEscaped : ∃ results names, Results.parse doublyEscaped = .ok results ∧
    Results.NamesIn doublyEscaped names ∧ names.map Markup.decode = ["a<b", "&lt;"] ∧
    PanelShows (Normalized.ofResults results) names
      (Loaded.ofResults (Normalized.ofResults results) none) := by
  have hread : (Results.parse doublyEscaped).toOption.map (fun results =>
      (charts (Normalized.ofResults results)).map fun c => c.points.map Point.label) =
        some (List.replicate 5 ["a<b", "&lt;"]) := by
    decide +kernel
  cases hresult : Results.parse doublyEscaped with
  | error e =>
    rw [hresult] at hread
    cases hread
  | ok results =>
    obtain ⟨names, hnames, hshows⟩ := panel_shows_records.2 doublyEscaped results hresult
    refine ⟨results, names, rfl, hnames, ?_, hshows .min none⟩
    rw [hresult] at hread
    have hlabels := (hshows .min none).labels _ List.mem_cons_self
    rw [← hlabels]
    exact congrArg (fun labels => labels.headD []) (Option.some.inj hread)

/-- The ratios of a column to its least value. If that is positive and finite, its carriers have the ratio
one and every number has at least that, so one is the least ratio. If it is zero, no ratio is finite:
the column of the table shows placeholders only, and the chart has no bars. That the least value is zero
says already that no value is negative. -/
theorem ratios_to_least (results : Results) (m : Metric) (least : Float)
    (h : Aggregator.min.aggregate results.records m = some least) :
    let normalized := Normalized.ofResults results
    let ratios := normalizeBy results.records m .min
    (normalized.ratios.map fun entry => entry.get m) = ratios ∧
    (least.isFinite = true → 0 < least →
      (∀ (i : Nat) (record : Record) (v : Float), results.records[i]? = some record →
        record.metric m = some v →
        ((v == least) = true → ratios[i]? = some 1) ∧
        (v.isNaN = false → ∃ r, ratios[i]? = some r ∧ 1 ≤ r)) ∧
      1 ∈ ratios ∧ ∀ r ∈ ratios, r.isNaN = false → 1 ≤ r) ∧
    ((least == 0) = true →
      (∀ r ∈ ratios, r.isFinite = false) ∧
      .normalized m ∈ (normalizedTable normalized).columns.map Column.source ∧
      (∀ row ∈ (normalizedTable normalized).rows, ∀ (j : Nat) (column : Column),
        (normalizedTable normalized).columns[j]? = some column → column.source = .normalized m →
        row.cells[j]? = some ⟨Units.placeholder, none⟩) ∧
      m.normalizedColumn ∈ (charts normalized).map Chart.column ∧
      ∀ chart ∈ charts normalized, chart.column = m.normalizedColumn →
        ∀ point ∈ chart.points, point.height = none) := by
  intro normalized ratios
  refine ⟨Normalized.map_get_ratios .min results m, ?_, ?_⟩
  · intro hfinite hpos
    refine ⟨?_, least_ratio h hfinite hpos⟩
    intro i record v hrecord hv
    have hratio : ratios[i]? = some (ratio (some least) (some v)) := by
      rw [← h, ← hv]
      exact (List.getElem?_map ..).trans (congrArg (Option.map _) hrecord)
    constructor
    · intro heq
      rw [hratio, ratio_eq_one hfinite hpos heq]
    · intro hnumber
      exact ⟨_, hratio, one_le_ratio h hfinite hpos (List.mem_of_getElem? hrecord) hv hnumber⟩
  · intro hzero
    have hratios : ∀ r ∈ ratios, r.isFinite = false := by
      intro r hr
      obtain ⟨record, -, rfl⟩ := mem_normalizeBy.1 hr
      rw [h]
      exact isFinite_ratio_zero hzero (record.metric m)
    -- tables and charts are made from the rows, whose ratios are those of the column
    have hrows : ∀ row ∈ normalized.rows, (row.2.get m).isFinite = false := by
      intro row hrow
      apply hratios
      rw [show ratios = _ from (Normalized.map_get_ratios .min results m).symm]
      exact List.mem_map_of_mem (List.of_mem_zip hrow).2
    refine ⟨hratios, ?_, ?_, mem_map_column_charts normalized m, ?_⟩
    · have hmetric : Source.normalized m ∈ tabled.map Source.normalized := List.mem_map_of_mem (mem_tabled m)
      exact List.mem_cons_of_mem _ (List.mem_cons_of_mem _ hmetric)
    · intro row hrow j column hcolumn hsource
      exact cells_of_infinite hcolumn hsource hrows hrow
    · intro c hc hcolumn point hpoint
      exact heights_of_infinite hc hcolumn hrows hpoint

/-- Records with a positive least clock time, a least processor time of zero, and one without times. -/
def timed : List Record :=
  [((Record.named "a").withMetric .realTime 2).withMetric .cpuTime 3,
   ((Record.named "b").withMetric .realTime 5).withMetric .cpuTime 0, Record.named "c"]

theorem ratios_to_least_timed :
    (1 ∈ normalizeBy timed .realTime .min ∧ ∃ r, (normalizeBy timed .realTime .min)[1]? = some r ∧ 1 ≤ r) ∧
    (∀ r ∈ normalizeBy timed .cpuTime .min, r.isFinite = false) ∧
    ∀ chart ∈ charts (Normalized.ofResults ⟨[], timed⟩), chart.column = Metric.cpuTime.normalizedColumn →
      ∀ point ∈ chart.points, point.height = none := by
  obtain ⟨-, hclock, -⟩ := ratios_to_least ⟨[], timed⟩ .realTime 2 (by decide)
  obtain ⟨-, -, hprocessor⟩ := ratios_to_least ⟨[], timed⟩ .cpuTime 0 (by decide)
  obtain ⟨hrecords, hone, -⟩ := hclock (by decide) (by decide)
  obtain ⟨hratios, -, -, -, hheights⟩ := hprocessor (by decide)
  exact ⟨⟨hone, (hrecords 1 _ 5 rfl rfl).2 (by decide)⟩, hratios, hheights⟩

end BenchScope.Report
