import BenchScope.Proofs.Markup
import BenchScope.Report.Html
import BenchScope.Session.View

/-!
# Pages that data cannot break

The document of a page is a list of pieces. Three facts hold for the page of any session, whatever the
suite, the documents, the messages, the query and the place of the widget files are:

* the skeleton of the document, that is its fixed markup and the places between, is that of the page
  with all its texts removed;
* what stands in the places is inert, and data for a script cannot end its element;
* pages of the same shape have the same angle brackets in the same order.
-/

namespace BenchScope.Report

/-! ## Cells -/

/-- The cells of the tables of a panel. -/
def Body.cells : Body → List Cell
  | .loading => []
  | .failed _ => []
  | .loaded content => content.tables.flatMap fun t => t.rows.flatMap Row.cells

/-- The cells of the tables of a page. -/
def Page.cells (page : Page) : List Cell := page.panels.flatMap fun p => p.body.cells

/-- In both tables it is the escaping renderer that shows names. -/
theorem renderer_of_name {layout : Layout} (hlayout : layout = prettyLayout ∨ layout = normalizedLayout)
    {column : Column} (hcolumn : column ∈ layout.columns) (hname : column.source = .name) :
    column.renderer = .escaped := by
  have hpretty :
      ∀ column ∈ prettyLayout.columns, column.source = .name → column.renderer = .escaped := by
    decide
  have hnormalized :
      ∀ column ∈ normalizedLayout.columns, column.source = .name → column.renderer = .escaped := by
    decide
  rcases hlayout with rfl | rfl
  · exact hpretty column hcolumn hname
  · exact hnormalized column hcolumn hname

/-- The cell of a record is inert, whatever its name and numbers are. -/
theorem inert_cell {column : Column} (h : column.source = .name → column.renderer = .escaped)
    (record : Record) (ratios : PerMetric Float) :
    Markup.Inert (cell column record ratios).display.toList := by
  unfold cell
  cases hsource : column.source with
  | name =>
    dsimp only
    rw [h hsource]
    exact Markup.inert_escape record.name
  | id => exact column.renderer.inert_number _
  | absolute m => exact column.renderer.inert_number _
  | normalized m => exact column.renderer.inert_number _

/-- Every cell of the two tables is inert. -/
theorem inert_of_mem_table {layout : Layout}
    (hlayout : layout = prettyLayout ∨ layout = normalizedLayout) (results : Normalized) {row : Row}
    (hrow : row ∈ (layout.table results).rows) {c : Cell} (hc : c ∈ row.cells) :
    Markup.Inert c.display.toList := by
  obtain ⟨pair, _, rfl⟩ := List.mem_map.1 hrow
  obtain ⟨column, hcolumn, rfl⟩ := List.mem_map.1 hc
  exact inert_cell (renderer_of_name hlayout hcolumn) pair.1 pair.2

/-- Every cell that a loaded benchmark shows is inert. -/
theorem inert_of_mem_loaded (results : Normalized) (code : Option Code) {c : Cell}
    (hc : c ∈ (Body.loaded (.ofResults results code)).cells) : Markup.Inert c.display.toList := by
  obtain ⟨t, ht, hrows⟩ := List.mem_flatMap.1 hc
  obtain ⟨row, hrow, hcells⟩ := List.mem_flatMap.1 hrows
  have htables : t = prettyLayout.table results ∨ t = normalizedLayout.table results := by
    simpa [Loaded.ofResults, prettyTable, normalizedTable] using ht
  rcases htables with rfl | rfl
  · exact inert_of_mem_table (Or.inl rfl) results hrow hcells
  · exact inert_of_mem_table (Or.inr rfl) results hrow hcells

/-- Separators hold no panels, so assembling a page and reading its panels gives them back. -/
theorem panels_assemble (title : String) (toc : List TocEntry) (panels : List Panel)
    (log : Option (List String)) : (Page.assemble title toc panels log).panels = panels := by
  unfold Page.panels Page.assemble separated
  dsimp only
  induction panels with
  | nil => rfl
  | cons first rest ih =>
    cases rest with
    | nil => rfl
    | cons second rest =>
      simp only [List.map_cons] at ih
      simp only [List.map_cons, List.intersperse_cons_cons, List.filterMap_cons, Section.panel?, ih]

end BenchScope.Report

namespace BenchScope.Session

/-- Every cell on a page whose panels show states of panels is inert. -/
theorem inert_of_states {page : Report.Page} (h : ∀ p ∈ page.panels, ∃ state, p.body = panelBody state)
    {c : Report.Cell} (hc : c ∈ page.cells) : Markup.Inert c.display.toList := by
  obtain ⟨p, hp, hc⟩ := List.mem_flatMap.1 hc
  obtain ⟨state, hbody⟩ := h p hp
  rw [hbody] at hc
  cases state with
  | loading results source => cases hc
  | failed message => cases hc
  | loaded results code => exact Report.inert_of_mem_loaded results code hc

/-- A loaded panel on the page of a session shows results. -/
theorem body_of_mem_panels {session : Session} {style : Report.LinkStyle} {p : Report.Panel}
    (hp : p ∈ (session.page style).panels) : ∃ panel, p.body = panelBody panel := by
  rw [page, Report.panels_assemble] at hp
  obtain ⟨key, _, hview⟩ := List.mem_filterMap.1 hp
  obtain ⟨panel, _, rfl⟩ := Option.map_eq_some_iff.1 hview
  exact ⟨panel, rfl⟩

/-- Every cell on the page of a session is inert. -/
theorem inert_of_mem_cells (session : Session) (style : Report.LinkStyle) {c : Report.Cell}
    (hc : c ∈ (session.page style).cells) : Markup.Inert c.display.toList :=
  inert_of_states (fun _ => body_of_mem_panels) hc

end BenchScope.Session

namespace BenchScope.Report.Html

/-! ## Pieces -/

/-- The markup of a cell in a document is what a cell of the page shows. -/
theorem cell_mem_tableCell {markup : String} {column : Column} {c : Cell}
    (h : Piece.cell markup ∈ tableCell column c) : markup = c.display := by
  cases hclass : column.className? <;> cases hsort : c.sort <;>
    simpa [tableCell, hclass, hsort] using h

/-- The cells that a table puts in are cells of its rows. -/
theorem cell_mem_table {markup panel : String} {t : Table}
    (h : Piece.cell markup ∈ table panel t) :
    ∃ row ∈ t.rows, ∃ c ∈ row.cells, markup = c.display := by
  have hrows : Piece.cell markup ∈ t.rows.flatMap (tableRow t.columns) := by
    simpa [table] using h
  obtain ⟨row, hrow, h⟩ := List.mem_flatMap.1 hrows
  have hcells : Piece.cell markup ∈
      (t.columns.zip row.cells).flatMap fun pair => tableCell pair.1 pair.2 := by
    simpa [tableRow] using h
  obtain ⟨pair, hpair, h⟩ := List.mem_flatMap.1 hcells
  exact ⟨row, hrow, pair.2, (List.of_mem_zip hpair).2, cell_mem_tableCell h⟩

/-- The cells that a body puts in are its own. -/
theorem cell_mem_body {markup panel : String} {b : Body} (h : Piece.cell markup ∈ body panel b) :
    ∃ c ∈ b.cells, markup = c.display := by
  cases b with
  | loading => simp [body] at h
  | failed message => simp [body] at h
  | loaded content =>
    have htables : Piece.cell markup ∈ content.tables.flatMap (table panel) := by
      cases hcode : content.code <;> simpa [body, chartCanvas, code, hcode] using h
    obtain ⟨t, ht, h⟩ := List.mem_flatMap.1 htables
    obtain ⟨row, hrow, c, hc, hmarkup⟩ := cell_mem_table h
    exact ⟨c, List.mem_flatMap.2 ⟨t, ht, List.mem_flatMap.2 ⟨row, hrow, hc⟩⟩, hmarkup⟩

theorem cell_not_mem_asset (markup base file : String) : Piece.cell markup ∉ asset base file := by
  unfold asset
  split <;> simp

theorem cell_not_mem_tocEntry (markup : String) (entry : TocEntry) :
    Piece.cell markup ∉ tocEntry entry := by
  unfold tocEntry
  split <;> simp

theorem cell_not_mem_debugLog (markup : String) (lines : List String) :
    Piece.cell markup ∉ debugLog lines := by
  simp [debugLog]

/-- The cells that a document puts in are those of its page; no other part of the document puts in any.
-/
theorem cell_mem_pieces {markup base : String} {page : Page}
    (h : Piece.cell markup ∈ pieces page base) : ∃ c ∈ page.cells, markup = c.display := by
  -- cells stand in tables, and tables in panels
  have hsections : Piece.cell markup ∈ page.sections.flatMap pageSection := by
    simpa [pieces, fixedLines, cell_not_mem_asset, cell_not_mem_tocEntry, cell_not_mem_debugLog]
      using h
  obtain ⟨s, hs, h⟩ := List.mem_flatMap.1 hsections
  cases s with
  | separator => simp [pageSection] at h
  | panel p =>
    have hbody : Piece.cell markup ∈ body (panelId p.key) p.body := by
      simpa [pageSection, Html.panel] using h
    obtain ⟨c, hc, hmarkup⟩ := cell_mem_body hbody
    have hp : p ∈ page.panels := List.mem_filterMap.2 ⟨.panel p, hs, rfl⟩
    exact ⟨c, List.mem_flatMap.2 ⟨p, hp, hc⟩, hmarkup⟩

/-- What a piece is apart from the text it brings in. -/
inductive Slot where
  | fixed (markup : String)
  | text
  | elementId
  | cell
  | data
  deriving DecidableEq

/-- The place that a piece fills. -/
def Piece.slot : Piece → Slot
  | .fixed markup => .fixed markup
  | .text _ => .text
  | .elementId _ => .elementId
  | .cell _ => .cell
  | .data _ => .data

/-- What a piece puts into its place. -/
def Piece.insertion : Piece → List Char
  | .fixed _ => []
  | .text value => Markup.escapeChars value.toList
  | .elementId value => Markup.escapeChars value.toList
  | .cell markup => markup.toList
  | .data json => Markup.scriptSafe json.compactChars

/-- A place with a text put into it. -/
def Slot.fill (slot : Slot) (inserted : List Char) : List Char :=
  match slot with
  | .fixed markup => markup.toList
  | .elementId => "id=\"".toList ++ inserted ++ ['"']
  | .text => inserted
  | .cell => inserted
  | .data => inserted

/-- A piece is rendered as its place with its insertion in it. -/
theorem Piece.render_eq_fill (piece : Piece) : piece.render = piece.slot.fill piece.insertion := by
  cases piece <;> rfl

/-- The fixed markup of a document and the places in it. -/
def skeleton (page : Page) (base : String) : List Slot := (pieces page base).map Piece.slot

/-- What a piece of the document of a page brings in can do no harm. -/
def Piece.Confined (page : Page) (piece : Piece) : Prop :=
  match piece with
  | .fixed _ => True
  | .text value => piece.insertion = Markup.escapeChars value.toList ∧ Markup.Inert piece.insertion
  | .elementId value => piece.insertion = Markup.escapeChars value.toList ∧ Markup.Inert piece.insertion
  | .cell _ => (∃ c ∈ page.cells, piece.insertion = c.display.toList) ∧ Markup.Inert piece.insertion
  | .data _ => ∀ c ∈ piece.insertion, c ≠ '<' ∧ c ≠ '>' ∧ c ≠ '&' ∧ c ≠ '\''

/-- Only cells are not escaped where they are put in, so a page confines its pieces if its cells are
inert. -/
theorem confined_of_mem_pieces {page : Page}
    (hcells : ∀ c ∈ page.cells, Markup.Inert c.display.toList)
    {base : String} {piece : Piece} (hpiece : piece ∈ pieces page base) : piece.Confined page := by
  cases piece with
  | fixed markup => trivial
  | text value => exact ⟨rfl, Markup.inert_escapeChars value.toList⟩
  | elementId value => exact ⟨rfl, Markup.inert_escapeChars value.toList⟩
  | cell markup =>
    obtain ⟨c, hc, rfl⟩ := cell_mem_pieces hpiece
    exact ⟨⟨c, hc, rfl⟩, hcells c hc⟩
  | data json => exact fun c hc => Markup.mem_scriptSafe hc

end BenchScope.Report.Html

namespace BenchScope.Report

/-! ## Pages without their texts -/

/-- An entry without its texts; whether it has a link stays. -/
def TocEntry.blank (entry : TocEntry) : TocEntry := ⟨"", "", if entry.href = "" then "" else "#"⟩

def Column.blank (column : Column) : Column := { column with title := "" }

def Cell.blank (c : Cell) : Cell := ⟨"", c.sort.map fun _ => 0⟩

def Row.blank (row : Row) : Row := ⟨0, row.cells.map Cell.blank⟩

/-- A table without its texts and numbers; how many rows and columns it has stays. -/
def Table.blank (t : Table) : Table :=
  ⟨"", "", false, t.columns.map Column.blank, t.rows.map Row.blank⟩

def Chart.blank (_ : Chart) : Chart := ⟨"", "", "", []⟩

def Code.blank (_ : Code) : Code := ⟨"", ""⟩

def Loaded.blank (content : Loaded) : Loaded :=
  ⟨content.tables.map Table.blank, content.charts.map Chart.blank, content.code.map Code.blank⟩

/-- A body without its texts; in which state it is stays. -/
def Body.blank : Body → Body
  | .loading => .loading
  | .failed _ => .failed ""
  | .loaded content => .loaded content.blank

def Panel.blank (p : Panel) : Panel := ⟨"", "", p.body.blank⟩

def Section.blank : Section → Section
  | .panel p => .panel p.blank
  | .separator => .separator

/-- The page with every text and every number removed. What is left is which entries have links, which
panels there are and in which state, how many rows their tables have, and which cells are sorted by a
number. -/
def Page.blank (page : Page) : Page :=
  ⟨"", page.toc.map TocEntry.blank, page.sections.map Section.blank, page.debugLog.map fun _ => []⟩

end BenchScope.Report

namespace BenchScope.Report.Html

/-- Texts may be removed from two parts of a document apart. -/
theorem slots_append {first second bare₁ bare₂ : List Piece}
    (h₁ : first.map Piece.slot = bare₁.map Piece.slot)
    (h₂ : second.map Piece.slot = bare₂.map Piece.slot) :
    (first ++ second).map Piece.slot = (bare₁ ++ bare₂).map Piece.slot := by
  rw [List.map_append, List.map_append, h₁, h₂]

/-- Where texts can be removed from each item, they can be removed from a whole list. -/
theorem slots_flatMap {α : Type} (blank : α → α) {full bare : α → List Piece}
    (h : ∀ a, (full a).map Piece.slot = (bare (blank a)).map Piece.slot) (items : List α) :
    (items.flatMap full).map Piece.slot = ((items.map blank).flatMap bare).map Piece.slot := by
  induction items with
  | nil => rfl
  | cons a rest ih =>
    rw [List.map_cons, List.flatMap_cons, List.flatMap_cons]
    exact slots_append (h a) ih

theorem slots_tableCell (column : Column) (c : Cell) :
    (tableCell column c).map Piece.slot = (tableCell column.blank c.blank).map Piece.slot := by
  -- the class of a cell comes from the source of its column, which stays
  have hclass : column.blank.className? = column.className? := rfl
  unfold tableCell
  rw [hclass]
  cases column.className? <;> cases hsort : c.sort <;> simp [Cell.blank, hsort, Piece.slot]

/-- The places of a row depend on the kinds of its cells only. -/
theorem slots_tableRow (columns : List Column) (row : Row) :
    (tableRow columns row).map Piece.slot =
      (tableRow (columns.map Column.blank) row.blank).map Piece.slot := by
  unfold tableRow Row.blank
  refine slots_append (slots_append rfl ?cells) rfl
  case cells =>
    rw [List.zip_map]
    exact slots_flatMap (Prod.map Column.blank Cell.blank)
      (fun pair => slots_tableCell pair.1 pair.2) (columns.zip row.cells)

theorem slots_table (panel panel' : String) (t : Table) :
    (table panel t).map Piece.slot = (table panel' t.blank).map Piece.slot := by
  unfold table
  refine slots_append (slots_append (slots_append (slots_append rfl ?titles) rfl) ?rows) rfl
  case titles => exact slots_flatMap Column.blank (fun _ => by rfl) t.columns
  case rows => exact slots_flatMap Row.blank (slots_tableRow t.columns) t.rows

/-- The places of a body do not depend on its texts, nor on the panel that it stands in. -/
theorem slots_body (panel panel' : String) (b : Body) :
    (body panel b).map Piece.slot = (body panel' b.blank).map Piece.slot := by
  cases b with
  | loading => rfl
  | failed message => rfl
  | loaded content =>
    unfold body Body.blank Loaded.blank
    refine slots_append (slots_append (slots_append (slots_append (slots_append rfl ?tables) rfl) ?charts)
      rfl) ?code
    case tables => exact slots_flatMap Table.blank (slots_table panel panel') content.tables
    case charts => exact slots_flatMap Chart.blank (fun _ => by rfl) content.charts
    case code =>
      rw [Option.toList_map]
      exact slots_flatMap Code.blank (fun _ => by rfl) content.code.toList

/-- The places of a section do not depend on its texts. -/
theorem slots_pageSection (s : Section) :
    (pageSection s).map Piece.slot = (pageSection s.blank).map Piece.slot := by
  cases s with
  | separator => rfl
  | panel p =>
    unfold pageSection Section.blank Html.panel
    exact slots_append (slots_append (slots_append rfl (slots_body _ _ p.body)) rfl) rfl

theorem slots_tocEntry (entry : TocEntry) :
    (tocEntry entry).map Piece.slot = (tocEntry entry.blank).map Piece.slot := by
  by_cases hlink : entry.href = "" <;> simp [tocEntry, TocEntry.blank, hlink, Piece.slot]

/-- The places of a widget file do not depend on where the files lie. -/
theorem slots_asset (base base' file : String) :
    (asset base file).map Piece.slot = (asset base' file).map Piece.slot := by
  unfold asset
  split <;> rfl

/-- No text of a page, and no place of the widget files, has a part in its skeleton. -/
theorem skeleton_blank (page : Page) (base : String) : skeleton page base = skeleton page.blank "" := by
  unfold skeleton pieces Page.blank
  refine slots_append (slots_append (slots_append (slots_append (slots_append (slots_append (slots_append
    (slots_append rfl ?assets) rfl) ?toc) rfl) ?sections) rfl) ?log) rfl
  case assets =>
    rw [List.map_flatMap, List.map_flatMap]
    simp only [slots_asset base ""]
  case toc => exact slots_flatMap TocEntry.blank slots_tocEntry page.toc
  case sections => exact slots_flatMap Section.blank slots_pageSection page.sections
  case log =>
    rw [Option.toList_map]
    exact slots_flatMap (fun _ => []) (fun _ => by rfl) page.debugLog.toList

end BenchScope.Report.Html

namespace BenchScope.Report

/-! ## Shapes -/

/-- What a panel shows, apart from texts and numbers. -/
inductive BodyShape where
  | loading
  | failed
  | loaded (rows : List Nat) (code : Bool)
  deriving DecidableEq

def Body.shape : Body → BodyShape
  | .loading => .loading
  | .failed _ => .failed
  | .loaded content => .loaded (content.tables.map fun t => t.rows.length) content.code.isSome

/-- The shape of a page. A section without a body is a separator. -/
structure Shape where
  linked : Nat
  unlinked : Nat
  sections : List (Option BodyShape)
  debugLog : Bool
  deriving DecidableEq

def Section.shape (s : Section) : Option BodyShape := s.panel?.map fun p => p.body.shape

def Page.shape (page : Page) : Shape where
  linked := page.toc.countP fun entry => entry.href ≠ ""
  unlinked := page.toc.countP fun entry => entry.href = ""
  sections := page.sections.map Section.shape
  debugLog := page.debugLog.isSome

/-- The total of a count over a list. -/
def total {α : Type} (count : α → Nat) (items : List α) : Nat :=
  items.foldr (fun a n => count a + n) 0

theorem total_const {α : Type} (n : Nat) (items : List α) :
    total (fun _ => n) items = n * items.length := by
  induction items with
  | nil => rfl
  | cons a rest ih =>
    show n + total (fun _ => n) rest = n * (rest.length + 1)
    rw [ih, Nat.mul_succ, Nat.add_comm]

theorem total_map {α β : Type} (count : β → Nat) (f : α → β) (items : List α) :
    total count (items.map f) = total (fun a => count (f a)) items := List.foldr_map

/-- The number of tags in a table of seven columns. -/
def tableTags (rows : Nat) : Nat := 5 + 2 * 7 + 3 + 16 * rows + 2

def BodyShape.tags : BodyShape → Nat
  | .loading => 2
  | .failed => 2
  | .loaded rows code => 2 + total tableTags rows + 2 + 4 * 5 + 2 + if code then 6 else 0

def sectionTags : Option BodyShape → Nat
  | some shape => 3 + shape.tags + 1
  | none => 3

/-- The number of tags in the document of a page of this shape. -/
def Shape.tags (shape : Shape) : Nat :=
  6 + 10 + 7 + (4 * shape.linked + 2 * shape.unlinked) + 2 + total sectionTags shape.sections + 3 +
    (if shape.debugLog then 4 else 0) + 4

end BenchScope.Report

namespace BenchScope.Report.Html

open Markup

/-! ## Angle brackets -/

/-- The angle brackets in the fixed markup of a place. -/
def Slot.brackets : Slot → List Char
  | .fixed markup => Markup.brackets markup.toList
  | _ => []

/-- Confined pieces bring in no angle brackets. -/
theorem Piece.Confined.brackets_render {page : Page} {piece : Piece} (h : piece.Confined page) :
    Markup.brackets piece.render = piece.slot.brackets := by
  cases piece with
  | fixed markup => rfl
  | text value => exact Inert.brackets_eq_nil h.2
  | elementId value =>
    have hbefore : Markup.brackets "id=\"".toList = [] := by decide
    have hinside : Markup.brackets (escapeChars value.toList) = [] := Inert.brackets_eq_nil h.2
    show Markup.brackets ("id=\"".toList ++ escapeChars value.toList ++ ['"']) = []
    rw [brackets_append, brackets_append, hbefore, hinside]
    rfl
  | cell markup => exact Inert.brackets_eq_nil h.2
  | data json => exact brackets_eq_nil fun c hc => ⟨(h c hc).1, (h c hc).2.1⟩

/-- The angle brackets of a document are those of its skeleton. -/
theorem brackets_renderChars {page : Page} {base : String}
    (h : ∀ piece ∈ pieces page base, piece.Confined page) :
    Markup.brackets (renderChars page base) = (skeleton page base).flatMap Slot.brackets := by
  unfold renderChars skeleton
  -- by induction on the pieces; which page they are from plays no part
  generalize pieces page base = ps at h
  induction ps with
  | nil => rfl
  | cons piece rest ih =>
    have hhead := (h piece List.mem_cons_self).brackets_render
    have hrest := ih fun other hother => h other (List.mem_cons_of_mem piece hother)
    rw [List.flatMap_cons, brackets_append, hhead, hrest, List.map_cons, List.flatMap_cons]

/-- The fixed markup of the pieces has the angle brackets of `n` tags, one after the other. -/
def HasTags (ps : List Piece) (n : Nat) : Prop :=
  (ps.map Piece.slot).flatMap Slot.brackets = Markup.tags n

/-- Pieces in a row have the tags of both parts. -/
theorem HasTags.append {first second : List Piece} {m n : Nat} (h₁ : HasTags first m)
    (h₂ : HasTags second n) : HasTags (first ++ second) (m + n) := by
  unfold HasTags at *
  rw [List.map_append, List.flatMap_append, h₁, h₂, tags_add]

/-- Items in a row have the tags of all of them. -/
theorem HasTags.flatMap {α : Type} {items : List α} {f : α → List Piece} {count : α → Nat}
    (h : ∀ a ∈ items, HasTags (f a) (count a)) : HasTags (items.flatMap f) (total count items) := by
  induction items with
  | nil => rfl
  | cons a rest ih =>
    rw [List.flatMap_cons]
    exact (h a List.mem_cons_self).append (ih fun b hb => h b (List.mem_cons_of_mem a hb))

theorem HasTags.flatMap_const {α : Type} {items : List α} {f : α → List Piece} {n : Nat}
    (h : ∀ a ∈ items, HasTags (f a) n) : HasTags (items.flatMap f) (n * items.length) := by
  rw [← total_const]
  exact HasTags.flatMap h

/-- A cell is one element. -/
theorem hasTags_tableCell (column : Column) (c : Cell) : HasTags (tableCell column c) 2 := by
  -- the opening tag is in several pieces: it has none, one or both of two attributes
  unfold tableCell
  cases column.className? <;> cases c.sort <;> rfl

/-- A row is an element with one element for each cell in it. -/
theorem hasTags_tableRow {columns : List Column} {row : Row} (h : columns.length = row.cells.length) :
    HasTags (tableRow columns row) (1 + 2 * columns.length + 1) := by
  unfold tableRow
  refine .append (.append ?start ?cells) ?close
  case start => rfl
  case close => rfl
  case cells =>
    have hpairs : (columns.zip row.cells).length = columns.length := by
      rw [List.length_zip, ← h, Nat.min_self]
    rw [← hpairs]
    exact HasTags.flatMap_const fun pair _ => hasTags_tableCell pair.1 pair.2

/-- A table of either layout has seven columns, and as many rows as there are records. -/
theorem hasTags_table (panel : String) (layout : Layout) (results : Normalized) :
    HasTags (table panel (layout.table results)) (tableTags results.rows.length) := by
  unfold table tableTags
  refine .append (.append (.append (.append ?heading ?titles) ?between) ?rows) ?close
  case heading => rfl
  case between => rfl
  case close => rfl
  case titles =>
    exact HasTags.flatMap_const fun _ _ => by rfl
  case rows =>
    have hlength : (layout.table results).rows.length = results.rows.length := List.length_map _
    rw [← hlength]
    apply HasTags.flatMap_const
    intro row hrow
    -- a row has a cell for each column
    obtain ⟨pair, _, rfl⟩ := List.mem_map.1 hrow
    exact hasTags_tableRow (List.length_map _).symm

/-- How many tags a body has depends on its shape only. -/
theorem hasTags_body (panel : String) (state : PanelState) :
    HasTags (body panel (Session.panelBody state)) (Session.panelBody state).shape.tags := by
  cases state with
  | loading results source => rfl
  | failed message => rfl
  | loaded results code =>
    have htables : ((Loaded.ofResults results code).tables.map fun t => t.rows.length) =
        [results.rows.length, results.rows.length] := by
      simp [Loaded.ofResults, prettyTable, normalizedTable, Layout.table]
    unfold body Session.panelBody Body.shape BodyShape.tags
    dsimp only
    rw [htables]
    refine .append (.append (.append (.append (.append ?heading ?tables) ?between) ?charts) ?data) ?code
    case heading => rfl
    case between => rfl
    case data => rfl
    case charts => exact HasTags.flatMap_const fun _ _ => by rfl
    case code => cases code <;> rfl
    case tables =>
      exact (hasTags_table panel prettyLayout results).append
        ((hasTags_table panel normalizedLayout results).append rfl)

/-- A section has the tags of its panel, or those of a separator. -/
theorem hasTags_pageSection {s : Section}
    (h : ∀ p, s = .panel p → ∃ state, p.body = Session.panelBody state) :
    HasTags (pageSection s) (sectionTags s.shape) := by
  cases s with
  | separator => rfl
  | panel p =>
    obtain ⟨state, hstate⟩ := h p rfl
    have hbody : HasTags (body (panelId p.key) p.body) p.body.shape.tags := by
      rw [hstate]
      exact hasTags_body (panelId p.key) state
    have hcount : sectionTags (Section.panel p).shape = 3 + p.body.shape.tags + 1 + 0 := rfl
    rw [hcount]
    unfold pageSection panel
    refine .append (.append (.append ?start hbody) ?close) ?line
    case start => rfl
    case close => rfl
    case line => rfl

/-- An entry of the table of contents has two tags, and two more if it is a link. -/
theorem hasTags_toc (toc : List TocEntry) :
    HasTags (toc.flatMap tocEntry) (4 * (toc.countP fun entry => entry.href ≠ "") +
      2 * (toc.countP fun entry => entry.href = "")) := by
  induction toc with
  | nil => rfl
  | cons entry rest ih =>
    rw [List.flatMap_cons]
    by_cases hlink : entry.href = ""
    · have hentry : HasTags (tocEntry entry) 2 := by
        rw [tocEntry, if_pos hlink]
        rfl
      have hall := hentry.append ih
      rw [List.countP_cons_of_neg (by simpa using hlink), List.countP_cons_of_pos (by simpa using hlink)]
      rwa [Nat.add_left_comm, Nat.add_comm 2, ← Nat.mul_succ] at hall
    · have hentry : HasTags (tocEntry entry) 4 := by
        rw [tocEntry, if_neg hlink]
        rfl
      have hall := hentry.append ih
      rw [List.countP_cons_of_pos (by simpa using hlink), List.countP_cons_of_neg (by simpa using hlink)]
      rwa [← Nat.add_assoc, Nat.add_comm 4, ← Nat.mul_succ] at hall

/-- Lines without angle brackets have none when they are joined. -/
theorem brackets_fixedLines {lines : List String}
    (h : ∀ line ∈ lines, Markup.brackets line.toList = []) :
    (fixedLines lines).slot.brackets = [] := by
  show Markup.brackets (String.join (lines.map (· ++ "\n"))).toList = []
  rw [String.toList_join]
  induction lines with
  | nil => rfl
  | cons line rest ih =>
    have hline := h line List.mem_cons_self
    have hrest := ih fun other hother => h other (List.mem_cons_of_mem line hother)
    have hfeed : Markup.brackets "\n".toList = [] := by decide
    rw [List.map_cons, List.flatMap_cons, brackets_append, String.toList_append, brackets_append, hline,
      hfeed, hrest]
    rfl

/-- A literal is a list of characters, so its angle brackets are found without reading its bytes. -/
theorem brackets_lines_cons {text : List Char} {lines : List String} (h : Markup.brackets text = [])
    (hlines : ∀ line ∈ lines, Markup.brackets line.toList = []) :
    ∀ line ∈ String.ofList text :: lines, Markup.brackets line.toList = [] := by
  rw [List.forall_mem_cons, String.toList_ofList]
  exact ⟨h, hlines⟩

set_option maxRecDepth 1024 in
/-- The style rules hold no angle bracket. -/
theorem brackets_styleRules : ∀ line ∈ styleRules, Markup.brackets line.toList = [] := by
  unfold styleRules
  repeat refine brackets_lines_cons (by decide +kernel) ?_
  exact List.forall_mem_nil _

theorem brackets_scriptLines : ∀ line ∈ scriptLines, Markup.brackets line.toList = [] := by
  unfold scriptLines
  repeat refine brackets_lines_cons (by decide +kernel) ?_
  exact List.forall_mem_nil _

/-- Lines without angle brackets do not count among the pieces. -/
theorem hasTags_cons_lines {lines : List String} {piece : Piece} {rest : List Piece} {n : Nat}
    (hlines : ∀ line ∈ lines, Markup.brackets line.toList = []) (h : HasTags (piece :: rest) n) :
    HasTags (piece :: fixedLines lines :: rest) n := by
  unfold HasTags at h ⊢
  rw [List.map_cons, List.flatMap_cons] at h ⊢
  rw [List.map_cons, List.flatMap_cons, brackets_fixedLines hlines, List.nil_append]
  exact h

/-- The document of a page has as many tags as its shape says. -/
theorem hasTags_pieces {page : Page}
    (h : ∀ p ∈ page.panels, ∃ state, p.body = Session.panelBody state) (base : String) :
    HasTags (pieces page base) page.shape.tags := by
  unfold pieces Shape.tags
  refine .append (.append (.append (.append (.append (.append (.append (.append ?head ?assets) ?style)
    ?toc) ?start) ?sections) ?close) ?log) ?script
  case head => rfl
  case assets => rfl
  case start => rfl
  case close => rfl
  case style => exact hasTags_cons_lines brackets_styleRules rfl
  case script => exact hasTags_cons_lines brackets_scriptLines rfl
  case toc => exact hasTags_toc page.toc
  case log =>
    unfold Page.shape
    cases page.debugLog <;> rfl
  case sections =>
    rw [Page.shape, total_map]
    apply HasTags.flatMap
    intro s hs
    -- a panel of the page shows the state of a panel of the session
    apply hasTags_pageSection
    rintro p rfl
    exact h p (List.mem_filterMap.2 ⟨.panel p, hs, rfl⟩)

end BenchScope.Report.Html

namespace BenchScope.Session

open Report

/-- The angle brackets in the document of a session are those of tags, as many as the shape of its page
says. -/
theorem brackets_render_page (session : Session) (style : LinkStyle) (base : String) :
    Markup.brackets (Html.render (session.page style) base).toList =
      Markup.tags (session.page style).shape.tags := by
  have hconfined : ∀ piece ∈ Html.pieces (session.page style) base, piece.Confined (session.page style) :=
    fun _ => Html.confined_of_mem_pieces fun _ => inert_of_mem_cells session style
  rw [Html.render, String.toList_ofList, Html.brackets_renderChars hconfined]
  exact Html.hasTags_pieces (fun _ => body_of_mem_panels) base

/-- Whatever texts a session holds, its document is a skeleton that no text has a part in, with inert
texts, cells and script data in its places. Its angle brackets are those of tags, one after the other, as
many as the shape of the page says; so documents of pages of one shape have the same angle brackets in the
same order. -/
theorem page_markup_safe (session : Session) (style : LinkStyle) (base : String) :
    let page := session.page style
    (Html.render page base).toList =
      (Html.pieces page base).flatMap (fun piece => piece.slot.fill piece.insertion) ∧
    Html.skeleton page base = Html.skeleton page.blank "" ∧
    (∀ piece ∈ Html.pieces page base, piece.Confined page) ∧
    Markup.brackets (Html.render page base).toList = Markup.tags page.shape.tags ∧
    ∀ (other : Session) (otherStyle : LinkStyle) (otherBase : String),
      (other.page otherStyle).shape = page.shape →
      Markup.brackets (Html.render (other.page otherStyle) otherBase).toList =
        Markup.brackets (Html.render page base).toList := by
  intro page
  refine ⟨?_, Html.skeleton_blank page base, ?_, brackets_render_page session style base, ?_⟩
  · rw [Html.render, String.toList_ofList, Html.renderChars]
    simp only [← Html.Piece.render_eq_fill]
  · intro piece hpiece
    exact Html.confined_of_mem_pieces (fun _ => inert_of_mem_cells session style) hpiece
  · intro other otherStyle otherBase hshape
    -- both documents have the brackets of as many tags as the shape says
    rw [brackets_render_page, brackets_render_page, hshape]

/-- A session that shows one text wherever a text can stand. -/
def showing (text : String) : Session where
  settings := .default
  suite := ⟨text, [(text, ⟨text, text, text, text⟩)]⟩
  query := .empty
  panels := [(text, .loaded (.ofResults (.build [] [.named text])) (some ⟨text, text⟩))]
  debugLog := some [text]
  loadAll := false
  inFlight := 0

/-- The one panel that such a session shows. -/
theorem panelViews_showing (text : String) : (showing text).panelViews =
    [⟨text, text, panelBody (.loaded (.ofResults (.build [] [.named text])) (some ⟨text, text⟩))⟩] := by
  have hpanel : (showing text).panelView? text =
      some ⟨text, text, panelBody (.loaded (.ofResults (.build [] [.named text])) (some ⟨text, text⟩))⟩ := by
    simp [panelView?, showing, Entries.get?]
  show [text].filterMap (showing text).panelView? = _
  rw [List.filterMap_cons_some hpanel]
  rfl

theorem shape_showing (text : String) : ((showing text).page .anchor).shape =
    { linked := 1, unlinked := 0, sections := [some (.loaded [1, 1] true)], debugLog := true } := by
  have hlink : anchor text ≠ "" := by
    intro h
    have hchars := congrArg String.toList h
    simp [anchor] at hchars
  have htoc : (showing text).toc .anchor = [⟨text, text, anchor text⟩] := rfl
  rw [page, htoc, panelViews_showing]
  simp only [Page.shape, Page.assemble, List.countP_singleton, ne_eq, hlink, not_false_eq_true]
  rfl

/-- A text made of markup adds no tag to a document that shows it everywhere. -/
theorem page_markup_safe_hostile :
    ((showing "</pre><script>'&\"").page .anchor).shape = ((showing "plain").page .anchor).shape ∧
    Markup.brackets (Html.render ((showing "</pre><script>'&\"").page .anchor) "<base>").toList =
      Markup.brackets (Html.render ((showing "plain").page .anchor) "").toList ∧
    Markup.brackets (Html.render ((showing "plain").page .anchor) "").toList =
      Markup.tags ((showing "plain").page .anchor).shape.tags := by
  have hshape : ((showing "</pre><script>'&\"").page .anchor).shape =
      ((showing "plain").page .anchor).shape := by
    rw [shape_showing, shape_showing]
  obtain ⟨-, -, -, htags, hsame⟩ := page_markup_safe (showing "plain") .anchor ""
  exact ⟨hshape, hsame _ _ "<base>" hshape, htags⟩

end BenchScope.Session
