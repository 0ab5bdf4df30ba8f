import BenchScope.Json.Writer
import BenchScope.Report.Page

/-!
# HTML documents

A document is a list of pieces. A piece is part of the fixed skeleton, a text that is escaped, an id
attribute with an escaped value, the markup of a table cell, or data for a script. Everything that
does not come from this module enters a document through one of the last four kinds.
-/

namespace BenchScope.Report.Html

/-- A piece of a document. -/
inductive Piece where
  | fixed (markup : String)
  | text (value : String)
  | elementId (value : String)
  | cell (markup : String)
  | data (json : Json)

/-- The characters of a piece. -/
def Piece.render : Piece → List Char
  | .fixed markup => markup.toList
  | .text value => Markup.escapeChars value.toList
  | .elementId value => "id=\"".toList ++ Markup.escapeChars value.toList ++ ['"']
  | .cell markup => markup.toList
  | .data json => Markup.scriptSafe json.compactChars

/-- Lines of a skeleton, each with its line feed. -/
def fixedLines (lines : List String) : Piece := .fixed (String.join (lines.map (· ++ "\n")))

/-- Widget files that a page loads. -/
def assets : List String :=
  ["jquery-3.3.1.min.js", "jquery.dataTables.min.js", "jquery.dataTables.min.css", "Chart.min.js",
   "highlight.github.min.css", "highlight.min.js"]

/-- The element that loads a widget file. -/
def asset (base file : String) : List Piece :=
  if ".css".toList.isSuffixOf file.toList then
    [.fixed "<link rel=\"stylesheet\" href=\"", .text (base ++ file), .fixed "\">\n"]
  else [.fixed "<script src=\"", .text (base ++ file), .fixed "\"></script>\n"]

/-- The style rules of a page. -/
def styleRules : List String :=
  ["body \x7b font-family: -apple-system, BlinkMacSystemFont, 'Segoe UI', Roboto, sans-serif; margin: 20px; color: #333; \x7d",
   ".datatable \x7b width: 800px; \x7d",
   ".text-right \x7b text-align: right; \x7d",
   ".chart \x7b width: 800px; margin-bottom: 20px; \x7d",
   ".bm-sep hr \x7b margin: 40px 0; \x7d",
   ".bm-failed \x7b color: #b00020; \x7d",
   "#bm-tooltip \x7b position: absolute; opacity: 0; pointer-events: none; background: #fff; border: 1px solid #ccc; padding: 6px; font-size: 12px; \x7d",
   "#dbg \x7b background: #f5f5f5; padding: 8px; font-size: 11px; \x7d"]

/-- The script that draws tables, charts and code. -/
def scriptLines : List String :=
  ["function bmxpTooltip(el, points) \x7b",
   "  return function(model) \x7b",
   "    if (!model || model.opacity === 0 || !model.dataPoints || !model.dataPoints.length) \x7b",
   "      el.style.opacity = 0;",
   "      return;",
   "    \x7d",
   "    var point = points[model.dataPoints[0].index];",
   "    var rect = this._chart.canvas.getBoundingClientRect();",
   "    el.innerHTML = point.tooltip;",
   "    el.style.opacity = 1;",
   "    el.style.left = (window.pageXOffset + rect.left + model.caretX) + 'px';",
   "    el.style.top = (window.pageYOffset + rect.top + model.caretY) + 'px';",
   "  \x7d;",
   "\x7d",
   "$(function() \x7b",
   "  $('table.datatable').each(function() \x7b",
   "    $(this).DataTable(\x7binfo: false, paging: false, searching: $(this).data('searching') === true\x7d);",
   "  \x7d);",
   "  var tooltipEl = document.getElementById('bm-tooltip');",
   "  document.querySelectorAll('script.bm-charts').forEach(function(node) \x7b",
   "    JSON.parse(node.textContent).forEach(function(series) \x7b",
   "      var canvas = document.getElementById(node.dataset.panel + '-' + series.column);",
   "      new Chart(canvas, \x7b",
   "        type: 'horizontalBar',",
   "        data: \x7b",
   "          labels: series.points.map(function(p) \x7b return p.label; \x7d),",
   "          datasets: [\x7bdata: series.points.map(function(p) \x7b return p.y; \x7d), backgroundColor: '#eb7434'\x7d]",
   "        \x7d,",
   "        options: \x7b",
   "          animation: false,",
   "          legend: \x7bdisplay: false\x7d,",
   "          title: \x7bdisplay: true, fontSize: 24, text: [series.title, series.observation]\x7d,",
   "          tooltips: \x7benabled: false, custom: bmxpTooltip(tooltipEl, series.points)\x7d",
   "        \x7d",
   "      \x7d);",
   "    \x7d);",
   "  \x7d);",
   "  document.querySelectorAll('pre code').forEach(function(block) \x7b hljs.highlightBlock(block); \x7d);",
   "\x7d);"]

/-! ## Tables -/

/-- A cell of a table body. -/
def tableCell (column : Column) (c : Cell) : List Piece :=
  [.fixed "<td"] ++
    (match column.className? with
      | some name => [.fixed " class=\"", .text name, .fixed "\""]
      | none => []) ++
    (match c.sort with
      | some x => [.fixed " data-order=\"", .text (Decimal.displayWithPoint x), .fixed "\""]
      | none => []) ++
    [.fixed ">", .cell c.display, .fixed "</td>"]

/-- A row of a table body. -/
def tableRow (columns : List Column) (row : Row) : List Piece :=
  [.fixed "<tr>"] ++ (columns.zip row.cells).flatMap (fun (column, c) => tableCell column c) ++
    [.fixed "</tr>\n"]

/-- A table under its heading. -/
def table (panel : String) (t : Table) : List Piece :=
  [.fixed "<h4>", .text t.heading, .fixed "</h4>\n<table ",
   .elementId (panel ++ "-table" ++ t.suffix),
   .fixed " class=\"datatable\" data-searching=\"", .text (if t.searching then "true" else "false"),
   .fixed "\">\n<thead><tr>"] ++
    t.columns.flatMap (fun column => [.fixed "<th>", .text column.title, .fixed "</th>"]) ++
    [.fixed "</tr></thead>\n<tbody>\n"] ++ t.rows.flatMap (tableRow t.columns) ++
    [.fixed "</tbody>\n</table>"]

/-! ## Panels -/

/-- The place where a chart is drawn. -/
def chartCanvas (panel : String) (c : Chart) : List Piece :=
  [.fixed "<div class=\"chart\"><canvas ", .elementId (panel ++ "-" ++ c.column),
   .fixed "></canvas></div>\n"]

/-- A source file. -/
def code (c : Code) : List Piece :=
  [.fixed "<h3>Code</h3>\n<pre><code class=\"lang-", .text c.language, .fixed "\">", .text c.text,
   .fixed "</code></pre>\n"]

/-- What a panel shows under its heading. -/
def body (panel : String) : Body → List Piece
  | .loading => [.fixed "<p class=\"bm-loading\">Loading...</p>\n"]
  | .failed message =>
    [.fixed "<p class=\"bm-failed\">Failed to load: ", .text message, .fixed "</p>\n"]
  | .loaded content =>
    [.fixed "<h3>Result tables</h3>\n"] ++ content.tables.flatMap (table panel) ++
      [.fixed "\n<h3>Chart</h3>\n"] ++ content.charts.flatMap (chartCanvas panel) ++
      [.fixed "<script type=\"application/json\" class=\"bm-charts\" data-panel=\"", .text panel,
       .fixed "\">", .data (.array (content.charts.map Chart.scriptData)), .fixed "</script>\n"] ++
      content.code.toList.flatMap code

/-- A panel. -/
def panel (p : Panel) : List Piece :=
  [.fixed "<div ", .elementId (panelId p.key), .fixed ">\n<h2>", .text p.title, .fixed "</h2>\n"] ++
    body (panelId p.key) p.body ++ [.fixed "</div>"]

/-- A section of a page. -/
def pageSection : Section → List Piece
  | .panel p => panel p ++ [.fixed "\n"]
  | .separator => [.fixed "<div class=\"bm-sep\"><hr/></div>\n"]

/-! ## Pages -/

/-- An entry of the table of contents. -/
def tocEntry (entry : TocEntry) : List Piece :=
  if entry.href = "" then
    [.fixed "<li>", .text entry.key, .fixed ": ", .text entry.description, .fixed "</li>\n"]
  else
    [.fixed "<li><a href=\"", .text entry.href, .fixed "\">", .text entry.key, .fixed "</a>: ",
     .text entry.description, .fixed "</li>\n"]

/-- The debug log. -/
def debugLog (lines : List String) : List Piece :=
  [.fixed "<h3>Debug log</h3>\n<pre ", .elementId "dbg", .fixed ">",
   .text ("\n".intercalate lines), .fixed "</pre>\n"]

/-- The pieces of a page. -/
def pieces (page : Page) (assetBase : String) : List Piece :=
  [.fixed "<!DOCTYPE html>\n<html lang=\"en\">\n<head>\n<meta charset=\"UTF-8\">\n<title>",
   .text page.title, .fixed "</title>\n"] ++
    assets.flatMap (asset assetBase) ++
    [.fixed "\n<style>\n", fixedLines styleRules, .fixed "</style>\n</head>\n<body>\n<h1 ",
     .elementId "heading-title", .fixed ">", .text page.title, .fixed "</h1>\n<ul ",
     .elementId "toc", .fixed ">\n"] ++
    page.toc.flatMap tocEntry ++
    [.fixed "\n</ul>\n<div ", .elementId "bm-results", .fixed ">\n"] ++
    page.sections.flatMap pageSection ++
    [.fixed "\n</div>\n<div ", .elementId "bm-tooltip", .fixed "></div>\n"] ++
    page.debugLog.toList.flatMap debugLog ++
    [.fixed "<script>\n", fixedLines scriptLines, .fixed "</script>\n</body>\n</html>"]

/-- The HTML document of a page, as characters. -/
def renderChars (page : Page) (assetBase : String) : List Char :=
  (pieces page assetBase).flatMap Piece.render

/-- The HTML document of a page. Names of widget files are put behind `assetBase`. -/
def render (page : Page) (assetBase : String) : String := String.ofList (renderChars page assetBase)

end BenchScope.Report.Html
