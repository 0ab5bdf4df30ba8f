import BenchScope.Report.Page

/-!
# Markdown summaries

The tables of a page as Markdown, for reading results without a browser.
-/

namespace BenchScope.Report.Summary

/-- A line with its line feed. -/
def line (text : String) : String := text ++ "\n"

/-- A cell with its bars escaped. -/
def escapeBars (text : String) : String :=
  String.ofList (text.toList.flatMap fun c => if c = '|' then ['\\', '|'] else [c])

/-- A table row. -/
def tableRow (cells : List String) : String := line ("| " ++ " | ".intercalate cells ++ " |")

/-- The rule below the header row; columns of metrics are aligned to the right. -/
def rule (columns : List Column) : String :=
  line ("|" ++ "|".intercalate
    (columns.map fun c => if c.className?.isSome then "---:" else "---") ++ "|")

/-- A table under its heading. -/
def table (t : Table) : String :=
  line ("### " ++ t.heading) ++ line "" ++ tableRow (t.columns.map Column.title) ++ rule t.columns ++
    String.join (t.rows.map fun row => tableRow (row.cells.map fun c => escapeBars c.display)) ++
    line ""

/-- What a panel shows. -/
def body : Body → String
  | .loading => line "_Loading..._" ++ line ""
  | .failed message => line ("_Failed to load: " ++ message ++ "_") ++ line ""
  | .loaded content => String.join (content.tables.map table)

/-- A panel under its heading. -/
def panel (p : Panel) : String := line ("## " ++ p.title) ++ line "" ++ body p.body

/-- Whether a panel shows a loaded benchmark. -/
def isLoaded (p : Panel) : Bool :=
  match p.body with
  | .loaded _ => true
  | _ => false

/-- The summary of a page, made at the time that `generated` says. -/
def render (page : Page) (generated : String) : String :=
  line ("# " ++ page.title) ++ line "" ++ line ("Generated: " ++ generated) ++ line "" ++
    String.join (page.panels.map panel) ++ line "---" ++
    line ("Loaded benchmarks: " ++ toString (page.panels.filter isLoaded).length)

end BenchScope.Report.Summary
