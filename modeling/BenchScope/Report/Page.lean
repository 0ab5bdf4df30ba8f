import BenchScope.Path
import BenchScope.Report.Chart
import BenchScope.Text.Characters

/-!
# Pages

A page has the suite's title, a table of contents with every benchmark, and one panel for each
benchmark that has been asked for, with one separator between neighbours.
-/

namespace BenchScope.Report

/-- An entry of the table of contents. An empty target means no link. -/
structure TocEntry where
  key : String
  description : String
  href : String
  deriving DecidableEq, Repr

/-- How the table of contents links to benchmarks: by a query that selects one, by a mark on the page,
or by a mark for the panels that are on the page only. -/
inductive LinkStyle where
  | query
  | anchor
  | standalone
  deriving DecidableEq, Repr

/-- Source code with the language it is highlighted in. -/
structure Code where
  language : String
  text : String
  deriving DecidableEq, Repr

/-- Languages by file extension. -/
def languages : List (String × String) :=
  [("c", "c"), ("cpp", "c++"), ("cc", "c++"), ("cxx", "c++"), ("hpp", "c++"), ("hh", "c++"),
   ("hxx", "c++"), ("h", "c++"), ("rs", "rust"), ("py", "python"), ("go", "go"), ("java", "java"),
   ("js", "javascript")]

/-- The language of files whose extension says nothing. -/
def defaultLanguage : String := "c++"

/-- The language of a source file. -/
def languageOf (path : String) : String :=
  ((Path.extension? path.toList).bind fun ext =>
    Entries.get? languages (Text.lowerAscii (String.ofList ext))).getD defaultLanguage

/-- The code of a source file. -/
def Code.ofFile (path text : String) : Code := ⟨languageOf path, text⟩

/-- What a loaded benchmark shows. -/
structure Loaded where
  tables : List Table
  charts : List Chart
  code : Option Code

/-- The tables, charts and code of results. -/
def Loaded.ofResults (results : Normalized) (code : Option Code) : Loaded :=
  ⟨[prettyTable results, normalizedTable results], Report.charts results, code⟩

/-- What a panel shows: nothing yet, the benchmark, or why it could not be loaded. -/
inductive Body where
  | loading
  | loaded (content : Loaded)
  | failed (message : String)

/-- The panel of one benchmark. -/
structure Panel where
  key : String
  title : String
  body : Body

/-- A part of a page. -/
inductive Section where
  | panel (panel : Panel)
  | separator

/-- A page. -/
structure Page where
  title : String
  toc : List TocEntry
  sections : List Section
  debugLog : Option (List String)

/-- Panels with one separator between neighbours. -/
def separated (panels : List Panel) : List Section :=
  (panels.map Section.panel).intersperse .separator

/-- The page of a suite. -/
def Page.assemble (suiteName : String) (toc : List TocEntry) (panels : List Panel)
    (debugLog : Option (List String)) : Page :=
  ⟨"Benchmarks: " ++ suiteName, toc, separated panels, debugLog⟩

/-- The panel in a section, if it is one. -/
def Section.panel? : Section → Option Panel
  | .panel p => some p
  | .separator => none

/-- The panels of a page, in order. -/
def Page.panels (page : Page) : List Panel := page.sections.filterMap Section.panel?

/-- The number of separators of a page. -/
def Page.separatorCount (page : Page) : Nat :=
  (page.sections.filter fun s => s.panel?.isNone).length

/-- The id of a panel's element. -/
def panelId (key : String) : String := "bm-results-" ++ key

/-! ## View data -/

/-- Code as view data. -/
def Code.toJson (code : Code) : Json :=
  .object [("language", .string code.language), ("text", .string code.text)]

/-- The members of a loaded benchmark as view data. -/
def Loaded.members (content : Loaded) : List (String × Json) :=
  [("tables", .array (content.tables.map Table.toJson)),
   ("charts", .array (content.charts.map Chart.toJson))] ++
    (content.code.map fun c => ("code", c.toJson)).toList

/-- A loaded benchmark as view data. -/
def Loaded.toJson (content : Loaded) : Json := .object content.members

/-- The body of a panel as view data. -/
def Body.toJson : Body → Json
  | .loading => .object [("state", .string "loading")]
  | .loaded content => .object (("state", .string "loaded") :: content.members)
  | .failed message => .object [("state", .string "failed"), ("message", .string message)]

/-- The members of a panel as view data. -/
def Panel.members (p : Panel) : List (String × Json) :=
  [("key", .string p.key), ("title", .string p.title), ("body", p.body.toJson)]

/-- A panel as view data. -/
def Panel.toJson (p : Panel) : Json := .object p.members

/-- A section as view data. -/
def Section.toJson : Section → Json
  | .panel p => .object (("kind", .string "panel") :: p.members)
  | .separator => .object [("kind", .string "separator")]

/-- An entry of the table of contents as view data. -/
def TocEntry.toJson (entry : TocEntry) : Json :=
  .object [("key", .string entry.key), ("desc", .string entry.description),
    ("href", .string entry.href)]

/-- A page as view data. -/
def Page.toJson (page : Page) : Json :=
  .object ([("title", .string page.title), ("toc", .array (page.toc.map TocEntry.toJson)),
      ("sections", .array (page.sections.map Section.toJson))] ++
    (page.debugLog.map fun log => ("debug_log", Json.ofStrings log)).toList)

end BenchScope.Report
