import BenchScope.Report.Html
import BenchScope.Report.Summary
import BenchScope.Text.Characters

/-!
# Report files

A report is written into a directory: the page, the summary, or both, and in any case the view data.
-/

namespace BenchScope.Report

/-- Which report files are written beside the view data. -/
inductive Format where
  | html
  | markdown
  | both
  deriving DecidableEq, Repr

namespace Format

/-- The name of a format. -/
def name : Format → String
  | .html => "html"
  | .markdown => "markdown"
  | .both => "both"

/-- The text shown for an unknown format. -/
def unknownMessage (text : String) : String :=
  "unknown report format '" ++ Text.lowerAscii text ++ "' (expected html, markdown or both)"

/-- The format with a name, in any case of its ASCII letters. -/
def ofName? (text : String) : Option Format :=
  match Text.lowerAscii text with
  | "html" => some .html
  | "markdown" => some .markdown
  | "md" => some .markdown
  | "both" => some .both
  | _ => none

/-- Whether the page is written. -/
def hasPage (format : Format) : Bool := format ≠ .markdown

/-- Whether the summary is written. -/
def hasSummary (format : Format) : Bool := format ≠ .html

end Format

/-- The names and contents of the files of a report, in the order they are written. -/
def files (page : Page) (format : Format) (assetBase generated : String) : List (String × String) :=
  (if format.hasPage then [("index.html", Html.render page assetBase)] else []) ++
  (if format.hasSummary then [("summary.md", Summary.render page generated)] else []) ++
  [("view.json", page.toJson.pretty)]

end BenchScope.Report
