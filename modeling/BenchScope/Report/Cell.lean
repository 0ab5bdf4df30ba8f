import BenchScope.Markup.Escape
import BenchScope.Results.Normalized
import BenchScope.Units

/-!
# Cell texts

A renderer turns a number or a text into what a table cell shows. A number that is absent or not
finite shows as the placeholder.
-/

namespace BenchScope.Report

/-- How a cell value becomes text. -/
inductive Renderer where
  | int
  | megas
  | fixed
  | human
  | escaped
  deriving DecidableEq, Repr

namespace Renderer

/-- The name of the renderer in view data. -/
def name : Renderer → String
  | .int => "int"
  | .megas => "megas"
  | .fixed => "fixed"
  | .human => "human"
  | .escaped => "escaped"

/-- The renderers. -/
def all : List Renderer := [.int, .megas, .fixed, .human, .escaped]

/-- The renderer with a name. -/
def ofName? (name : String) : Option Renderer := all.find? fun r => r.name == name

/-- The text of a finite number: rounded to an integer, in millions with three places, with three
places, with a unit letter, or as it is. -/
def finite (renderer : Renderer) (x : Float) : String :=
  match renderer with
  | .int => Units.displayNumber (Decimal.toPlaces x 0)
  | .megas => Units.displayNumber (Decimal.toPlaces (x / 1e6) 3)
  | .fixed => Units.displayNumber (Decimal.toPlaces x 3)
  | .human => Units.humanReadable x .decimal 3
  | .escaped => Markup.escape (Units.displayNumber x)

/-- The text of a number. -/
def number (renderer : Renderer) (x : Option Float) : String :=
  Units.displayOrPlaceholder x renderer.finite

/-- The text of a text. -/
def text (renderer : Renderer) (s : String) : String :=
  match renderer with
  | .escaped => Markup.escape s
  | _ => s

/-- The unit letter that a column title shows. -/
def unitLetter : Renderer → String
  | .megas => "M"
  | _ => ""

end Renderer

end BenchScope.Report
