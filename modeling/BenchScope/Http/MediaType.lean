import BenchScope.Http.MediaTable
import BenchScope.Path

/-!
# Media types

The media type of a file by the extension of its name. The case of the extension does not matter, nor
whether letters are joined: a character counts as the letters it folds to.
-/

namespace BenchScope.Http.MediaType

/-- The type of a file that nothing is known about. -/
def unknown : String := "application/octet-stream"

/-- The type of JSON documents. -/
def json : String := "application/json"

/-- The type of pages. -/
def page : String := "text/html; charset=utf-8"

/-- The type of plain messages. -/
def message : String := "text/plain; charset=utf-8"

/-- The characters outside of ASCII that fold to letters of ASCII. -/
def foldings : List (Char × String) :=
  [('ß', "ss"), ('ẞ', "ss"), ('ſ', "s"), ('\u212A', "k"), ('ﬀ', "ff"), ('ﬁ', "fi"), ('ﬂ', "fl"),
   ('ﬃ', "ffi"), ('ﬄ', "ffl"), ('ﬅ', "st"), ('ﬆ', "st")]

/-- The letters that a character folds to. -/
def folded (c : Char) : List Char :=
  match foldings.lookup c with
  | some letters => letters.toList
  | none => [c.toLower]

/-- The types with their extensions. -/
def known : List (String × List String) :=
  table.filterMap fun line =>
    match line.splitOn " " with
    | [] => none
    | type :: extensions => some (type, extensions)

/-- The type of files with an extension. -/
def ofExtension? (extension : String) : Option String :=
  (known.find? fun entry => entry.2.contains extension).map Prod.fst

/-- The type of a file. -/
def ofPath (path : String) : String :=
  ((Path.extension? path.toList).bind fun extension =>
    ofExtension? (String.ofList (extension.flatMap folded))).getD unknown

end BenchScope.Http.MediaType
