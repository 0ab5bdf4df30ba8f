import BenchScope.FileTree
import BenchScope.Json.Reader
import BenchScope.Settings.Layer
import BenchScope.Toml.Document

/-!
# Loading settings

The settings are what three layers give: defaults, then the settings file, then the environment. A
settings file is a TOML or a JSON document; its extension tells which. The name of a file may be given
without its extension.
-/

namespace BenchScope.Settings

/-- The formats of settings files. -/
inductive FileFormat where
  | toml
  | json
  deriving DecidableEq, Repr

/-- The extensions of settings files, in the order they are tried. -/
def extensions : List (String × FileFormat) := [("toml", .toml), ("json", .json)]

/-! ## The layer of a file -/

/-- A value in a TOML file. -/
def givenByToml : Toml → Given
  | .string s => .value (.text s)
  | .integer n => .value (.integer n)
  | .float x => .value (.float x)
  | .boolean b => .value (.boolean b)
  | .moment text => .value (.text text)
  | .array _ => .value .sequence
  | .tables _ => .value .sequence
  | .table _ entries => .table entries.isEmpty

/-- A value in a JSON file that is no object; whole numbers past 63 bits are doubles. -/
def rawOfJson : Json → Raw
  | .null => .nothing
  | .bool b => .boolean b
  | .integer n => if n < Nat.pow 2 63 then .integer n else .float (UInt64.ofNat n.natAbs).toFloat
  | .real x => .float x
  | .string s => .text s
  | .array _ => .sequence
  | .object _ => .table

/-- A value in a JSON file. -/
def givenByJson : Json → Given
  | .object members => .table members.isEmpty
  | value => .value (rawOfJson value)

/-- The text for a document that is no table as a whole. -/
def notATable (found : Raw) (origin : String) : String :=
  "invalid type: " ++ found.describe ++ ", expected a map in " ++ origin

/-- The layer in the text of a file, or what is wrong with it. -/
def fileLayer (format : FileFormat) (origin text : String) : Except String (List (String × Given)) :=
  match format with
  | .toml =>
    match Toml.parse text.toList with
    | .ok entries => .ok (entries.map fun (key, value) => (key, givenByToml value))
    | .error fault => .error (fault.message text.toList)
  | .json =>
    match Json.parse text with
    | .ok (.object members) => .ok (members.map fun (key, value) => (key, givenByJson value))
    | .ok value => .error (notATable (rawOfJson value) origin)
    | .error e => .error e.message

/-! ## Finding a file -/

/-- The text in a file; bytes that are no text become the replacement character. -/
def fileText (bytes : List UInt8) : String := String.ofList (Text.Utf8.decodeLossy bytes)

/-- The format of a file by its extension. -/
def formatOf? (name : String) : Option FileFormat :=
  (Path.extension? name.toList).bind fun ext => Entries.get? extensions (String.ofList ext)

/-- A path without the parts that do not count. -/
def plainPath (name : String) : String := "/".intercalate (FileTree.namesOf name)

/-- A settings file that has been found: where it is, what it is, and what it holds. -/
structure Found where
  origin : String
  format : FileFormat
  bytes : List UInt8

/-- The file of a name with an extension. A name that ends in no name of a file has none. -/
def withExtension? (tree : FileTree) (name : String) : Option Found :=
  if (Path.fileName? name.toList).isNone then none
  else extensions.findSome? fun (ext, format) =>
    let origin := plainPath name ++ "." ++ ext
    (tree.file? origin).map fun bytes => ⟨origin, format, bytes⟩

/-- The settings file of a name: a file of this very name, or one of the name with an extension. -/
def findFile (tree : FileTree) (name : String) : Except LoadError Found :=
  match tree.file? name with
  | some bytes =>
    match formatOf? name with
    | some format => .ok ⟨plainPath name, format, bytes⟩
    | none => .error (.unknownFormat name)
  | none =>
    match withExtension? tree name with
    | some found => .ok found
    | none => .error (.missingFile name)

/-- The name of the settings file that is read if there is one. -/
def defaultFile : String := "bmxp.toml"

/-- Puts the layer of the settings file. A file that is asked for must be there. -/
def putFile (tree : FileTree) (file : Option String) (values : Entries Sourced) :
    Except LoadError (Entries Sourced) :=
  match findFile tree (file.getD defaultFile) with
  | .error e => if file.isSome then .error e else .ok values
  | .ok found =>
    match fileLayer found.format found.origin (fileText found.bytes) with
    | .error reason => .error (.malformed reason found.origin)
    | .ok layer => .ok (putAll values found.origin layer)

/-! ## All layers -/

/-- A key of the layers as the type it has in the settings. -/
def typed {α : Type} (values : Entries Sourced) (key : String)
    (convert : String → Sourced → Except LoadError α) : Except LoadError α :=
  convert key ((values.get? key).getD ⟨.nothing, none⟩)

/-- The settings that the layers give. -/
def ofLayers (values : Entries Sourced) : Except LoadError Settings := do
  return {
    dataRoot := ← typed values "data_root" asText
    specPath := ← typed values "spec_path" asText
    resultsFolder := ← typed values "results_prefix" asText
    host := ← typed values "host" asText
    port := ← typed values "port" asPort
    debug := ← typed values "debug" asBool
    outputDir := ← typed values "output_dir" asText
    staticDir := ← typed values "static_dir" asText
    settleTimeout := ← typed values "settle_timeout_ms" asNatural }

/-- Loads the settings: defaults, then the file, then the environment. -/
def load (tree : FileTree) (file : Option String) (environment : List (String × String)) :
    Except LoadError Settings := do
  let values ← putFile tree file defaults
  ofLayers (putAll values "the environment" (environmentLayer environment))

end BenchScope.Settings
