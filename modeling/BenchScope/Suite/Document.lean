import BenchScope.Json.Reader
import BenchScope.Json.Writer
import BenchScope.Suite.Basic

/-!
# Suite documents

A suite is an object with `name` and `benchmarks`, a group an object with `name`, `desc`, `results`
and `src`; only `results` is required, and other members are passed over. Both may also be written as
arrays of these values in this order. `Suite.parse` reads a document and `Suite.toJson` writes one.
-/

namespace BenchScope

open Json.Read

/-- A document that cannot be read, with what kind of document it is. -/
structure DocumentError where
  what : String
  error : Json.ReadError

/-- The text shown for a document that cannot be read. -/
def DocumentError.message (e : DocumentError) : String :=
  "failed to parse " ++ e.what ++ ": " ++ e.error.message

namespace Suite

/-- A member of a group. -/
inductive SpecField where
  | name (value : String)
  | description (value : String)
  | results (value : String)
  | source (value : String)
  | other

/-- A member of a suite. -/
inductive Field where
  | name (value : String)
  | groups (entries : List (String × Spec))
  | other

/-- The name of a member that a group may have once. -/
def SpecField.key? : SpecField → Option String
  | .name _ => some "name"
  | .description _ => some "desc"
  | .results _ => some "results"
  | .source _ => some "src"
  | .other => none

/-- The name of a member that a suite may have once. -/
def Field.key? : Field → Option String
  | .name _ => some "name"
  | .groups _ => some "benchmarks"
  | .other => none

/-- A member that is passed over. -/
def skipField {α : Type} (member : α) : Reader α := fun text =>
  match colon text with
  | .error e => .error e
  | .ok rest =>
    match skipValue rest with
    | .error e => .error e
    | .ok rest => .ok (member, rest)

/-- Reads a value after a colon and names it. -/
def namedField {α β : Type} (make : α → β) (reader : Reader α) : Reader β := fun text =>
  match field reader text with
  | .error e => .error e
  | .ok (value, rest) => .ok (make value, rest)

/-- Reads one member of a group. -/
def specField (before : List SpecField) (name : String) : Reader SpecField := fun rest =>
  if before.any (·.key? == some name) then duplicate name rest
  else if name = "name" then namedField .name text rest
  else if name = "desc" then namedField .description text rest
  else if name = "results" then namedField .results text rest
  else if name = "src" then namedField .source text rest
  else skipField .other rest

/-- The group with the given members, absent texts being empty; none without `results`. -/
def specOfFields? (fields : List SpecField) : Option Spec := do
  let results ← fields.findSome? fun | .results s => some s | _ => none
  return {
    name := (fields.findSome? fun | .name s => some s | _ => none).getD ""
    description := (fields.findSome? fun | .description s => some s | _ => none).getD ""
    results
    source := (fields.findSome? fun | .source s => some s | _ => none).getD "" }

/-- A group written as an array, after its bracket. -/
def specItems : Reader Spec := fun input => do
  let (name, rest) ← nextOf true text input
  let (description, rest) ← nextOf false text rest
  let (results, rest) ← nextOf false text rest
  match results with
  | none => Json.consumed (.tooShort 2 "BenchmarkSpec" 4) (rest.drop 1)
  | some results =>
    let (source, rest) ← nextOf false text rest
    let rest ← endOfList rest
    return (⟨name.getD "", description.getD "", results, source.getD ""⟩, rest)

/-- Reads a group. -/
def readSpec (depth : Nat) : Reader Spec := fun input =>
  match skipBlank input with
  | '[' :: rest =>
    match depth with
    | 0 => Json.peeked .recursionLimit ('[' :: rest)
    | _ + 1 => specItems rest
  | _ => do
    let (fields, rest) ← object (.record "BenchmarkSpec") depth (fun _ => specField) input
    match specOfFields? fields with
    | none => Json.consumed (.missingField "results") rest
    | some spec => return (spec, rest)

/-- Reads one group with its key. -/
def readEntry (depth : Nat) (_ : List (String × Spec)) (key : String) : Reader (String × Spec) :=
  namedField (key, ·) (readSpec depth)

/-- Reads the groups of a suite. -/
def readGroups (depth : Nat) : Reader (List (String × Spec)) := object .map depth readEntry

/-- Reads one member of a suite. -/
def suiteField (depth : Nat) (before : List Field) (name : String) : Reader Field := fun rest =>
  if before.any (·.key? == some name) then duplicate name rest
  else if name = "name" then namedField .name text rest
  else if name = "benchmarks" then namedField .groups (readGroups depth) rest
  else skipField .other rest

/-- The name and the groups that the members of a suite give. -/
def contentOfFields (fields : List Field) : String × List (String × Spec) :=
  ((fields.findSome? fun | .name s => some s | _ => none).getD "",
   (fields.findSome? fun | .groups entries => some entries | _ => none).getD [])

/-- A suite written as an array, after its bracket. -/
def suiteItems (depth : Nat) : Reader (String × List (String × Spec)) := fun input => do
  let (name, rest) ← nextOf true text input
  let (groups, rest) ← nextOf false (readGroups depth) rest
  let rest ← endOfList rest
  return ((name.getD "", groups.getD []), rest)

/-- Reads the name and the groups of a suite, in document order and with repeated keys. -/
def readContent (depth : Nat) : Reader (String × List (String × Spec)) := fun input =>
  match skipBlank input with
  | '[' :: rest =>
    match depth with
    | 0 => Json.peeked .recursionLimit ('[' :: rest)
    | depth + 1 => suiteItems depth rest
  | _ => do
    let (fields, rest) ← object (.record "BenchmarkSuite") depth suiteField input
    return (contentOfFields fields, rest)

/-- The name and the groups of a suite document. -/
def readDocument (input : String) : Except Json.ReadError (String × List (String × Spec)) :=
  document (readContent maxDepth) input

/-- Reads a suite document. -/
def parse (input : String) : Except DocumentError Suite :=
  match readDocument input with
  | .ok (name, entries) => .ok (ofDocument name entries)
  | .error e => .error ⟨"suite specification", e⟩

end Suite

/-- A group as JSON. -/
def Spec.toJson (spec : Spec) : Json :=
  .object [("name", .string spec.name), ("desc", .string spec.description),
    ("results", .string spec.results), ("src", .string spec.source)]

/-- A suite as JSON. -/
def Suite.toJson (suite : Suite) : Json :=
  .object [("name", .string suite.name),
    ("benchmarks", .object (suite.groups.map fun entry => (entry.1, entry.2.toJson)))]

/-- A suite as a flat list, each group with its key. -/
def Suite.listing (suite : Suite) : Json :=
  .object [("name", .string suite.name),
    ("benchmarks", .array (suite.groups.map fun entry =>
      .object [("key", .string entry.1), ("name", .string entry.2.name),
        ("desc", .string entry.2.description), ("results", .string entry.2.results),
        ("src", .string entry.2.source)]))]

end BenchScope
