import BenchScope.Results.Basic
import BenchScope.Suite.Document

/-!
# Results documents

A results document is an object; its member `benchmarks` is a list of records, and every other member
is kept. In a record, `id`, `name`, `run_name` and the five metrics are known, and every other member
is kept. A known member may occur once.
-/

namespace BenchScope

open Json.Read

namespace Results

/-- A member of a record. -/
inductive RecordField where
  | id (value : Nat)
  | name (value : String)
  | runName (value : String)
  | metric (metric : Metric) (value : Option Float)
  | extra (key : String) (value : Json)

/-- A member of a results document. -/
inductive Field where
  | records (records : List (List RecordField))
  | context (key : String) (value : Json)

/-- The name of a member of a record. -/
def RecordField.key : RecordField → String
  | .id _ => "id"
  | .name _ => "name"
  | .runName _ => "run_name"
  | .metric m _ => m.column
  | .extra key _ => key

/-- Whether a member is kept as it is. -/
def RecordField.isExtra : RecordField → Bool
  | .extra _ _ => true
  | _ => false

/-- Whether a member holds the records. -/
def Field.isRecords : Field → Bool
  | .records _ => true
  | .context _ _ => false

/-- Reads one member of a record. -/
def recordField (depth : Nat) (before : List RecordField) (name : String) : Reader RecordField :=
  fun rest =>
    if before.any fun f => !f.isExtra && f.key == name then duplicate name rest
    else if name = "id" then Suite.namedField .id index rest
    else if name = "name" then Suite.namedField .name text rest
    else if name = "run_name" then Suite.namedField .runName text rest
    else match Metric.ofColumn? name with
      | some m => Suite.namedField (.metric m) optionalNumber rest
      | none => Suite.namedField (.extra name) (value depth) rest

/-- Reads the members of a record. -/
def readRecord (depth : Nat) : Reader (List RecordField) :=
  object (.record "BenchmarkRecord") depth recordField

/-- Reads one member of a results document. -/
def resultsField (depth : Nat) (before : List Field) (name : String) : Reader Field := fun rest =>
  if name = "benchmarks" then
    if before.any Field.isRecords then duplicate name rest
    else Suite.namedField .records (list depth readRecord) rest
  else Suite.namedField (.context name) (value depth) rest

/-- Reads the members of a results document, in order. -/
def readDocument (input : String) : Except Json.ReadError (List Field) :=
  document (object (.record "RawResults") maxDepth resultsField) input

/-- The record with the given members: absent texts are empty, of a repeated free member the last
value counts, in the place of the first. -/
def recordOfFields (fields : List RecordField) : Record where
  id := (fields.findSome? fun | .id n => some n | _ => none).getD 0
  name := (fields.findSome? fun | .name s => some s | _ => none).getD ""
  runName := (fields.findSome? fun | .runName s => some s | _ => none).getD ""
  metrics := .ofFn fun m =>
    (fields.findSome? fun | .metric m' x => if m' = m then some x else none | _ => none).getD none
  extra := Entries.ofPairs (fields.filterMap fun | .extra key v => some (key, v) | _ => none)

/-- The results with the given members. -/
def ofFields (fields : List Field) : Results :=
  build (Entries.ofPairs (fields.filterMap fun | .context key v => some (key, v) | _ => none))
    (((fields.findSome? fun | .records rs => some rs | _ => none).getD []).map recordOfFields)

/-- Reads a results document. -/
def parse (input : String) : Except DocumentError Results :=
  match readDocument input with
  | .ok fields => .ok (ofFields fields)
  | .error e => .error ⟨"results document", e⟩

end Results

end BenchScope
