import BenchScope.Entries
import BenchScope.Text.Characters

/-!
# Benchmark suites

A suite names its benchmark groups in order. Each group has a results document and may have a source
document.
-/

namespace BenchScope

/-- One benchmark group: its name and description, and the paths of its documents. -/
structure Spec where
  name : String
  description : String
  results : String
  source : String
  deriving DecidableEq, Repr

/-- A named collection of benchmark groups, in order. -/
structure Suite where
  name : String
  groups : Entries Spec
  deriving DecidableEq, Repr

/-- A key that the suite does not define. -/
structure MissingKey where
  key : String
  deriving DecidableEq, Repr

/-- The text shown for a key that the suite does not define. -/
def MissingKey.message (e : MissingKey) : String :=
  "benchmark '" ++ e.key ++ "' is not defined in the suite"

/-- Whether the group has a source document: its path is not blank. -/
def Spec.hasSource (spec : Spec) : Bool := Text.trim spec.source ≠ ""

namespace Suite

/-- The keys in suite order. -/
def keys (suite : Suite) : List String := suite.groups.keys

/-- Whether a key is defined. -/
def has (suite : Suite) (key : String) : Bool := suite.groups.has key

/-- The group under a key. -/
def get (suite : Suite) (key : String) : Except MissingKey Spec :=
  match suite.groups.get? key with
  | some spec => .ok spec
  | none => .error ⟨key⟩

/-- A group without a name is named by its key. -/
def nameByKey (entry : String × Spec) : String × Spec :=
  if entry.2.name = "" then (entry.1, { entry.2 with name := entry.1 }) else entry

/-- The suite that a document describes: a key keeps the place of its first entry and the value of
its last one, and groups without a name are named by their keys. -/
def ofDocument (name : String) (entries : List (String × Spec)) : Suite :=
  ⟨name, (Entries.ofPairs entries).map nameByKey⟩

end Suite

end BenchScope
