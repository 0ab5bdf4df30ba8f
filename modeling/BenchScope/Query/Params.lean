import BenchScope.Entries
import BenchScope.Query.Form
import BenchScope.Text.Characters

/-!
# Query parameters

The viewer is driven by two parameters: `bm` selects a benchmark and `dbg` turns on the debug log.
Parameters keep their order, so a query that is written again looks like the one it came from; of
several values under one name the last counts, in the place of the first.
-/

namespace BenchScope

/-- The parameters of a query, in order, one value to a name. -/
structure Query where
  pairs : Entries String
  deriving DecidableEq, Repr

namespace Query

/-- The parameter that selects a benchmark. -/
def benchmarkName : String := "bm"

/-- The parameter that turns on the debug log. -/
def debugName : String := "dbg"

/-- No parameters. -/
def empty : Query := ⟨[]⟩

/-- The text of a query without the mark in front. -/
def withoutMark : List Char → List Char
  | '?' :: rest => rest
  | text => text

/-- The value of a name. -/
def get? (query : Query) (name : String) : Option String := query.pairs.get? name

/-- The value of a name, or another text. -/
def getD (query : Query) (name fallback : String) : String := (query.get? name).getD fallback

/-- Gives a name a value, in its old place if it has one. -/
def set (query : Query) (name value : String) : Query := ⟨query.pairs.put name value⟩

/-- Removes a name. -/
def erase (query : Query) (name : String) : Query := ⟨query.pairs.erase name⟩

/-- Reads a query string, with or without the mark in front; pairs without a name are dropped. -/
def parse (text : String) : Query :=
  ⟨Entries.ofPairs ((Form.parse (withoutMark text.toList)).filter fun pair => pair.1 ≠ "")⟩

/-- Values that turn a parameter off. -/
def falsyValues : List String := ["", "0", "false", "no", "off"]

/-- Whether a name is present with a value that turns it on. -/
def isTruthy (query : Query) (name : String) : Bool :=
  match query.get? name with
  | none => false
  | some value => !falsyValues.contains (Text.lowerAscii (Text.trim value))

/-- The query string, without the mark in front. -/
def toText (query : Query) : String := Form.write query.pairs

end Query

end BenchScope
