import BenchScope.Decimal.Numeral
import BenchScope.Entries

/-!
# JSON values

The value type keeps the members of an object in their order, and keeps whole numbers apart from
doubles, as the documents do.
-/

namespace BenchScope

/-- A JSON value. -/
inductive Json where
  | null
  | bool (value : Bool)
  | integer (value : Int)
  | real (value : Float)
  | string (value : String)
  | array (items : List Json)
  | object (members : List (String × Json))
  deriving Inhabited

namespace Json

/-- A double as a JSON value; one that is not finite has no number text and becomes `null`. -/
def ofFloat (x : Float) : Json := if x.isFinite then .real x else .null

/-- An optional double. -/
def ofFloat? (x : Option Float) : Json := (x.map ofFloat).getD .null

/-- An optional text. -/
def ofString? (s : Option String) : Json := (s.map Json.string).getD .null

/-- A list of texts. -/
def ofStrings (items : List String) : Json := .array (items.map Json.string)

/-- A natural number. -/
def ofNat (n : Nat) : Json := .integer n

/-- A member under a name, if the value is an object that has it. -/
def get? : Json → String → Option Json
  | .object members, key => Entries.get? members key
  | _, _ => none

end Json

end BenchScope
