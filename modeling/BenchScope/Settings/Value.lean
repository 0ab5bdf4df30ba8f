import BenchScope.Decimal.Numeral
import BenchScope.Decimal.Reading
import BenchScope.Text.Characters
import BenchScope.Text.Quoted

/-!
# Values of settings

A value is typed only after all layers are in place. A value of another type than the wanted one is
converted where it has a plain reading as that type.
-/

namespace BenchScope.Settings

/-- A value before it is typed. Of a table it only matters that it is one. -/
inductive Raw where
  | boolean (value : Bool)
  | integer (value : Int)
  | float (value : Float)
  | text (value : String)
  | nothing
  | sequence
  | table

/-- A value with the place it comes from, if that is known. -/
structure Sourced where
  value : Raw
  origin : Option String

/-- A value that cannot be read as the wanted type. -/
structure TypeError where
  found : String
  expected : String
  key : String
  origin : Option String
  deriving DecidableEq, Repr

/-- Why settings cannot be loaded. -/
inductive LoadError where
  | missingFile (name : String)
  | unknownFormat (name : String)
  | malformed (reason : String) (origin : String)
  | type (error : TypeError)
  deriving DecidableEq, Repr

/-- The text of a value that cannot be read as the wanted type. -/
def TypeError.message (e : TypeError) : String :=
  "invalid type: " ++ e.found ++ ", expected " ++ e.expected ++ " for key `" ++ e.key ++ "`" ++
    (e.origin.map (" in " ++ ·)).getD ""

/-- What went wrong, without saying where it went wrong. -/
def LoadError.reason : LoadError → String
  | .missingFile name => "configuration file \"" ++ name ++ "\" not found"
  | .unknownFormat name =>
    "configuration file \"" ++ name ++ "\" is not of a registered file format"
  | .malformed reason origin => reason ++ " in " ++ origin
  | .type e => e.message

/-- The text shown for settings that cannot be loaded. -/
def LoadError.message (e : LoadError) : String := "Configuration error: " ++ e.reason

/-! ## Conversions -/

/-- How a message names a value. -/
def Raw.describe : Raw → String
  | .boolean b => "boolean `" ++ (if b then "true" else "false") ++ "`"
  | .integer n => "64-bit integer `" ++ toString n ++ "`"
  | .float x => "floating point `" ++ Decimal.display x ++ "`"
  | .text s => "string " ++ Text.quoted s
  | .nothing => "unit value"
  | .sequence => "sequence"
  | .table => "map"

/-- Refuses a value. -/
def refuse {α : Type} (key : String) (found expected : String) (origin : Option String) :
    Except LoadError α := .error (.type ⟨found, expected, key, origin⟩)

/-- A value as a text. -/
def asText (key : String) (given : Sourced) : Except LoadError String :=
  match given.value with
  | .text s => .ok s
  | .boolean b => .ok (if b then "true" else "false")
  | .integer n => .ok (toString n)
  | .float x => .ok (Decimal.display x)
  | value => refuse key value.describe "a string" given.origin

/-- A value as a truth value. -/
def asBool (key : String) (given : Sourced) : Except LoadError Bool :=
  match given.value with
  | .boolean b => .ok b
  | .integer n => .ok (n ≠ 0)
  | .float x => .ok (!(x == 0))
  | .text s =>
    let s := Text.lower s
    if ["1", "true", "on", "yes"].contains s then .ok true
    else if ["0", "false", "off", "no"].contains s then .ok false
    else refuse key (Raw.text s).describe "a boolean" given.origin
  | value => refuse key value.describe "a boolean" given.origin

/-- A double as a natural number of 64 bits: rounded, halves away from zero, and cut off at the ends. -/
def naturalOf (x : Float) : Nat := (Decimal.roundHalfAway x).toUInt64.toNat

/-- A text as a natural number of 64 bits. -/
def naturalText? (s : String) : Option Nat :=
  match s.toList with
  | '-' :: _ => none
  | chars =>
    (Decimal.integer? chars).bind fun n =>
      if 0 ≤ n ∧ n < Nat.pow 2 64 then some n.toNat else none

/-- A value as a natural number of 64 bits. -/
def asNatural (key : String) (given : Sourced) : Except LoadError Nat :=
  match given.value with
  | .integer n =>
    if 0 ≤ n then .ok n.toNat
    else refuse key (Raw.integer n).describe "an unsigned 64 bit or less integer" given.origin
  | .boolean b => .ok (if b then 1 else 0)
  | .float x => .ok (naturalOf x)
  | .text s =>
    let lowered := Text.lower s
    if ["true", "on", "yes"].contains lowered then .ok 1
    else if ["false", "off", "no"].contains lowered then .ok 0
    else match naturalText? s with
      | some n => .ok n
      | none => refuse key (Raw.text s).describe "an integer" given.origin
  | value => refuse key value.describe "an integer" given.origin

/-- A value as a port number. -/
def asPort (key : String) (given : Sourced) : Except LoadError Nat :=
  match asNatural key given with
  | .error e => .error e
  | .ok n =>
    if n < Nat.pow 2 16 then .ok n
    else refuse key ("64-bit unsigned integer `" ++ toString n ++ "`") "an unsigned 16 bit integer" none

end BenchScope.Settings
