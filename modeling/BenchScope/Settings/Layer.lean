import BenchScope.Entries
import BenchScope.Settings.Basic
import BenchScope.Settings.Value

/-!
# Layers of settings

Settings come in layers: the defaults, a settings file, and environment variables that start with
`BMXP_`. A later layer replaces single values of an earlier one. A key may be a path, such as `port.x` or
`port[0]`; it then makes its first name a table or a sequence.
-/

namespace BenchScope.Settings

/-- What a layer gives under a name: a value, or a table, which sets nothing if it is empty. -/
inductive Given where
  | value (value : Raw)
  | table (isEmpty : Bool)

/-! ## Paths of names and positions -/

/-- What follows the first name in a path of names and positions. -/
inductive Selector where
  | whole
  | member
  | position
  deriving DecidableEq, Repr

/-- Characters of a name in a path. -/
def isNameChar (c : Char) : Bool := c.isAlphanum ∨ c = '_' ∨ c = '-' ∨ c = ' '

/-- Blanks around a position. -/
def isPositionBlank (c : Char) : Bool := c = ' ' ∨ c = '\t'

/-- The number of a position in a path, and the text after it. -/
def position? (text : List Char) : Option (Int × List Char) :=
  let start := text.dropWhile isPositionBlank
  let (negative, start) := if start.head? = some '-' then (true, start.drop 1) else (false, start)
  let digits := start.takeWhile Char.isDigit
  let n : Int := Decimal.natOfDigits digits
  let n := if negative then -n else n
  if digits.isEmpty ∨ n < -Nat.pow 2 63 ∨ Nat.pow 2 63 ≤ n then none
  else some (n, (start.dropWhile Char.isDigit).dropWhile isPositionBlank)

/-- One step of a path behind its first name: `.name` or `[position]`. -/
def selector? : List Char → Option (Selector × List Char)
  | '.' :: rest =>
    if (rest.takeWhile isNameChar).isEmpty then none
    else some (.member, rest.dropWhile isNameChar)
  | '[' :: rest =>
    match position? rest with
    | some (_, ']' :: rest) => some (.position, rest)
    | _ => none
  | _ => none

/-- Whether a text is a sequence of steps. -/
def areSelectors : Nat → List Char → Bool
  | _, [] => true
  | 0, _ => false
  | fuel + 1, text => (selector? text).any fun (_, rest) => areSelectors fuel rest

/-- The first name of a key, and what the rest of the key selects below it. A key that is no path is a
name as a whole. -/
def splitKey (key : String) : String × Selector :=
  let name := key.toList.takeWhile isNameChar
  let rest := key.toList.dropWhile isNameChar
  match selector? rest with
  | some (selector, _) =>
    if name.isEmpty ∨ ¬ areSelectors rest.length rest then (key, .whole)
    else (String.ofList name, selector)
  | none => (key, .whole)

/-! ## Putting layers -/

/-- Puts what a layer gives under a key. A value below a name makes the name a table or a sequence. -/
def put (values : Entries Sourced) (origin : String) (key : String) (given : Given) :
    Entries Sourced :=
  let (name, selector) := splitKey key
  let name := Text.lower name
  match selector, given with
  | .member, _ => values.put name ⟨.table, none⟩
  | .position, _ => values.put name ⟨.sequence, none⟩
  | .whole, .value raw => values.put name ⟨raw, some origin⟩
  | .whole, .table true => if values.has name then values else values.put name ⟨.table, none⟩
  | .whole, .table false => values.put name ⟨.table, none⟩

/-- Puts a whole layer. -/
def putAll (values : Entries Sourced) (origin : String) (layer : List (String × Given)) :
    Entries Sourced :=
  layer.foldl (fun values entry => put values origin entry.1 entry.2) values

/-- The defaults as a layer. -/
def defaults : Entries Sourced :=
  let d := Settings.default
  [("data_root", .text d.dataRoot), ("spec_path", .text d.specPath),
   ("results_prefix", .text d.resultsFolder), ("host", .text d.host), ("port", .integer d.port),
   ("debug", .boolean d.debug), ("output_dir", .text d.outputDir),
   ("static_dir", .text d.staticDir), ("settle_timeout_ms", .integer d.settleTimeout)].map
    fun (key, value) => (key, ⟨value, none⟩)

/-! ## The environment -/

/-- The start of the names of environment variables that count, in lower case. -/
def variableStart : String := "bmxp_"

/-- The value of a variable that is no truth value and no whole number of 64 bits. -/
def floatOrText (text : String) : Raw :=
  match Decimal.float? text.toList with
  | some x => .float x
  | none => .text text

/-- The value of an environment variable: a truth value, a whole number, a number, or else a text. -/
def variableValue (text : String) : Raw :=
  match Text.lower text with
  | "true" => .boolean true
  | "false" => .boolean false
  | _ =>
    match Decimal.integer? text.toList with
    | some n => if -Nat.pow 2 63 ≤ n ∧ n < Nat.pow 2 63 then .integer n else floatOrText text
    | none => floatOrText text

/-- The environment as a layer. -/
def environmentLayer (environment : List (String × String)) : List (String × Given) :=
  environment.filterMap fun (name, text) =>
    let name := (Text.lower name).toList
    if variableStart.toList.isPrefixOf name then
      some (String.ofList (name.drop variableStart.length), .value (variableValue text))
    else none

end BenchScope.Settings
