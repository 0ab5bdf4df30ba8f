import BenchScope.Json.Value
import BenchScope.Text.Quoted
import BenchScope.Text.Bytes

/-!
# What is wrong with a JSON document

A `Fault` is a cause together with the number of bytes of the document after the place it is
reported at. `Fault.locate` turns the place into a line and a column; `ReadError.message` is the
text shown to the user.
-/

namespace BenchScope.Json

/-- The kind of value that a document has where another kind is expected. -/
inductive Found where
  | null
  | bool (value : Bool)
  | integer (value : Int)
  | real (value : Float)
  | text (value : String)
  | sequence
  | map

/-- The kind of value that a reader expects. -/
inductive Expected where
  | text
  | map
  | sequence
  | number
  | index
  | record (name : String)

/-- Why a document is refused. -/
inductive Cause where
  | endInValue
  | endInList
  | endInObject
  | endInString
  | expectedColon
  | expectedListCommaOrEnd
  | expectedObjectCommaOrEnd
  | keyMustBeString
  | trailingComma
  | trailingCharacters
  | expectedValue
  | expectedIdent
  | recursionLimit
  | invalidNumber
  | numberOutOfRange
  | invalidEscape
  | loneSurrogate
  | unexpectedEndOfHexEscape
  | controlCharacter
  | invalidType (found : Found) (expected : Expected)
  | invalidValue (value : Int) (expected : Expected)
  | missingField (name : String)
  | duplicateField (name : String)
  | tooShort (length : Nat) (record : String) (fields : Nat)

/-- A cause, and how many bytes of the document follow the place it is reported at. -/
structure Fault where
  cause : Cause
  left : Nat

/-- A cause at a line and a column; both count from the start of the document, lines from one, and
the column is the number of bytes since the last line feed. -/
structure ReadError where
  cause : Cause
  line : Nat
  column : Nat

/-- How a message names what it found. -/
def Found.describe : Found → String
  | .null => "null"
  | .bool b => "boolean `" ++ (if b then "true" else "false") ++ "`"
  | .integer n => "integer `" ++ toString n ++ "`"
  | .real x => "floating point `" ++ Decimal.interchange x ++ "`"
  | .text s => "string " ++ Text.quoted s
  | .sequence => "sequence"
  | .map => "map"

/-- How a message names what it expected. -/
def Expected.describe : Expected → String
  | .text => "a string"
  | .map => "a map"
  | .sequence => "a sequence"
  | .number => "f64"
  | .index => "usize"
  | .record name => "struct " ++ name

/-- The text of a cause. -/
def Cause.describe : Cause → String
  | .endInValue => "EOF while parsing a value"
  | .endInList => "EOF while parsing a list"
  | .endInObject => "EOF while parsing an object"
  | .endInString => "EOF while parsing a string"
  | .expectedColon => "expected `:`"
  | .expectedListCommaOrEnd => "expected `,` or `]`"
  | .expectedObjectCommaOrEnd => "expected `,` or `\x7d`"
  | .keyMustBeString => "key must be a string"
  | .trailingComma => "trailing comma"
  | .trailingCharacters => "trailing characters"
  | .expectedValue => "expected value"
  | .expectedIdent => "expected ident"
  | .recursionLimit => "recursion limit exceeded"
  | .invalidNumber => "invalid number"
  | .numberOutOfRange => "number out of range"
  | .invalidEscape => "invalid escape"
  | .loneSurrogate => "lone leading surrogate in hex escape"
  | .unexpectedEndOfHexEscape => "unexpected end of hex escape"
  | .controlCharacter => "control character (\\u0000-\\u001F) found while parsing a string"
  | .invalidType found expected =>
    "invalid type: " ++ found.describe ++ ", expected " ++ expected.describe
  | .invalidValue value expected =>
    "invalid value: integer `" ++ toString value ++ "`, expected " ++ expected.describe
  | .missingField name => "missing field `" ++ name ++ "`"
  | .duplicateField name => "duplicate field `" ++ name ++ "`"
  | .tooShort length record fields =>
    "invalid length " ++ toString length ++ ", expected struct " ++ record ++ " with " ++
      toString fields ++ " elements"

/-- The text of an error, with its place. -/
def ReadError.message (e : ReadError) : String :=
  e.cause.describe ++ " at line " ++ toString e.line ++ " column " ++ toString e.column

/-- Line and column after `bytes` bytes of a document, counted on from a line and a column. -/
def position : List Char → Nat → Nat → Nat → Nat × Nat
  | [], _, line, column => (line, column)
  | c :: rest, bytes, line, column =>
    if bytes = 0 then (line, column)
    else if c = '\n' then position rest (bytes - 1) (line + 1) 0
    else if bytes < c.utf8Size then (line, column + bytes)
    else position rest (bytes - c.utf8Size) line (column + c.utf8Size)

/-- The place of a fault in its document. -/
def Fault.locate (document : List Char) (fault : Fault) : ReadError :=
  let (line, column) := position document (Text.Utf8.size document - fault.left) 1 0
  ⟨fault.cause, line, column⟩

/-- Reports a cause at what has been consumed when `rest` is left. -/
def consumed {α : Type} (cause : Cause) (rest : List Char) : Except Fault α :=
  .error ⟨cause, Text.Utf8.size rest⟩

/-- Reports a cause one byte further, where the byte that is looked at ends. -/
def peeked {α : Type} (cause : Cause) (rest : List Char) : Except Fault α :=
  .error ⟨cause, Text.Utf8.size rest - 1⟩

end BenchScope.Json
