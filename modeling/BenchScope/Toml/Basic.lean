/-!
# TOML values, and what is wrong with a document

A table remembers how it came to be, because that decides what may be added to it later: a table written
in one line is closed, one opened by a header may not be opened again, and dotted keys may only extend
tables that dotted keys have made.

A scanner takes text and gives a value with the text after it, or a fault. A fault tells the text that is
left where the scanner stood still, the innermost part of the document that could not be read, what was
expected there, and a cause if the part is well formed but means nothing. A fault that is not final leaves
it open to read the text in another way. `Fault.message` shows the line that the fault is in.
-/

namespace BenchScope

/-! ## Values -/

/-- How a table came to be: written in one line, implied by a longer header, made by a dotted key, or
opened by a header. -/
inductive TableForm where
  | inline
  | implied
  | dotted
  | header
  deriving DecidableEq, Repr

/-- A TOML value. Dates and times are kept as text. -/
inductive Toml where
  | string (value : String)
  | integer (value : Int)
  | float (value : Float)
  | boolean (value : Bool)
  | moment (text : String)
  | array (items : List Toml)
  | table (form : TableForm) (entries : List (String × Toml))
  | tables (items : List (List (String × Toml)))
  deriving Inhabited

/-- How a message names the kind of a value. -/
def Toml.kind : Toml → String
  | .string _ => "string"
  | .integer _ => "integer"
  | .float _ => "float"
  | .boolean _ => "boolean"
  | .moment _ => "datetime"
  | .array _ => "array"
  | .table .inline _ => "inline table"
  | .table _ _ => "table"
  | .tables _ => "array of tables"

namespace Toml

/-! ## Faults -/

/-- Parts of a document that a message can name. -/
inductive Part where
  | key
  | header
  | value
  | basicString
  | literalString
  | basicLines
  | literalLines
  | escape
  | shortCode
  | longCode
  | integer
  | hexadecimal
  | octal
  | binary
  | float
  | moment
  | time
  | offset
  | array
  | inlineTable
  deriving DecidableEq, Repr

/-- How a message names a part. A value that starts like none at all counts as a string without its
quotes. -/
def Part.name : Part → String
  | .key => "key"
  | .header => "table header"
  | .value => "string"
  | .basicString => "basic string"
  | .literalString => "literal string"
  | .basicLines => "multiline basic string"
  | .literalLines => "multiline literal string"
  | .escape => "escape sequence"
  | .shortCode => "unicode 4-digit hex code"
  | .longCode => "unicode 8-digit hex code"
  | .integer => "integer"
  | .hexadecimal => "hexadecimal integer"
  | .octal => "octal integer"
  | .binary => "binary integer"
  | .float => "floating-point number"
  | .moment => "date-time"
  | .time => "time"
  | .offset => "time offset"
  | .array => "array"
  | .inlineTable => "inline table"

/-- What can be expected at a place. -/
inductive Expectation where
  | sign (text : String)
  | newline
  | digit
  | leadingDigit
  deriving DecidableEq, Repr

/-- How a message names what was expected. -/
def Expectation.name : Expectation → String
  | .sign text => "\x60" ++ text ++ "\x60"
  | .newline => "newline"
  | .digit => "digit"
  | .leadingDigit => "leading digit"

/-- Why a part of a document that is well formed means nothing. -/
inductive Cause where
  | tooLarge
  | tooSmall
  | outOfRange
  | tooDeep
  | duplicate (key : String) (table : Option (List String))
  | notATable (path : List String) (kind : String)
  deriving DecidableEq, Repr

/-- Names with dots between them. -/
def dotted (path : List String) : String := ".".intercalate path

/-- The text of a cause. -/
def Cause.message : Cause → String
  | .tooLarge => "number too large to fit in target type"
  | .tooSmall => "number too small to fit in target type"
  | .outOfRange => "value is out of range"
  | .tooDeep => "recursion limit exceeded"
  | .duplicate key none => "duplicate key \x60" ++ key ++ "\x60"
  | .duplicate key (some []) => "duplicate key \x60" ++ key ++ "\x60 in document root"
  | .duplicate key (some path) =>
    "duplicate key \x60" ++ key ++ "\x60 in table \x60" ++ dotted path ++ "\x60"
  | .notATable path kind =>
    "dotted key \x60" ++ dotted path ++ "\x60 attempted to extend non-table type (" ++ kind ++ ")"

/-- What is wrong, and the text that is left where it is. -/
structure Fault where
  rest : List Char
  isFinal : Bool
  part : Option Part
  expected : List Expectation
  cause : Option Cause
  deriving Repr

/-- A fault that says no more than where it is. -/
def faultAt (rest : List Char) : Fault := ⟨rest, false, none, [], none⟩

/-- A fault with a cause. -/
def faultBy (cause : Cause) (rest : List Char) : Fault := { faultAt rest with cause := some cause }

namespace Fault

/-- A fault that is final. -/
def final (f : Fault) : Fault := { f with isFinal := true }

/-- A fault in a part; a part inside it that is named already stays. -/
def inPart (part : Part) (f : Fault) : Fault := { f with part := f.part.or (some part) }

/-- A fault with more that was expected. -/
def expecting (expected : List Expectation) (f : Fault) : Fault :=
  { f with expected := f.expected ++ expected }

end Fault

/-! ## Scanners -/

/-- Takes text, and gives a value with the text after it. -/
abbrev Scanner (α : Type) := List Char → Except Fault (α × List Char)

namespace Scanner

variable {α β : Type}

/-- A scanner whose faults are final. -/
def final (s : Scanner α) : Scanner α := fun text => (s text).mapError Fault.final

/-- A scanner whose faults are in a part. -/
def inPart (part : Part) (s : Scanner α) : Scanner α := fun text => (s text).mapError (Fault.inPart part)

/-- A scanner that tells what it expects. -/
def expecting (expected : List Expectation) (s : Scanner α) : Scanner α := fun text =>
  (s text).mapError (Fault.expecting expected)

/-- Tries another scanner unless the fault is final. -/
def orElse (s t : Scanner α) : Scanner α := fun text =>
  match s text with
  | .error f => if f.isFinal then .error f else t text
  | .ok read => .ok read

/-- A value that may be left out. -/
def optional (s : Scanner α) : Scanner (Option α) := fun text =>
  match s text with
  | .error f => if f.isFinal then .error f else .ok (none, text)
  | .ok (value, rest) => .ok (some value, rest)

/-- A value that is what was read. -/
def map (g : α → β) (s : Scanner α) : Scanner β := fun text =>
  (s text).map fun (value, rest) => (g value, rest)

/-- A value that must have a meaning; if it has none, the fault is at its start. -/
def meaning (g : α → Except Cause β) (s : Scanner α) : Scanner β := fun text => do
  let (value, rest) ← s text
  match g value with
  | .ok value => .ok (value, rest)
  | .error cause => .error (faultBy cause text)

/-- One character of a class. -/
def one (p : Char → Bool) : Scanner Char := fun text =>
  match text with
  | c :: rest => if p c then .ok (c, rest) else .error (faultAt text)
  | [] => .error (faultAt text)

/-- A given character. -/
def char (c : Char) : Scanner Char := one (· == c)

/-- Values with a sign between them, until no further one can be read. A sign that nothing follows is not
taken. -/
def separated (item : Scanner α) (sign : Char) : Nat → Scanner (List α)
  | 0, text => .ok ([], text)
  | fuel + 1, text =>
    match item text with
    | .error f => if f.isFinal then .error f else .ok ([], text)
    | .ok (value, rest) =>
      match rest with
      | [] => .ok ([value], rest)
      | c :: more =>
        if c ≠ sign then .ok ([value], rest)
        else match separated item sign fuel more with
          | .error f => .error f
          | .ok ([], _) => .ok ([value], rest)
          | .ok (values, rest) => .ok (value :: values, rest)

end Scanner

/-! ## Messages -/

/-- What is wrong, in up to three lines: the part, what was expected, and the cause. -/
def Fault.reason (f : Fault) : String :=
  "\n".intercalate
    ((f.part.map fun part => "invalid " ++ part.name).toList ++
      (if f.expected.isEmpty then [] else
        ["expected " ++ ", ".intercalate (f.expected.map Expectation.name)]) ++
      (f.cause.map Cause.message).toList)

/-- A place in a document: the line and the column, both counted from zero, and the number of bytes of
the character there. The end of a document belongs to its last line. In front of a character of several
bytes columns are counted in bytes. -/
structure Spot where
  line : Nat
  column : Nat
  width : Nat

/-- The number of bytes of a text. -/
def byteLength (text : List Char) : Nat := (text.map Char.utf8Size).foldl (· + ·) 0

/-- The last line of a text. -/
def lastLine (text : List Char) : List Char := (text.reverse.takeWhile (· ≠ '\n')).reverse

/-- The place in a document before the text that is left. -/
def spotOf (document rest : List Char) : Spot :=
  let before := document.take (document.length - rest.length)
  match rest with
  | c :: _ =>
    let line := lastLine before
    ⟨before.count '\n', if c.utf8Size = 1 then line.length else byteLength line, c.utf8Size⟩
  | [] =>
    let before := before.dropLast
    ⟨before.count '\n', if document.isEmpty then 0 else (lastLine before).length + 1, 1⟩

/-- A number of blanks. -/
def blanks (count : Nat) : String := String.ofList (List.replicate count ' ')

/-- The lines of a text. -/
def splitLines : List Char → List (List Char)
  | [] => [[]]
  | c :: rest =>
    match splitLines rest with
    | [] => [[c]]
    | line :: more => if c = '\n' then [] :: line :: more else (c :: line) :: more

/-- The text shown for a fault, with the line it is in and a mark below its place. -/
def Fault.message (f : Fault) (document : List Char) : String :=
  let spot := spotOf document f.rest
  let number := toString (spot.line + 1)
  let gutter := blanks (number.length + 1) ++ "|"
  let content := String.ofList ((splitLines document)[spot.line]?.getD [])
  "TOML parse error at line " ++ number ++ ", column " ++ toString (spot.column + 1) ++ "\n" ++
    gutter ++ "\n" ++
    number ++ " | " ++ content ++ "\n" ++
    gutter ++ blanks (spot.column + 1) ++ String.ofList (List.replicate spot.width '^') ++ "\n" ++
    f.reason ++ "\n"

end Toml

end BenchScope
