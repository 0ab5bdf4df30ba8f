import BenchScope.Json.Numbers
import BenchScope.Json.Strings

/-!
# Reading JSON

A reader takes the text that is left and returns a value and the text after it. Readers of typed
documents are built from three loops, which report a malformed document at the same places as the
reader of plain values does:

* `items`: the items of an array, read by one reader each;
* `members`: the members of an object; a reader is given the members before it and the name;
* `skipValue`: any value, checked for its form only and without a limit on nesting.

The first fault in document order is the one reported, whether it is one of form or of type.
-/

namespace BenchScope.Json.Read

/-- Takes text, and gives a value with the text after it. -/
abbrev Reader (α : Type) := List Char → Except Fault (α × List Char)

/-- The characters that may stand between the parts of a document. -/
def isSpace (c : Char) : Bool := c = ' ' ∨ c = '\n' ∨ c = '\t' ∨ c = '\r'

/-- The text from its first character that is no blank. -/
def skipBlank (text : List Char) : List Char := text.dropWhile isSpace

/-- How many brackets may be open at once. -/
def maxDepth : Nat := 127

/-- The letters of a word after its first one. -/
def word : List Char → List Char → Except Fault (List Char)
  | [], text => .ok text
  | _ :: _, [] => consumed .endInValue []
  | e :: expected, c :: rest =>
    if c = e then word expected rest else peeked .expectedIdent (c :: rest)

/-- The colon after a member's name. -/
def colon (text : List Char) : Except Fault (List Char) :=
  match skipBlank text with
  | ':' :: rest => .ok rest
  | [] => peeked .endInObject []
  | rest => peeked .expectedColon rest

/-- A quoted text, after its opening quote. -/
def quotedText (text : List Char) : Except Fault (String × List Char) :=
  match stringBody text with
  | .ok (body, rest) => .ok (String.ofList body, rest)
  | .error e => .error e

/-! ## Arrays and objects -/

/-- What stands in front of the next item of an array: another item follows, or the end. -/
def nextItem (first : Bool) (text : List Char) : Except Fault (Option (List Char) × List Char) :=
  match skipBlank text with
  | [] => peeked .endInList []
  | c :: rest =>
    if c = ']' then .ok (none, rest)
    else if first then .ok (some (c :: rest), c :: rest)
    else if c = ',' then
      match skipBlank rest with
      | [] => peeked .endInValue []
      | d :: tail =>
        if d = ']' then peeked .trailingComma (d :: tail) else .ok (some (d :: tail), d :: tail)
    else peeked .expectedListCommaOrEnd (c :: rest)

/-- The items of an array after its bracket, up to and with the closing one. -/
def items {α : Type} (item : Reader α) : Nat → Bool → Reader (List α)
  | 0, _, text => peeked .endInList text
  | fuel + 1, first, text =>
    match nextItem first text with
    | .error e => .error e
    | .ok (none, rest) => .ok ([], rest)
    | .ok (some start, _) =>
      match item start with
      | .error e => .error e
      | .ok (value, rest) =>
        match items item fuel false rest with
        | .error e => .error e
        | .ok (values, rest) => .ok (value :: values, rest)

/-- The name of the next member of an object, or the end of the object. -/
def nextName (first : Bool) (text : List Char) : Except Fault (Option String × List Char) :=
  match skipBlank text with
  | [] => peeked .endInObject []
  | c :: rest =>
    if c = '}' then .ok (none, rest)
    else if ¬ first ∧ c ≠ ',' then peeked .expectedObjectCommaOrEnd (c :: rest)
    else
      match (if first then c :: rest else skipBlank rest) with
      | [] => peeked .endInValue []
      | d :: tail =>
        if d = '"' then
          match quotedText tail with
          | .error e => .error e
          | .ok (name, after) => .ok (some name, after)
        else if d = '}' then peeked .trailingComma (d :: tail)
        else peeked .keyMustBeString (d :: tail)

/-- The members of an object after its bracket, up to and with the closing one. `member` gets the
members before it and the name, and reads on from the end of the name. -/
def members {α : Type} (member : List α → String → Reader α) :
    Nat → List α → Reader (List α)
  | 0, _, text => peeked .endInObject text
  | fuel + 1, before, text =>
    match nextName before.isEmpty text with
    | .error e => .error e
    | .ok (none, rest) => .ok (before, rest)
    | .ok (some name, rest) =>
      match member before name rest with
      | .error e => .error e
      | .ok (value, rest) => members member fuel (before ++ [value]) rest

/-- Refuses the second member of one name. The place is behind the name, and behind the bracket if
the object ends there. -/
def duplicate {α : Type} (name : String) (text : List Char) : Except Fault α :=
  match skipBlank text with
  | '}' :: rest => consumed (.duplicateField name) rest
  | rest => consumed (.duplicateField name) rest

/-! ## Plain values -/

/-- A value that is no array and no object, by its first character; `text` starts with it. -/
def scalar (text : List Char) : Except Fault (Json × List Char) :=
  match text with
  | [] => peeked .endInValue []
  | c :: rest =>
    if c = 'n' then (word ['u', 'l', 'l'] rest).map fun rest => (.null, rest)
    else if c = 't' then (word ['r', 'u', 'e'] rest).map fun rest => (.bool true, rest)
    else if c = 'f' then (word ['a', 'l', 's', 'e'] rest).map fun rest => (.bool false, rest)
    else if c = '-' then number true rest
    else if c.isDigit then number false text
    else if c = '"' then (quotedText rest).map fun read => (.string read.1, read.2)
    else peeked .expectedValue text

/-- One member of a plain object. -/
def plainMember (value : Reader Json) (_ : List (String × Json)) (name : String) :
    Reader (String × Json) := fun text =>
  match colon text with
  | .error e => .error e
  | .ok rest =>
    match value rest with
    | .error e => .error e
    | .ok (v, rest) => .ok ((name, v), rest)

/-- A value with at most `depth` brackets open at once. Every bracket and every item takes a
character, so the length of the text is enough fuel. -/
def valueWithin : Nat → Nat → Reader Json
  | 0, _, text => peeked .endInValue text
  | fuel + 1, depth, text =>
    match skipBlank text with
    | '[' :: rest =>
      match depth with
      | 0 => peeked .recursionLimit ('[' :: rest)
      | depth + 1 =>
        match items (valueWithin fuel depth) (fuel + 1) true rest with
        | .error e => .error e
        | .ok (values, rest) => .ok (.array values, rest)
    | '{' :: rest =>
      match depth with
      | 0 => peeked .recursionLimit ('{' :: rest)
      | depth + 1 =>
        match members (plainMember (valueWithin fuel depth)) (fuel + 1) [] rest with
        | .error e => .error e
        | .ok (pairs, rest) => .ok (.object (Entries.ofPairs pairs), rest)
    | rest => scalar rest

/-- A value at a place where `depth` more brackets may be opened. -/
def value (depth : Nat) : Reader Json := fun text => valueWithin (text.length + 1) depth text

/-! ## Typed values -/

/-- The kind of value that stands where another one is expected. A scalar is read to its end; a
bracket is only looked at. -/
def found (text : List Char) : Except Fault (Found × List Char) :=
  match text with
  | '[' :: _ => .ok (.sequence, text)
  | '{' :: _ => .ok (.map, text)
  | _ =>
    match scalar text with
    | .error e => .error e
    | .ok (.null, rest) => .ok (.null, rest)
    | .ok (.bool b, rest) => .ok (.bool b, rest)
    | .ok (.integer n, rest) => .ok (.integer n, rest)
    | .ok (.real x, rest) => .ok (.real x, rest)
    | .ok (.string s, rest) => .ok (.text s, rest)
    | .ok (_, rest) => .ok (.null, rest)

/-- Refuses a value of another kind than the expected one. -/
def mismatch {α : Type} (expected : Expected) (text : List Char) : Except Fault α :=
  match found text with
  | .error e => .error e
  | .ok (kind, rest) => consumed (.invalidType kind expected) rest

/-- A text. -/
def text : Reader String := fun input =>
  match skipBlank input with
  | '"' :: rest => quotedText rest
  | rest => mismatch .text rest

/-- Whether a text starts like a number. -/
def startsNumber (text : List Char) : Bool :=
  (text.head?.map fun c => c == '-' || c.isDigit).getD false

/-- A number as a double, or `null`. -/
def optionalNumber : Reader (Option Float) := fun input =>
  let input := skipBlank input
  match input with
  | 'n' :: rest => (word ['u', 'l', 'l'] rest).map fun rest => (none, rest)
  | _ =>
    if startsNumber input then
      match scalar input with
      | .error e => .error e
      | .ok (.integer n, rest) =>
        .ok (some (Decimal.signed (decide (n < 0)) (UInt64.ofNat n.natAbs).toFloat), rest)
      | .ok (.real x, rest) => .ok (some x, rest)
      | .ok (_, rest) => .ok (none, rest)
    else mismatch .number input

/-- A natural number that fits 64 bits. -/
def index : Reader Nat := fun input =>
  let input := skipBlank input
  if startsNumber input then
    match scalar input with
    | .error e => .error e
    | .ok (.integer n, rest) =>
      if 0 ≤ n then .ok (n.toNat, rest) else consumed (.invalidValue n .index) rest
    | .ok (.real x, rest) => consumed (.invalidType (.real x) .index) rest
    | .ok (_, rest) => .ok (0, rest)
  else mismatch .index input

/-- An array whose items one reader reads. -/
def list {α : Type} (depth : Nat) (item : Nat → Reader α) : Reader (List α) := fun input =>
  match skipBlank input with
  | '[' :: rest =>
    match depth with
    | 0 => peeked .recursionLimit ('[' :: rest)
    | depth + 1 => items (item depth) (rest.length + 1) true rest
  | rest => mismatch .sequence rest

/-- An object whose members one reader reads. -/
def object {α : Type} (expected : Expected) (depth : Nat)
    (member : Nat → List α → String → Reader α) : Reader (List α) := fun input =>
  match skipBlank input with
  | '{' :: rest =>
    match depth with
    | 0 => peeked .recursionLimit ('{' :: rest)
    | depth + 1 => members (member depth) (rest.length + 1) [] rest
  | rest => mismatch expected rest

/-- A colon and then a value. -/
def field {α : Type} (reader : Reader α) : Reader α := fun text =>
  match colon text with
  | .error e => .error e
  | .ok rest => reader rest

/-- The end of an array all of whose items have been read. -/
def endOfList (text : List Char) : Except Fault (List Char) :=
  match skipBlank text with
  | [] => peeked .endInList []
  | c :: rest =>
    if c = ']' then .ok rest
    else if c = ',' then
      match skipBlank rest with
      | ']' :: tail => peeked .trailingComma (']' :: tail)
      | tail => peeked .trailingCharacters tail
    else peeked .trailingCharacters (c :: rest)

/-- The next item of an array with a fixed number of items; none at the end, where the text still
starts with the bracket. -/
def nextOf {α : Type} (first : Bool) (item : Reader α) : Reader (Option α) := fun text =>
  match nextItem first text with
  | .error e => .error e
  | .ok (none, rest) => .ok (none, ']' :: rest)
  | .ok (some start, _) =>
    match item start with
    | .error e => .error e
    | .ok (value, rest) => .ok (some value, rest)

/-! ## Values that are not kept -/

/-- The kind of an open bracket. -/
inductive Bracket where
  | list
  | object
  deriving DecidableEq

/-- Where the checker stands: in front of a value, or in a bracket, where a comma may follow. -/
inductive Stage where
  | value
  | within (comma : Bool)

/-- Passes over a value that is no array and no object. -/
def skipScalar (text : List Char) : Except Fault (List Char) :=
  match text with
  | [] => peeked .endInValue []
  | c :: rest =>
    if c = 'n' then word ['u', 'l', 'l'] rest
    else if c = 't' then word ['r', 'u', 'e'] rest
    else if c = 'f' then word ['a', 'l', 's', 'e'] rest
    else if c = '-' then skipNumber rest
    else if c.isDigit then skipNumber text
    else if c = '"' then skipString rest
    else peeked .expectedValue text

/-- Passes over the name of a member and its colon. -/
def skipName (text : List Char) : Except Fault (List Char) :=
  match skipBlank text with
  | [] => peeked .endInObject []
  | '"' :: rest =>
    match skipString rest with
    | .error e => .error e
    | .ok after => colon after
  | rest => peeked .keyMustBeString rest

/-- In front of the next value inside a bracket: an object has a name and a colon there. -/
def beforeValue (bracket : Bracket) (text : List Char) : Except Fault (List Char) :=
  match bracket with
  | .list => .ok text
  | .object => skipName text

/-- Passes over a value with brackets of any depth. -/
def skipWithin : Nat → List Bracket → Stage → List Char → Except Fault (List Char)
  | 0, _, _, text => peeked .endInValue text
  | fuel + 1, outer, .value, text =>
    match skipBlank text with
    | '[' :: rest => skipWithin fuel (.list :: outer) (.within false) rest
    | '{' :: rest => skipWithin fuel (.object :: outer) (.within false) rest
    | rest =>
      match skipScalar rest with
      | .error e => .error e
      | .ok rest => skipWithin fuel outer (.within true) rest
  | _ + 1, [], .within _, text => .ok text
  | fuel + 1, bracket :: outer, .within comma, text =>
    match skipBlank text with
    | [] => peeked (if bracket = .list then .endInList else .endInObject) []
    | c :: rest =>
      if comma ∧ c = ',' then
        match beforeValue bracket rest with
        | .error e => .error e
        | .ok rest => skipWithin fuel (bracket :: outer) .value rest
      else if (bracket = .list ∧ c = ']') ∨ (bracket = .object ∧ c = '}') then
        skipWithin fuel outer (.within true) rest
      else if comma then
        peeked (if bracket = .list then .expectedListCommaOrEnd else .expectedObjectCommaOrEnd)
          (c :: rest)
      else
        match beforeValue bracket (c :: rest) with
        | .error e => .error e
        | .ok rest => skipWithin fuel (bracket :: outer) .value rest

/-- Passes over a value of any form and depth. -/
def skipValue (text : List Char) : Except Fault (List Char) :=
  skipWithin (2 * text.length + 2) [] .value text

/-! ## Whole documents -/

/-- Reads a document with nothing but blanks after its value. -/
def document {α : Type} (reader : Reader α) (input : String) : Except ReadError α :=
  let chars := input.toList
  match reader chars with
  | .error fault => .error (fault.locate chars)
  | .ok (value, rest) =>
    match skipBlank rest with
    | [] => .ok value
    | rest => .error (Fault.locate chars ⟨.trailingCharacters, Text.Utf8.size rest - 1⟩)

end BenchScope.Json.Read

/-- Reads a document of any shape. -/
def BenchScope.Json.parse (input : String) : Except BenchScope.Json.ReadError BenchScope.Json :=
  BenchScope.Json.Read.document (BenchScope.Json.Read.value BenchScope.Json.Read.maxDepth) input
