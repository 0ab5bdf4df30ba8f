import BenchScope.Json.Value

/-!
# Writing JSON

`compact` writes without any blank. `pretty` puts each item on a line of its own, indented by two
blanks a level; an empty array or object stays on one line.
-/

namespace BenchScope.Json

/-- A digit of a character number, in lower case. -/
def hexDigit (n : Nat) : Char := (Nat.digitChar (n % 16))

/-- One character between quotes: quotes, backslashes and controls are escaped. -/
def escapeChar (c : Char) : List Char :=
  if c = '"' then ['\\', '"']
  else if c = '\\' then ['\\', '\\']
  else if c = '\n' then ['\\', 'n']
  else if c = '\r' then ['\\', 'r']
  else if c = '\t' then ['\\', 't']
  else if c.toNat = 8 then ['\\', 'b']
  else if c.toNat = 12 then ['\\', 'f']
  else if c.toNat < 32 then
    ['\\', 'u', '0', '0', hexDigit (c.toNat / 16), hexDigit c.toNat]
  else [c]

/-- A text between quotes. -/
def quote (text : String) : List Char := '"' :: (text.toList.flatMap escapeChar ++ ['"'])

/-- The text of a whole number. -/
def integerChars (n : Int) : List Char :=
  Decimal.sign (decide (n < 0)) ++ Decimal.digitsOf n.natAbs

/-- Values without items in them. -/
def scalarChars : Json → List Char
  | .null => ['n', 'u', 'l', 'l']
  | .bool true => ['t', 'r', 'u', 'e']
  | .bool false => ['f', 'a', 'l', 's', 'e']
  | .integer n => integerChars n
  | .real x => Decimal.interchangeChars x
  | .string s => quote s
  | .array _ => ['[', ']']
  | .object _ => ['{', '}']

mutual

/-- A value without blanks. -/
def compactChars : Json → List Char
  | .array items => '[' :: (compactItems items ++ [']'])
  | .object members => '{' :: (compactMembers members ++ ['}'])
  | value => scalarChars value

/-- Items with commas between them. -/
def compactItems : List Json → List Char
  | [] => []
  | [item] => compactChars item
  | item :: items => compactChars item ++ ',' :: compactItems items

/-- Members with commas between them. -/
def compactMembers : List (String × Json) → List Char
  | [] => []
  | [(key, value)] => quote key ++ ':' :: compactChars value
  | (key, value) :: members =>
    quote key ++ ':' :: (compactChars value ++ ',' :: compactMembers members)

end

/-- A value on one line without blanks. -/
def compact (value : Json) : String := String.ofList (compactChars value)

/-- The start of a line at a level of indentation. -/
def newLine (level : Nat) : List Char := '\n' :: List.replicate (2 * level) ' '

mutual

/-- A value whose items stand at the level below `level`. -/
def prettyChars (level : Nat) : Json → List Char
  | .array (item :: items) =>
    '[' :: (prettyItems (level + 1) (item :: items) ++ newLine level ++ [']'])
  | .object (member :: members) =>
    '{' :: (prettyMembers (level + 1) (member :: members) ++ newLine level ++ ['}'])
  | value => scalarChars value

/-- Items on lines of their own. -/
def prettyItems (level : Nat) : List Json → List Char
  | [] => []
  | [item] => newLine level ++ prettyChars level item
  | item :: items => newLine level ++ prettyChars level item ++ ',' :: prettyItems level items

/-- Members on lines of their own. -/
def prettyMembers (level : Nat) : List (String × Json) → List Char
  | [] => []
  | [(key, value)] => newLine level ++ quote key ++ ':' :: ' ' :: prettyChars level value
  | (key, value) :: members =>
    newLine level ++ quote key ++
      ':' :: ' ' :: (prettyChars level value ++ ',' :: prettyMembers level members)

end

/-- A value with each item on its own line. -/
def pretty (value : Json) : String := String.ofList (prettyChars 0 value)

end BenchScope.Json
