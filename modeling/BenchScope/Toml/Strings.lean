import BenchScope.Toml.Basic

/-!
# Blanks, comments and strings

Strings in double quotes know escapes, strings in single quotes do not. In three quotes a string may
run over several lines; a line end right after the opening quotes does not count.
-/

namespace BenchScope.Toml.Scan

/-! ## Blanks, comments and line ends -/

/-- Blanks inside a line. -/
def isBlank (c : Char) : Bool := c = ' ' ∨ c = '\t'

/-- The text after blanks. -/
def skipBlanks (text : List Char) : List Char := text.dropWhile isBlank

/-- Characters that may stand in a comment or a literal: no controls but the tab. -/
def isPlain (c : Char) : Bool := c = '\t' ∨ (0x20 ≤ c.toNat ∧ c.toNat ≠ 0x7F)

/-- The text after a line end. -/
def newline? : List Char → Option (List Char)
  | '\n' :: rest => some rest
  | '\r' :: '\n' :: rest => some rest
  | _ => none

/-- The text after a comment, if there is one. -/
def skipComment : List Char → List Char
  | '#' :: rest => rest.dropWhile isPlain
  | text => text

/-- The end of a line or of the document. -/
def lineEnd (text : List Char) : Except Fault (List Char) :=
  match newline? text with
  | some rest => .ok rest
  | none => if text.isEmpty then .ok [] else .error (faultAt text)

/-- The end of a line that holds something: blanks, a comment, and a line end or the end. -/
def endOfLine (text : List Char) : Except Fault (List Char) :=
  (lineEnd (skipComment (skipBlanks text))).mapError fun f =>
    (f.expecting [.newline, .sign "#"]).final

/-- The text after blanks, line ends and comments that have a line end. -/
def skipLines : Nat → List Char → List Char
  | 0, text => text
  | fuel + 1, text =>
    let start := skipBlanks text
    match newline? (skipComment start) with
    | some rest => skipLines fuel rest
    | none => start

/-! ## Escapes -/

/-- The value of a hexadecimal digit. -/
def hexDigit? (c : Char) : Option Nat :=
  if '0' ≤ c ∧ c ≤ '9' then some (c.toNat - 0x30)
  else if 'a' ≤ c ∧ c ≤ 'f' then some (c.toNat - 0x57)
  else if 'A' ≤ c ∧ c ≤ 'F' then some (c.toNat - 0x37)
  else none

/-- The value of digits in a base of at most sixteen. -/
def inBase (base : Nat) (digits : List Char) : Nat :=
  digits.foldl (fun n c => n * base + (hexDigit? c).getD 0) 0

/-- A character by its number in a fixed count of hexadecimal digits. -/
def numbered (count : Nat) : Scanner Char := fun text =>
  let digits := text.take count
  if digits.length = count ∧ digits.all (fun c => (hexDigit? c).isSome) then
    if (inBase 16 digits).isValidChar then .ok (Char.ofNat (inBase 16 digits), text.drop count)
    else .error (faultBy .outOfRange text)
  else .error (faultAt text)

/-- The signs that may follow a backslash. -/
def escapeSigns : List Expectation := ["b", "f", "n", "r", "t", "u", "U", "\\", "\""].map .sign

/-- The place behind an unknown escape: behind its character, or before it if it is not ASCII. -/
def behindEscape (c : Char) (rest : List Char) : List Char := if c.toNat < 0x80 then rest else c :: rest

/-- What follows a backslash in a string. -/
def escape : Scanner Char := fun text =>
  match text with
  | [] => .error (faultAt text)
  | 'b' :: rest => .ok ('\x08', rest)
  | 't' :: rest => .ok ('\t', rest)
  | 'n' :: rest => .ok ('\n', rest)
  | 'f' :: rest => .ok ('\x0c', rest)
  | 'r' :: rest => .ok ('\r', rest)
  | '"' :: rest => .ok ('"', rest)
  | '\\' :: rest => .ok ('\\', rest)
  | 'u' :: rest => ((numbered 4).inPart .shortCode).final rest
  | 'U' :: rest => ((numbered 8).inPart .longCode).final rest
  | c :: rest => .error (((faultAt (behindEscape c rest)).inPart .escape).expecting escapeSigns).final

/-! ## Strings on one line -/

/-- A string on one line, after its opening quote. -/
def basic : Nat → Scanner (List Char)
  | 0, text => .error (faultAt text)
  | fuel + 1, text =>
    let unclosed := ((faultAt text).inPart .basicString).final
    match text with
    | [] => .error unclosed
    | '"' :: rest => .ok ([], rest)
    | '\\' :: rest =>
      match escape rest with
      | .error f => .error (if f.isFinal then f else unclosed)
      | .ok (c, rest) => (basic fuel rest).map fun (body, rest) => (c :: body, rest)
    | c :: rest =>
      if isPlain c then (basic fuel rest).map fun (body, rest) => (c :: body, rest)
      else .error unclosed

/-- A literal string on one line, after its opening quote. -/
def literal : Scanner (List Char) := fun text =>
  let isBody (c : Char) := isPlain c && c != '\''
  match text.dropWhile isBody with
  | '\'' :: rest => .ok (text.takeWhile isBody, rest)
  | rest => .error ((faultAt rest).inPart .literalString).final

/-! ## Strings over several lines -/

/-- Three quotes that end a string, with up to two more of them that belong to it. -/
def closing? (quote : Char) (text : List Char) : Option (List Char × List Char) :=
  let count := (text.takeWhile (· = quote)).length
  if count < 3 then none
  else
    let extra := min (count - 3) 2
    some (List.replicate extra quote, text.drop (3 + extra))

/-- The text after blanks and line ends. -/
def skipBlankLines : Nat → List Char → List Char
  | 0, text => text
  | fuel + 1, text =>
    match newline? (skipBlanks text) with
    | some rest => skipBlankLines fuel rest
    | none => skipBlanks text

/-- The text after a backslash at the end of a line: all blanks and line ends that follow. -/
def continued? (text : List Char) : Option (List Char) :=
  (newline? (skipBlanks text)).map fun rest => skipBlankLines rest.length rest

/-- Where a string with one or two quotes inside is found to be unclosed. Behind single quotes nothing
is read unless it belongs to the string, so the place is before them. -/
def unclosedQuotes? (escapes : Bool) (quote : Char) (text : List Char) : Option (List Char) :=
  match text.dropWhile (· = quote) with
  | [] => some text
  | c :: rest =>
    if escapes ∨ isPlain c ∨ (newline? (c :: rest)).isSome then none else some text

/-- A string over several lines, after its opening quotes. -/
def multiline (quote : Char) (escapes : Bool) : Nat → Scanner (List Char)
  | 0, text => .error (faultAt text)
  | fuel + 1, text =>
    let add (c : Char) (rest : List Char) :=
      (multiline quote escapes fuel rest).map fun (body, rest) => (c :: body, rest)
    match closing? quote text, newline? text with
    | some read, _ => .ok read
    | none, some rest => add '\n' rest
    | none, none =>
      match text with
      | [] => .error (faultAt text).final
      | c :: rest =>
        if c = quote then
          match unclosedQuotes? escapes quote text with
          | some place => .error (faultAt place).final
          | none => add c rest
        else if escapes ∧ c = '\\' then
          match continued? rest with
          | some rest => multiline quote escapes fuel rest
          | none =>
            match escape rest with
            | .error f => .error (if f.isFinal then f else (faultAt text).final)
            | .ok (c, rest) => add c rest
        else if isPlain c then add c rest
        else .error (faultAt text).final

/-- A line end right after opening quotes does not count. -/
def skipFirstLineEnd (text : List Char) : List Char := (newline? text).getD text

/-- A string of any of the four kinds. -/
def quotedText : Scanner String := fun text =>
  Except.map (fun (body, rest) => (String.ofList body, rest)) <|
    match text with
    | '"' :: '"' :: '"' :: rest =>
      (Scanner.inPart .basicLines (multiline '"' true (rest.length + 1))) (skipFirstLineEnd rest)
    | '\'' :: '\'' :: '\'' :: rest =>
      (Scanner.inPart .literalLines (multiline '\'' false (rest.length + 1))) (skipFirstLineEnd rest)
    | '"' :: rest => basic (rest.length + 1) rest
    | '\'' :: rest => literal rest
    | _ => .error (faultAt text)

end BenchScope.Toml.Scan
