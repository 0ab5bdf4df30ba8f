import BenchScope.Toml.Moments
import BenchScope.Toml.Tables

/-!
# TOML documents

`Toml.parse` reads a whole document into the entries of its root table. The document is read line by
line: comments, headers that open tables, and keys with values that are added to the table opened last.
-/

namespace BenchScope.Toml

namespace Scan

/-! ## Keys -/

/-- The number of names in a key, and of brackets open at once, that is too large. -/
def depthLimit : Nat := 80

/-- One name of a key. -/
def keyName : Scanner String := fun text =>
  match text with
  | '"' :: rest => ((basic (rest.length + 1)).map String.ofList) rest
  | '\'' :: rest => (literal.map String.ofList) rest
  | _ =>
    let name := text.takeWhile isKeyChar
    if name.isEmpty then .error (faultAt text)
    else .ok (String.ofList name, text.dropWhile isKeyChar)

/-- One name of a key with blanks around it. -/
def keyPart : Scanner String := fun text =>
  (keyName (skipBlanks text)).map fun (name, rest) => (name, skipBlanks rest)

/-- The names of a key, of which there is at least one. -/
def keyNames : Scanner (String × List String) := fun text => do
  let (first, rest) ← keyPart text
  match rest with
  | '.' :: tail =>
    match ← Scanner.separated keyPart '.' (tail.length + 1) tail with
    | ([], _) => return ((first, []), rest)
    | (more, rest) => return ((first, more), rest)
  | _ => return ((first, []), rest)

/-- A key: names with dots between them. -/
def key : Scanner KeyPath :=
  (keyNames.inPart .key).meaning fun (first, more) =>
    if depthLimit ≤ more.length + 1 then .error .tooDeep
    else match more.getLast? with
      | none => .ok ⟨[], first⟩
      | some last => .ok ⟨first :: more.dropLast, last⟩

/-! ## Values -/

/-- A truth value by its name. -/
def boolean : Scanner Toml
  | 't' :: 'r' :: 'u' :: 'e' :: rest => .ok (.boolean true, rest)
  | 'f' :: 'a' :: 'l' :: 's' :: 'e' :: rest => .ok (.boolean false, rest)
  | text => .error (faultAt text).final

/-- Blanks, comments and line ends around an item of an array. -/
def padded (item : Scanner Toml) : Scanner Toml := fun text => do
  let (value, rest) ← item (skipLines text.length text)
  return (value, skipLines rest.length rest)

/-- The text after a comma, if there is one. -/
def skipComma : List Char → List Char
  | ',' :: rest => rest
  | text => text

/-- The items of an array, behind its bracket. -/
def arrayTail (item : Scanner Toml) : Scanner Toml := fun text => do
  let (items, rest) ← Scanner.separated (padded item) ',' (text.length + 1) text
  let rest := skipComma rest
  let close := ((Scanner.char ']').inPart .array).expecting [.sign "]"]
  let (_, rest) ← close.final (skipLines rest.length rest)
  return (.array items, rest)

/-- A key, an equals sign and a value. Behind the key there is no other way to read it. -/
def keyValue (value : Scanner Toml) : Scanner (KeyPath × Toml) := fun text => do
  let (path, rest) ← key text
  let (_, rest) ← ((Scanner.char '=').expecting [.sign ".", .sign "="]).final rest
  let (v, rest) ← value.final (skipBlanks rest)
  return ((path, v), rest)

/-- A key with its value and the blanks behind it. -/
def inlineEntry (value : Scanner Toml) : Scanner (KeyPath × Toml) := fun text =>
  (keyValue value text).map fun (entry, rest) => (entry, skipBlanks rest)

/-- The table of entries that are written in one line. -/
def inlineTable (entries : List (KeyPath × Toml)) : Except Cause Toml :=
  (entries.foldlM (fun (form, added) (path, value) => assign .inline none path value form added)
    (TableForm.inline, [])).map fun (form, added) => .table form added

/-- The entries of a table in one line, behind its brace. -/
def inlineTail (value : Scanner Toml) : Scanner Toml := fun text => do
  let entries := Scanner.separated (inlineEntry value) ',' (text.length + 1)
  let (whole, rest) ← (entries.meaning inlineTable).final text
  let close := ((Scanner.char '\x7d').inPart .inlineTable).expecting [.sign "\x7d"]
  let (_, rest) ← close.final (skipBlanks rest)
  return (whole, rest)

/-- What is expected where a value starts like none. -/
def unquoted : Scanner Toml → Scanner Toml :=
  fun s => (s.inPart .value).expecting [.sign "\"", .sign "'"]

/-- A number, a date or a time. -/
def numeric : Scanner Toml := moment.orElse (float.orElse integer)

/-- A value with at most `depth` brackets open at once. -/
def value : Nat → Scanner Toml
  | depth, text =>
    match text with
    | [] => .error (faultAt text)
    | '[' :: rest =>
      match depth with
      | 0 => .error (faultBy .tooDeep text).final
      | depth + 1 => (arrayTail (value depth)).final rest
    | '\x7b' :: rest =>
      match depth with
      | 0 => .error (faultBy .tooDeep text).final
      | depth + 1 => (inlineTail (value depth)).final rest
    | c :: _ =>
      if c = '"' ∨ c = '\'' then (quotedText.map Toml.string) text
      else if c.isDigit ∨ c = '+' ∨ c = '-' then numeric text
      else if c = '_' then (integer.expecting [.leadingDigit]) text
      else if c = '.' then (float.expecting [.leadingDigit]) text
      else if c = 't' ∨ c = 'f' then unquoted boolean text
      else unquoted ((infinity.orElse notANumber).map Toml.float) text

/-! ## Headers -/

/-- The path of a header between brackets, and the end of its line. -/
def headerPath (opening closing : List Char) : Scanner KeyPath := fun text => do
  let (path, rest) ← key.final (text.drop opening.length)
  if closing.isPrefixOf rest then
    let rest ← endOfLine (rest.drop closing.length)
    return (path, rest)
  else .error ((faultAt rest).expecting [.sign ".", .sign (String.ofList closing)]).final

/-- What a header does to the root, and its path. -/
def header : Scanner (Change × KeyPath) := Scanner.final <| Scanner.inPart .header fun text =>
  match text with
  | '[' :: '[' :: _ =>
    ((headerPath ['[', '['] [']', ']']).map fun path => (openItem path, path)) text
  | _ :: _ :: _ => ((headerPath ['['] [']']).map fun path => (openTable path, path)) text
  | _ => .error (faultAt text)

end Scan

/-! ## Documents -/

/-- A document that is being read: the root table, and the path of the table opened last. -/
structure Reading where
  root : Entries Toml
  current : List String

/-- Applies a change to the root. -/
def Reading.apply (change : Change) (path : List String) (reading : Reading) : Except Cause Reading :=
  (change .header reading.root).map fun (_, root) => ⟨root, path⟩

/-- Adds a value to the table opened last. -/
def Reading.add (key : KeyPath) (value : Toml) (reading : Reading) : Except Cause Reading :=
  reading.apply (within .header (assign .dotted (some reading.current) key value) [] reading.current)
    reading.current

/-- Opens the table of a header. -/
def Reading.enter (change : Change) (key : KeyPath) (reading : Reading) : Except Cause Reading :=
  reading.apply change (key.parents ++ [key.name])

/-- A line with a header. -/
def headerLine (reading : Reading) : Scanner Reading := fun text => do
  let ((change, path), rest) ← Scan.header text
  match reading.enter change path with
  | .ok reading => return (reading, rest)
  | .error cause => .error ((faultBy cause text).inPart .header).final

/-- A line with a key and a value. -/
def entryLine (reading : Reading) : Scanner Reading := fun text => do
  let ((path, v), rest) ← (Scan.keyValue (Scan.value (Scan.depthLimit - 1))).final text
  let rest ← Scan.endOfLine rest
  match reading.add path v with
  | .ok reading => return (reading, rest)
  | .error cause => .error (faultBy cause text).final

/-- One line, without the blanks in front of it. -/
def line (reading : Reading) : Scanner Reading := fun text =>
  match text with
  | '#' :: _ => (Scan.lineEnd (Scan.skipComment text)).map fun rest => (reading, rest)
  | '[' :: _ => headerLine reading text
  | c :: _ =>
    if c = '\n' ∨ c = '\r' then
      match Scan.newline? text with
      | some rest => .ok (reading, rest)
      | none => .error (faultAt text)
    else entryLine reading text
  | [] => .error (faultAt text)

/-- The lines of a document. -/
def lines : Nat → Reading → List Char → Except Fault (Entries Toml)
  | 0, _, text => .error (faultAt text)
  | fuel + 1, reading, text =>
    match Scan.skipBlanks text with
    | [] => .ok reading.root
    | start => do
      let (reading, rest) ← line reading start
      lines fuel reading rest

/-- The text of a document behind a byte order mark. -/
def skipByteOrderMark : List Char → List Char
  | '\uFEFF' :: rest => rest
  | text => text

/-- The entries of a document. -/
def parse (document : List Char) : Except Fault (Entries Toml) :=
  lines (document.length + 1) ⟨[], []⟩ (skipByteOrderMark document)

end BenchScope.Toml
