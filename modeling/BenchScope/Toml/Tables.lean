import BenchScope.Entries
import BenchScope.Toml.Basic

/-!
# Tables of a document

What keys and headers add to tables. A header opens a table once, a dotted key goes through tables that
dotted keys have made, and of an array of tables the last one counts.
-/

namespace BenchScope.Toml

/-- What is done to the table at the end of a path. -/
abbrev Change := TableForm → Entries Toml → Except Cause (TableForm × Entries Toml)

/-- Whether dotted keys may go through a table of this form. -/
def TableForm.isOpen : TableForm → Bool
  | .implied => true
  | .dotted => true
  | _ => false

/-- How a path is followed: by a header from the root, by a dotted key in a table, or by a dotted key in
a table that is written in one line. -/
inductive Way where
  | header
  | dotted
  | inline
  deriving DecidableEq, Repr

/-- The form of a table that a path makes on its way. -/
def Way.newForm : Way → TableForm
  | .header => .implied
  | _ => .dotted

/-- Why a path cannot go through a table; `passed` ends with the name of the table. -/
def Way.refusal? (way : Way) (passed : List String) (name : String) (form : TableForm) : Option Cause :=
  if form = .inline ∧ way ≠ .inline then some (.notATable passed (Toml.table form []).kind)
  else if way ≠ .header ∧ ¬ TableForm.isOpen form then some (.duplicate name none)
  else none

/-- Changes the table at the end of a path; `passed` are the names that led here. Tables that are missing
are made. -/
def within (way : Way) (change : Change) (passed : List String) : List String → Change
  | [], form, entries => change form entries
  | name :: path, form, entries =>
    let passed := passed ++ [name]
    match entries.get? name with
    | none => do
      let (f, es) ← within way change passed path way.newForm []
      return (form, entries.put name (.table f es))
    | some (.table f es) =>
      match way.refusal? passed name f with
      | some cause => .error cause
      | none => do
        let (f, es) ← within way change passed path f es
        return (form, entries.put name (.table f es))
    | some (.tables items) => do
      let (_, es) ← within way change passed path .header (items.getLast?.getD [])
      return (form, entries.put name (.tables (items.dropLast ++ [es])))
    | some value => .error (.notATable passed value.kind)

/-- A key cut into the names before the last one and the last one. -/
structure KeyPath where
  parents : List String
  name : String
  deriving DecidableEq, Repr

/-- Adds a value under a dotted key; `table` is the path of the table that messages name. -/
def assign (way : Way) (table : Option (List String)) (key : KeyPath) (value : Toml) : Change :=
  within way (fun form entries =>
    if (form == .dotted) == key.parents.isEmpty then .error (.duplicate key.name none)
    else if entries.has key.name then .error (.duplicate key.name table)
    else .ok (form, entries.put key.name value)) [] key.parents

/-- Characters of a key without quotes. -/
def isKeyChar (c : Char) : Bool := c.isAlphanum ∨ c = '_' ∨ c = '-'

/-- A character in a quoted key. -/
def escapedKeyChar (c : Char) : List Char :=
  if c = '"' then ['\\', '"']
  else if c = '\\' then ['\\', '\\']
  else if c = '\x08' then ['\\', 'b']
  else if c = '\t' then ['\\', 't']
  else if c = '\n' then ['\\', 'n']
  else if c = '\x0c' then ['\\', 'f']
  else if c = '\r' then ['\\', 'r']
  else if c.toNat < 0x20 ∨ c.toNat = 0x7F then
    let digits := (Nat.toDigits 16 c.toNat).map Char.toUpper
    '\\' :: 'u' :: (List.replicate (4 - digits.length) '0' ++ digits)
  else [c]

/-- A name as it is written in a key. -/
def keyText (name : String) : String :=
  if name ≠ "" ∧ name.toList.all isKeyChar then name
  else String.ofList ('"' :: (name.toList.flatMap escapedKeyChar ++ ['"']))

/-- The cause if a header names what is there already. -/
def alreadyThere (key : KeyPath) : Cause := .duplicate (keyText key.name) (some key.parents)

/-- Opens a table by its header. -/
def openTable (key : KeyPath) : Change :=
  within .header (fun form entries =>
    match entries.get? key.name with
    | none => .ok (form, entries.put key.name (.table .header []))
    | some (.table .implied inner) => .ok (form, entries.put key.name (.table .header inner))
    | some _ => .error (alreadyThere key)) [] key.parents

/-- Opens a new table of an array of tables. -/
def openItem (key : KeyPath) : Change :=
  within .header (fun form entries =>
    match entries.get? key.name with
    | none => .ok (form, entries.put key.name (.tables [[]]))
    | some (.tables items) => .ok (form, entries.put key.name (.tables (items ++ [[]])))
    | some _ => .error (alreadyThere key)) [] key.parents

end BenchScope.Toml
