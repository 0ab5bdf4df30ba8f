import BenchScope.Text.Composed
import BenchScope.Text.Bytes
import BenchScope.Url.DomainTable
import BenchScope.Url.Punycode

/-!
# Domain names

A domain name is compared and sent in ASCII and in lower case. Characters that stand for others are
replaced first and marks are joined to their letters; then every label with a character that is not ASCII
is written in Punycode behind `xn--`. A name is refused if it has a character that no name holds, a label
that starts with a mark, a joiner where nothing joins, or labels that mix directions of writing.
-/

namespace BenchScope.Url.Domain

/-! ## Characters -/

/-- ASCII characters that no domain name holds, besides controls and the space. -/
def forbidden : List Char :=
  ['%', '#', '/', ':', '<', '>', '?', '@', '[', '\\', ']', '^', '|']

/-- Whether an ASCII character may stand in a domain name. -/
def isAllowedAscii (c : Char) : Bool := 0x20 < c.toNat && c.toNat < 0x7F && !forbidden.contains c

/-- What a character of a name stands for; none if no name holds it. -/
def mapChar? (c : Char) : Option (List Char) :=
  if c.toNat < 0x80 then some [c.toLower]
  else if refused.contains c then none
  else some ((replaced.get? c).getD [c])

/-- The characters of a name, each replaced by what it stands for. -/
def mapAll? : List Char → Option (List Char)
  | [] => some []
  | c :: rest => do return (← mapChar? c) ++ (← mapAll? rest)

/-- A name with characters replaced and marks joined to their letters. -/
def normal? (name : List Char) : Option (List Char) :=
  if name.all Punycode.isAscii then mapAll? name else (mapAll? name).map Text.composed

/-- The labels of a name. -/
def labels : List Char → List (List Char)
  | [] => [[]]
  | c :: rest =>
    match labels rest with
    | [] => [[c]]
    | label :: more => if c = '.' then [] :: label :: more else (c :: label) :: more

/-! ## Joiners -/

/-- The joiner that keeps characters together. -/
def joiner : Char := '\u200D'

/-- The joiner that keeps characters apart. -/
def nonJoiner : Char := '\u200C'

/-- The class of marks that take the vowel off a letter. -/
def viramaClass : Nat := 9

/-- Whether the next character that is not passed over joins in one of the given ways. -/
def joins (ways : List String) : List Char → Bool
  | [] => false
  | c :: rest =>
    match joiningTypes.get? c.toNat with
    | some way => ways.contains way || (way == "T" && joins ways rest)
    | none => false

/-- Whether a joiner may stand between two texts; `before` has its nearest character first. It may
stand behind a virama, and one that keeps characters apart also between characters that would join. -/
def mayStand (c : Char) (before after : List Char) : Bool :=
  match before with
  | [] => false
  | previous :: _ =>
    Text.markClass previous == viramaClass ||
      (c == nonJoiner && joins ["L", "D"] before && joins ["R", "D"] after)

/-- Whether the joiners of a label stand where they may; `before` has its nearest character first. -/
def joinersStand (before : List Char) : List Char → Bool
  | [] => true
  | c :: rest =>
    ((c != joiner && c != nonJoiner) || mayStand c before rest) && joinersStand (c :: before) rest

/-! ## Directions -/

/-- The direction of a character; that of letters from left to right is `L`. -/
def direction (c : Char) : String :=
  if 0x80 ≤ c.toNat then (directions.get? c.toNat).getD "L"
  else if c.isAlpha then "L"
  else if c.isDigit then "E"
  else if c = '+' ∨ c = '-' then "S"
  else if c = ',' ∨ c = '.' then "C"
  else if c = '$' then "T"
  else "O"

/-- Whether a name with a character of this direction is written from right to left. -/
def turns (direction : String) : Bool := ["R", "A", "N"].contains direction

/-- Whether a label fits into a name that is written from right to left. A label has the direction of
its first letter, does not hold letters of the other one, ends in a letter or a digit, marks apart, and
does not mix digits. -/
def fitsDirection (label : List Char) : Bool :=
  match label.map direction with
  | [] => true
  | first :: tail =>
    let body := (tail.reverse.dropWhile (· == "M")).reverse
    if first == "L" then
      body.all (["L", "E", "S", "C", "T", "O", "B", "M"].contains ·) &&
        body.getLast?.all (["L", "E"].contains ·)
    else if first == "R" || first == "A" then
      body.all (["R", "A", "N", "E", "S", "C", "T", "O", "B", "M"].contains ·) &&
        body.getLast?.all (["R", "A", "N", "E"].contains ·) &&
        !(body.contains "N" && body.contains "E")
    else false

/-! ## Labels -/

/-- The start of a label that is written in Punycode. -/
def mark : List Char := ['x', 'n', '-', '-']

/-- The length that a label may have that is written in Punycode. -/
def longestLabel : Nat := 1000

/-- The length that a label in Punycode may have behind its mark. -/
def longestWritten : Nat := 2000

/-- Whether a label with characters past ASCII is valid by itself. -/
def isValidLabel (label : List Char) : Bool :=
  !(label.head?.any marks.contains) && joinersStand [] label && label.length ≤ longestLabel

/-- The label that a label behind the mark stands for. It must not be ASCII, and be written as it is
here. -/
def unmarked? (written : List Char) : Option (List Char) := do
  if longestWritten < written.length ∨ written.getLast? = some '-' then none
  else
    let label ← Punycode.decode? written
    if label.all Punycode.isAscii ∨ normal? label ≠ some label ∨ ¬ isValidLabel label then none
    else return label

/-- A label with all of its characters, and in ASCII. -/
structure Label where
  chars : List Char
  ascii : List Char

/-- A label of a name whose characters have been replaced. -/
def label? (label : List Char) : Option Label :=
  if label.all Punycode.isAscii then
    if mark.isPrefixOf label then (unmarked? (label.drop mark.length)).map fun chars => ⟨chars, label⟩
    else some ⟨label, label⟩
  else if mark.isPrefixOf label ∨ ¬ isValidLabel label then none
  else some ⟨label, mark ++ Punycode.encode label⟩

/-- A name in ASCII; none if it is no domain name. -/
def toAscii? (name : List Char) : Option (List Char) := do
  let labels ← (labels (← normal? name)).mapM label?
  let ascii := List.intercalate ['.'] (labels.map Label.ascii)
  if labels.any (fun label => label.chars.any (turns <| direction ·)) ∧
      ¬ labels.all (fun label => fitsDirection label.chars) then none
  else if ascii.all isAllowedAscii then return ascii
  else none

end BenchScope.Url.Domain
