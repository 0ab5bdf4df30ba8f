import BenchScope.Json.Strings

/-!
# Text inside markup

Text that is written into markup has its five reserved characters replaced by references. Data that
is written into a script element is JSON text in which the same characters, apart from the double
quote, stand as number escapes; they can only occur inside JSON strings, where the escape means the
character.

A reference is `&`, a body of at most ten characters without a semicolon, and `;`. The body is one of
five names, or `#` and decimal digits, or `#x` and hexadecimal digits, which may have a plus sign in
front. Decoding is one pass from left to right: a character that a reference yields is not looked at
again, and whatever is no reference is copied.
-/

namespace BenchScope.Markup

/-! ## Writing -/

/-- One character of text inside markup. -/
def escapeChar (c : Char) : List Char :=
  if c = '&' then ['&', 'a', 'm', 'p', ';']
  else if c = '<' then ['&', 'l', 't', ';']
  else if c = '>' then ['&', 'g', 't', ';']
  else if c = '"' then ['&', 'q', 'u', 'o', 't', ';']
  else if c = '\'' then ['&', '#', '0', '3', '9', ';']
  else [c]

/-- Text inside markup, as characters. -/
def escapeChars (text : List Char) : List Char := text.flatMap escapeChar

/-- Text inside markup. -/
def escape (text : String) : String := String.ofList (escapeChars text.toList)

/-- One character of JSON text inside a script element. -/
def scriptChar (c : Char) : List Char :=
  if c = '<' then ['\\', 'u', '0', '0', '3', 'c']
  else if c = '>' then ['\\', 'u', '0', '0', '3', 'e']
  else if c = '&' then ['\\', 'u', '0', '0', '2', '6']
  else if c = '\'' then ['\\', 'u', '0', '0', '2', '7']
  else [c]

/-- JSON text inside a script element. -/
def scriptSafe (json : List Char) : List Char := json.flatMap scriptChar

/-! ## Reading references -/

/-- The longest body of a reference. -/
def maxBody : Nat := 10

/-- The character with a number, if there is one. -/
def charOfNumber? (n : Nat) : Option Char :=
  if n.isValidChar then some (Char.ofNat n) else none

/-- The number that decimal digits spell. -/
def decimal? (digits : List Char) : Option Nat :=
  if digits.isEmpty ∨ ¬ digits.all Char.isDigit then none
  else some (digits.foldl (fun n c => n * 10 + (c.toNat - '0'.toNat)) 0)

/-- The number that hexadecimal digits spell. -/
def hexadecimal? (digits : List Char) : Option Nat :=
  if digits.isEmpty then none
  else digits.foldl (fun n c => do return (← n) * 16 + (← Json.hexValue? c)) (some 0)

/-- The number of a numeric body, after its `#`. -/
def bodyNumber? : List Char → Option Nat
  | 'x' :: '+' :: digits => hexadecimal? digits
  | 'X' :: '+' :: digits => hexadecimal? digits
  | 'x' :: digits => hexadecimal? digits
  | 'X' :: digits => hexadecimal? digits
  | digits => decimal? digits

/-- The character that the body of a reference stands for. -/
def bodyChar? (body : List Char) : Option Char :=
  match body with
  | ['a', 'm', 'p'] => some '&'
  | ['l', 't'] => some '<'
  | ['g', 't'] => some '>'
  | ['q', 'u', 'o', 't'] => some '"'
  | ['a', 'p', 'o', 's'] => some '\''
  | '#' :: number => (bodyNumber? number).bind charOfNumber?
  | _ => none

/-- A reference after its `&`: the character, and the text after the semicolon. -/
def reference? (text : List Char) : Option (Char × List Char) :=
  let body := text.takeWhile (· ≠ ';')
  match text.dropWhile (· ≠ ';') with
  | [] => none
  | _ :: rest =>
    if body.length ≤ maxBody then (bodyChar? body).map fun c => (c, rest) else none

theorem length_reference?_lt {text rest : List Char} {c : Char}
    (h : reference? text = some (c, rest)) : rest.length < text.length := by
  unfold reference? at h
  dsimp only at h
  split at h
  · cases h
  · rename_i semi tail hdrop
    split at h
    · obtain ⟨d, _, hd⟩ := Option.map_eq_some_iff.1 h
      cases hd
      have hlen := congrArg List.length (List.takeWhile_append_dropWhile (p := (· ≠ ';')) (l := text))
      rw [hdrop] at hlen
      simp only [List.length_append, List.length_cons] at hlen
      omega
    · cases h

/-- Text with its references replaced by the characters they stand for. -/
def decodeChars (text : List Char) : List Char :=
  match text with
  | [] => []
  | c :: rest =>
    if c = '&' then
      match h : reference? rest with
      | some (d, after) =>
        have := length_reference?_lt h
        d :: decodeChars after
      | none => '&' :: decodeChars rest
    else c :: decodeChars rest
termination_by text.length

/-- Text with its references replaced. -/
def decode (text : String) : String := String.ofList (decodeChars text.toList)

end BenchScope.Markup
