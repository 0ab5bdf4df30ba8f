/-!
# Tables of characters

A table gives values to spans of code points and is searched by halving. Most tables are written as
text, one entry after the other in ascending order: `41-5A` for a span, `AA` for one character, both in
hexadecimal, and behind a colon the value of the entry, if the entries have one.
-/

namespace BenchScope.Text

/-- A span of code points with a value. -/
structure Span (α : Type) where
  first : Nat
  last : Nat
  value : α
  deriving Repr

/-- Spans in ascending order that do not overlap. -/
structure SpanTable (α : Type) where
  spans : Array (Span α)

/-- A set of characters. -/
abbrev CharSet := SpanTable Unit

/-! ## Searching -/

namespace SpanTable

variable {α : Type}

/-- The span between the places `low` and `high` that holds a code point. Every step halves the part
that is left. -/
def search (spans : Array (Span α)) (n : Nat) : (fuel low high : Nat) → Option (Span α)
  | 0, _, _ => none
  | fuel + 1, low, high =>
    if high ≤ low then none
    else match spans[(low + high) / 2]? with
      | none => none
      | some span =>
        if n < span.first then search spans n fuel low ((low + high) / 2)
        else if span.last < n then search spans n fuel ((low + high) / 2 + 1) high
        else some span

/-- The span that holds a code point. -/
def find? (table : SpanTable α) (n : Nat) : Option (Span α) :=
  search table.spans n (table.spans.size + 1) 0 table.spans.size

/-- The value of a code point. -/
def get? (table : SpanTable α) (n : Nat) : Option α := (table.find? n).map Span.value

/-- Whether a code point lies in one of the spans. -/
def covers (table : SpanTable α) (n : Nat) : Bool := (table.find? n).isSome

/-- A span that is found holds the code point. -/
theorem search_bounds {spans : Array (Span α)} {n fuel low high : Nat} {span : Span α}
    (h : search spans n fuel low high = some span) : span.first ≤ n ∧ n ≤ span.last := by
  induction fuel generalizing low high with
  | zero => simp [search] at h
  | succ fuel ih =>
    unfold search at h
    split at h
    · simp at h
    · split at h
      · simp at h
      · split at h
        · exact ih h
        · split at h
          · exact ih h
          · simp only [Option.some.injEq] at h
            subst h
            omega

end SpanTable

/-- Whether a character is in a set. -/
def CharSet.contains (set : CharSet) (c : Char) : Bool := SpanTable.covers set c.toNat

/-! ## Reading tables -/

/-- The value of a hexadecimal digit, with capital letters. -/
def hexValue (c : Char) : Nat := if c.toNat < 0x41 then c.toNat - 0x30 else c.toNat - 0x37

/-- The number that hexadecimal digits stand for. -/
def hexNumber (digits : String) : Nat :=
  digits.toList.foldl (fun n c => n * 16 + hexValue c) 0

/-- The first and the last code point of a span. -/
def spanBounds (text : String) : Nat × Nat :=
  match text.splitOn "-" with
  | [first, last] => (hexNumber first, hexNumber last)
  | _ => (hexNumber text, hexNumber text)

/-- An entry of a table; `readValue` reads what stands behind the colon. -/
def Span.ofText {α : Type} (readValue : String → α) (entry : String) : Span α :=
  match entry.splitOn ":" with
  | [span, value] => ⟨(spanBounds span).1, (spanBounds span).2, readValue value⟩
  | _ => ⟨(spanBounds entry).1, (spanBounds entry).2, readValue ""⟩

/-- The entries of a table: what stands between blanks and the ends of lines. -/
def entriesOf (text : String) : List String :=
  (text.splitOn "\n").flatMap fun line => (line.splitOn " ").filter (!·.isEmpty)

/-- The table that a text writes down. -/
def SpanTable.ofText {α : Type} (readValue : String → α) (text : String) : SpanTable α :=
  ⟨((entriesOf text).map (Span.ofText readValue)).toArray⟩

/-- The set that a text writes down. -/
def CharSet.ofText (text : String) : CharSet := SpanTable.ofText (fun _ => ()) text

/-! ## Replacing characters -/

/-- What the characters of a span are replaced by: the characters for the first one. Every `step`-th
character of the span is replaced, and each by characters as far on as it is itself. -/
structure Replacement where
  targets : List Nat
  step : Nat
  deriving Repr

/-- A table of replacements. -/
abbrev CharMap := SpanTable Replacement

/-- Code points with commas between them. -/
def targetNumbers (text : String) : List Nat :=
  if text.isEmpty then [] else (text.splitOn ",").map hexNumber

/-- The replacement behind a colon: characters with commas between them, and behind a slash the step. -/
def Replacement.ofText (text : String) : Replacement :=
  match text.splitOn "/" with
  | [targets, step] => ⟨targetNumbers targets, hexNumber step⟩
  | _ => ⟨targetNumbers text, 1⟩

/-- The replacements that a text writes down. -/
def CharMap.ofText (text : String) : CharMap := SpanTable.ofText Replacement.ofText text

/-- What a character is replaced by; none if it is not. -/
def CharMap.get? (map : CharMap) (c : Char) : Option (List Char) :=
  (SpanTable.find? map c.toNat).bind fun span =>
    let distance := c.toNat - span.first
    if distance % span.value.step = 0 then
      some (span.value.targets.map fun target => Char.ofNat (target + distance))
    else none

end BenchScope.Text
