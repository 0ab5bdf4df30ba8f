import BenchScope.Proofs.Encodings

/-!
# Query strings that read back

A query can be changed by setting and removing names. As long as no name is empty, its names stay
distinct and not empty, which is all that reading a query string asks for: a written query reads back
as it was, whatever characters its names and values have.
-/

namespace BenchScope.Query

/-! ## Changes of a query -/

/-- A change of a query. -/
inductive Edit where
  | set (name value : String)
  | erase (name : String)
  deriving DecidableEq, Repr

/-- Whether a change leaves empty names out. -/
def Edit.IsNamed : Edit → Prop
  | .set name _ => name ≠ ""
  | .erase _ => True

/-- The query after a change. -/
def edit (query : Query) : Edit → Query
  | .set name value => query.set name value
  | .erase name => query.erase name

/-- The query after a sequence of changes. -/
def editAll (query : Query) (edits : List Edit) : Query := edits.foldl edit query

/-- Giving a name a value changes the value of this name only. -/
theorem get?_set (query : Query) (name other value : String) :
    (query.set name value).get? other = if name = other then some value else query.get? other :=
  Entries.get?_put name other value query.pairs

/-- Removing a name leaves the values of the others. -/
theorem get?_erase (query : Query) (name other : String) :
    (query.erase name).get? other = if name = other then none else query.get? other :=
  Entries.get?_erase query.pairs name other

/-- A query in which no name is empty or occurs twice. -/
structure WellNamed (query : Query) : Prop where
  nodup : query.pairs.keys.Nodup
  nonempty : ∀ name ∈ query.pairs.keys, name ≠ ""

theorem wellNamed_empty : empty.WellNamed := ⟨List.nodup_nil, by simp [empty, Entries.keys]⟩

/-- Reading merges names that occur twice and drops pairs without a name. -/
theorem wellNamed_parse (text : String) : (parse text).WellNamed := by
  constructor
  · exact Entries.nodup_keys_ofPairs _
  · intro name hname
    rw [parse, Entries.keys_ofPairs, List.mem_eraseDups] at hname
    obtain ⟨pair, hpair, rfl⟩ := List.mem_map.1 hname
    exact of_decide_eq_true (List.mem_filter.1 hpair).2

/-- Giving a value to a name, which must not be empty, keeps names apart. -/
theorem WellNamed.set {query : Query} (h : query.WellNamed) {name : String} (hname : name ≠ "")
    (value : String) : (query.set name value).WellNamed := by
  constructor
  · exact Entries.nodup_keys_put name value h.nodup
  · intro other hother
    rw [Query.set, Entries.keys_put] at hother
    split at hother
    · exact h.nonempty other hother
    · rcases List.mem_append.1 hother with hold | hnew
      · exact h.nonempty other hold
      · rwa [List.mem_singleton.1 hnew]

theorem WellNamed.erase {query : Query} (h : query.WellNamed) (name : String) :
    (query.erase name).WellNamed := by
  constructor
  · exact Entries.nodup_keys_erase name h.nodup
  · intro other hother
    rw [Query.erase, Entries.keys_erase] at hother
    exact h.nonempty other (List.mem_filter.1 hother).1

theorem WellNamed.edit {query : Query} (h : query.WellNamed) {change : Edit} (hchange : change.IsNamed) :
    (query.edit change).WellNamed := by
  cases change with
  | set name value => exact h.set hchange value
  | erase name => exact h.erase name

/-- Any changes of names that are not empty keep a query well named. -/
theorem WellNamed.editAll {query : Query} (h : query.WellNamed) {edits : List Edit}
    (hedits : ∀ change ∈ edits, change.IsNamed) : (query.editAll edits).WellNamed := by
  induction edits generalizing query with
  | nil => exact h
  | cons change rest ih =>
    rw [List.forall_mem_cons] at hedits
    exact ih (h.edit hedits.1) hedits.2

/-! ## Reading what was written -/

/-- A written query reads back as it was. -/
theorem parse_toText {query : Query} (h : query.WellNamed) : parse query.toText = query := by
  have hkept : query.pairs.filter (fun pair => pair.1 ≠ "") = query.pairs := by
    rw [List.filter_eq_self]
    intro pair hpair
    exact decide_eq_true (h.nonempty pair.1 (List.mem_map_of_mem hpair))
  rw [toText, parse_write, hkept, Entries.ofPairs_of_nodup h.nodup]

/-- The mark in front of a written query makes no difference. -/
theorem parse_mark_toText (query : Query) : parse ("?" ++ query.toText) = parse query.toText := by
  have hmark : withoutMark ("?" ++ query.toText).toList = query.toText.toList := by
    rw [String.toList_append]
    rfl
  rw [parse, parse, hmark, toText, withoutMark_write]

/-- **Queries survive a round trip.** A query that was read from any text, or had no parameters, and was
then changed in any way that sets no empty name, has distinct names, none of them empty, and its query
string reads back as the query, with and without the mark in front. So a text that was read and written
once is not changed by doing so again. -/
theorem query_round_trip {start : Query} (hstart : start = empty ∨ ∃ text, start = parse text)
    {edits : List Edit} (hedits : ∀ change ∈ edits, change.IsNamed) :
    let query := start.editAll edits
    query.pairs.keys.Nodup ∧ (∀ name ∈ query.pairs.keys, name ≠ "") ∧
    parse query.toText = query ∧ parse ("?" ++ query.toText) = query ∧
    ∀ text, (parse (parse text).toText).toText = (parse text).toText := by
  intro query
  have hfirst : start.WellNamed := by
    rcases hstart with rfl | ⟨text, rfl⟩
    · exact wellNamed_empty
    · exact wellNamed_parse text
  have hquery : query.WellNamed := hfirst.editAll hedits
  refine ⟨hquery.nodup, hquery.nonempty, parse_toText hquery, ?_, ?_⟩
  · rw [parse_mark_toText, parse_toText hquery]
  · intro text
    rw [parse_toText (wellNamed_parse text)]

/-- A query with a repeated and an empty name, changed so that a name and a value are made of the signs
of the form and of characters outside ASCII. -/
theorem query_round_trip_signs :
    let query := (parse "?a=1&=x&b&a=%C3%A9%").editAll [.set "?&=é" "+% ", .erase "b"]
    query.pairs = [("a", "é%"), ("?&=é", "+% ")] ∧
    query.toText = "a=%C3%A9%25&%3F%26%3D%C3%A9=%2B%25+" ∧
    parse query.toText = query ∧ parse ("?" ++ query.toText) = query := by
  intro query
  have hedits : ∀ change ∈ [Edit.set "?&=é" "+% ", .erase "b"], change.IsNamed := by
    simp [Edit.IsNamed]
  obtain ⟨-, -, hread, hmarked, -⟩ := query_round_trip (Or.inr ⟨"?a=1&=x&b&a=%C3%A9%", rfl⟩) hedits
  exact ⟨by decide +kernel, by decide +kernel, hread, hmarked⟩

end BenchScope.Query
