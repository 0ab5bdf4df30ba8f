import BenchScope.Proofs.Entries
import BenchScope.Proofs.InterchangeNumbers

/-!
# Values read back from compact text

A text, a word or a number is read back from what is written for it, in front of any text that does not
continue a number. In compact text a comma or a closing bracket follows every item and every member. So an
array is read back from its items, and an object from its members, if no two of these have the same name.
Numbers may change: what is read back for one is what the reader of numbers makes of its text.
-/

namespace BenchScope.Json.Read

/-! ## Single values -/

/-- A value is read back as `v` in front of any text that ends a number, where `depth` brackets may be
opened. -/
def ReadsBack (depth : Nat) (json v : Json) : Prop :=
  ∀ (fuel : Nat) (rest : List Char), EndsNumber rest → (compactChars json).length < fuel →
    valueWithin fuel depth (compactChars json ++ rest) = .ok (v, rest)

theorem endsNumber_nil : EndsNumber [] := ⟨nofun, nofun, nofun⟩

/-- A comma or a closing bracket ends a number in front of it. -/
theorem endsNumber_cons {c : Char} (h : c ∈ [',', ']', '}']) (rest : List Char) : EndsNumber (c :: rest) := by
  simp only [List.mem_cons, List.not_mem_nil, or_false] at h
  rcases h with rfl | rfl | rfl
  all_goals exact ⟨fun _ hd => Option.some.inj hd ▸ rfl, nofun, nofun⟩

/-- Neither blanks nor brackets begin a word, a number or a text. -/
theorem scalar_ne_ok {c : Char} (h : c ∈ [' ', '\n', '\t', '\r', '[', '{', ']']) (rest : List Char)
    (read : Json × List Char) : scalar (c :: rest) ≠ .ok read := by
  simp only [List.mem_cons, List.not_mem_nil, or_false] at h
  rcases h with rfl | rfl | rfl | rfl | rfl | rfl | rfl <;> nofun

/-- What is read as a word, a number or a text is no array and no object. -/
theorem valueWithin_of_scalar {text rest : List Char} {v : Json} (h : scalar text = .ok (v, rest))
    (fuel depth : Nat) : valueWithin (fuel + 1) depth text = .ok (v, rest) := by
  cases text with
  | nil => cases h
  | cons c tail =>
    have hc : c ∉ [' ', '\n', '\t', '\r', '[', '{', ']'] := fun hc => scalar_ne_ok hc tail _ h
    simp only [List.mem_cons, List.not_mem_nil, or_false, not_or] at hc
    have hskip : skipBlank (c :: tail) = c :: tail :=
      List.dropWhile_cons_of_neg (by simp [isSpace, hc])
    rw [valueWithin_scalar (by rw [hskip]; simp [hc]) (by rw [hskip]; simp [hc]), hskip, h]

theorem readsBack_of_scalar {json v : Json}
    (h : ∀ rest, EndsNumber rest → scalar (compactChars json ++ rest) = .ok (v, rest)) (depth : Nat) :
    ReadsBack depth json v := by
  intro fuel rest hrest hfuel
  obtain ⟨fuel, rfl⟩ : ∃ n, fuel = n + 1 := ⟨fuel - 1, by omega⟩
  exact valueWithin_of_scalar (h rest hrest) fuel depth

theorem readsBack_null (depth : Nat) : ReadsBack depth .null .null :=
  readsBack_of_scalar (fun _ _ => rfl) depth

/-- A text is read back as it is. -/
theorem readsBack_string (spelled : String) (depth : Nat) :
    ReadsBack depth (.string spelled) (.string spelled) := by
  refine readsBack_of_scalar (fun rest _ => ?_) depth
  have htext : compactChars (.string spelled) ++ rest =
      '"' :: (spelled.toList.flatMap escapeChar ++ '"' :: rest) := by
    simp [compactChars_string, quote]
  rw [htext]
  change (quotedText (spelled.toList.flatMap escapeChar ++ '"' :: rest)).map
    (fun read => (Json.string read.1, read.2)) = _
  rw [quotedText_escaped]
  rfl

/-- A double is read back as a double, and what is no double as `null`. -/
theorem readsBack_ofFloat? (x : Option Float) : ∃ v, ∀ depth, ReadsBack depth (ofFloat? x) v := by
  cases x with
  | none => exact ⟨.null, readsBack_null⟩
  | some x =>
    by_cases hfinite : x.isFinite = true
    · obtain ⟨y, hy⟩ := scalar_interchangeChars hfinite
      have hreal : ofFloat? (some x) = .real x := if_pos hfinite
      rw [hreal]
      exact ⟨.real y, readsBack_of_scalar hy⟩
    · have hnull : ofFloat? (some x) = .null := if_neg hfinite
      rw [hnull]
      exact ⟨.null, readsBack_null⟩

/-! ## Arrays -/

/-- The items of an array without blanks; a comma stands in front of all but the first. -/
def joinedItems : Bool → List Json → List Char
  | _, [] => []
  | started, item :: items =>
    (if started then [','] else []) ++ (compactChars item ++ joinedItems true items)

/-- The items of an array are written with commas between them. -/
theorem compactItems_eq (items : List Json) : compactItems items = joinedItems false items := by
  induction items with
  | nil => rfl
  | cons item items ih =>
    cases items with
    | nil => simp [compactItems, joinedItems]
    | cons next more => simp [compactItems, joinedItems, ih]

theorem endsNumber_joinedItems (items : List Json) (rest : List Char) :
    EndsNumber (joinedItems true items ++ ']' :: rest) := by
  cases items with
  | nil => exact endsNumber_cons (by decide) rest
  | cons item items => exact endsNumber_cons (by decide) _

/-- What can be read as a value does not begin with a closing bracket. -/
theorem exists_head_of_valueWithin {fuel depth : Nat} {text : List Char} {read : Json × List Char}
    (h : valueWithin fuel depth text = .ok read) : ∃ c tail, skipBlank text = c :: tail ∧ c ≠ ']' := by
  cases fuel with
  | zero => cases h
  | succ fuel =>
    cases hskip : skipBlank text with
    | nil =>
      rw [valueWithin, hskip] at h
      cases h
    | cons c tail =>
      refine ⟨c, tail, rfl, ?_⟩
      rintro rfl
      rw [valueWithin, hskip] at h
      exact scalar_ne_ok (by decide) tail read h

/-- Blanks in front of a value do not matter. -/
theorem valueWithin_skipBlank (fuel depth : Nat) (text : List Char) :
    valueWithin (fuel + 1) depth (skipBlank text) = valueWithin (fuel + 1) depth text := by
  have hskip : skipBlank (skipBlank text) = skipBlank text := List.dropWhile_idempotent isSpace text
  rw [valueWithin, valueWithin, hskip]

/-- The next of the written items is found behind its comma. -/
theorem nextItem_joined (first : Bool) {text tail : List Char} {c : Char} (h : skipBlank text = c :: tail)
    (hc : c ≠ ']') :
    nextItem first ((if !first then [','] else []) ++ text) = .ok (some (skipBlank text), skipBlank text) := by
  cases first with
  | true =>
    change nextItem true text = _
    rw [nextItem, h]
    dsimp only
    rw [if_neg hc, if_pos rfl]
  | false =>
    have hcomma : skipBlank (',' :: text) = ',' :: text := rfl
    change nextItem false (',' :: text) = _
    rw [nextItem, hcomma]
    dsimp only
    rw [if_neg (by decide), if_neg (by decide), if_pos rfl, h]
    dsimp only
    rw [if_neg hc]

/-- The items that are written are read back one after the other. -/
theorem items_joined {depth : Nat} {written values : List Json} (h : List.Forall₂ (ReadsBack depth) written values)
    {fuel count : Nat} (first : Bool) (hfuel : (joinedItems (!first) written).length < fuel)
    (hcount : written.length < count) (rest : List Char) :
    items (valueWithin fuel depth) count first (joinedItems (!first) written ++ ']' :: rest) = .ok (values, rest) := by
  obtain ⟨fuel, rfl⟩ : ∃ n, fuel = n + 1 := ⟨fuel - 1, by omega⟩
  induction h generalizing count first with
  | nil =>
    obtain ⟨count, rfl⟩ : ∃ n, count = n + 1 := ⟨count - 1, by omega⟩
    rfl
  | @cons json value written values hitem _ ih =>
    obtain ⟨count, rfl⟩ : ∃ n, count = n + 1 := ⟨count - 1, by omega⟩
    simp only [joinedItems, List.length_append, List.length_cons] at hfuel hcount
    have hread := hitem (fuel + 1) (joinedItems true written ++ ']' :: rest) (endsNumber_joinedItems written rest)
      (by omega)
    have hshort : (joinedItems true written).length < fuel + 1 := by omega
    have hmore := @ih count false (by omega) hshort
    have htext : joinedItems (!first) (json :: written) ++ ']' :: rest = (if !first then [','] else []) ++
        (compactChars json ++ (joinedItems true written ++ ']' :: rest)) := by
      simp [joinedItems]
    -- the item does not begin with the closing bracket, since it is read as a value
    obtain ⟨c, tail, hskip, hc⟩ := exists_head_of_valueWithin hread
    rw [htext, items, nextItem_joined first hskip hc]
    dsimp only
    rw [valueWithin_skipBlank, hread]
    dsimp only
    rw [Bool.not_false] at hmore
    rw [hmore]

/-- No item is written as nothing, so the text has fuel enough for the items. -/
theorem length_le_joinedItems (started : Bool) (items : List Json) :
    items.length ≤ (joinedItems started items).length + if started then 0 else 1 := by
  induction items generalizing started with
  | nil => exact Nat.zero_le _
  | cons item items ih =>
    have hmore := ih true
    rw [if_pos rfl] at hmore
    cases started with
    | true =>
      simp only [joinedItems, List.length_append, List.length_cons, if_true, List.length_nil]
      omega
    | false =>
      simp only [joinedItems, List.length_append, List.length_cons, Bool.false_eq_true, if_false]
      omega

/-- An array is read back item by item. -/
theorem readsBack_array {depth : Nat} {written values : List Json}
    (h : List.Forall₂ (ReadsBack depth) written values) : ReadsBack (depth + 1) (.array written) (.array values) := by
  intro fuel rest _ hfuel
  obtain ⟨fuel, rfl⟩ : ∃ n, fuel = n + 1 := ⟨fuel - 1, by omega⟩
  have htext : compactChars (.array written) = '[' :: (joinedItems false written ++ [']']) := by
    rw [compactChars, compactItems_eq]
  have hcount : written.length ≤ (joinedItems false written).length + 1 := length_le_joinedItems false written
  rw [htext, List.length_cons, List.length_append, List.length_singleton] at hfuel
  have hitems : items (valueWithin fuel depth) (fuel + 1) true (joinedItems false written ++ ']' :: rest) =
      .ok (values, rest) := items_joined h true (by rw [Bool.not_true]; omega) (by omega) rest
  rw [htext, List.cons_append, List.append_assoc, valueWithin_list rfl]
  rw [List.singleton_append, hitems]
  rfl

/-! ## Objects -/

theorem endsNumber_joined (members : List (String × Json)) (rest : List Char) :
    EndsNumber (joined true members ++ '}' :: rest) := by
  cases members with
  | nil => exact endsNumber_cons (by decide) rest
  | cons member members => exact endsNumber_cons (by decide) _

/-- A member is read as its value behind a colon, under its name. -/
theorem plainMember_colon {value : Reader Json} (before : List (String × Json)) (key : String) {text rest : List Char}
    {v : Json} (h : value text = .ok (v, rest)) :
    plainMember value before key (':' :: text) = .ok ((key, v), rest) := by
  have hcolon : colon (':' :: text) = .ok text := rfl
  rw [plainMember, hcolon]
  dsimp only
  rw [h]

/-- A member is read back under its name. -/
def ReadsBackMember (depth : Nat) (member value : String × Json) : Prop :=
  member.1 = value.1 ∧ ReadsBack depth member.2 value.2

/-- The members that are written are read back one after the other. -/
theorem plainMembers_joined {depth : Nat} {written values : List (String × Json)}
    (h : List.Forall₂ (ReadsBackMember depth) written values) {fuel count : Nat} (before : List (String × Json))
    (hfuel : (joined (!before.isEmpty) written).length < fuel) (hcount : written.length < count) (rest : List Char) :
    members (plainMember (valueWithin fuel depth)) count before (joined (!before.isEmpty) written ++ '}' :: rest) =
      .ok (before ++ values, rest) := by
  induction h generalizing count before with
  | nil =>
    obtain ⟨count, rfl⟩ : ∃ n, count = n + 1 := ⟨count - 1, by omega⟩
    rw [List.append_nil]
    rfl
  | @cons member value written values hmember _ ih =>
    obtain ⟨count, rfl⟩ : ∃ n, count = n + 1 := ⟨count - 1, by omega⟩
    obtain ⟨key, json⟩ := member
    obtain ⟨name, v⟩ := value
    obtain ⟨rfl, hvalue⟩ : key = name ∧ ReadsBack depth json v := hmember
    simp only [joined, List.length_append, List.length_cons] at hfuel hcount
    have hread := plainMember_colon before key (hvalue fuel _ (endsNumber_joined written rest) (by omega))
    -- behind this member the object has started
    have hstarted : (!(before ++ [(key, v)]).isEmpty) = true := by simp
    have hmore := @ih count (before ++ [(key, v)]) (by rw [hstarted]; omega) (by omega)
    rw [hstarted, List.append_assoc, List.singleton_append] at hmore
    rw [members_joined_cons hread, hmore]

/-- An object is read back member by member, if the names are different. -/
theorem readsBack_object {depth : Nat} {written values : List (String × Json)}
    (h : List.Forall₂ (ReadsBackMember depth) written values) (hnames : (values.map Prod.fst).Nodup) :
    ReadsBack (depth + 1) (.object written) (.object values) := by
  intro fuel rest _ hfuel
  obtain ⟨fuel, rfl⟩ : ∃ n, fuel = n + 1 := ⟨fuel - 1, by omega⟩
  have htext : compactChars (.object written) = '{' :: (joined false written ++ ['}']) := by
    rw [compactChars, compactMembers_eq]
  have hcount := length_le_joined false written
  rw [htext, List.length_cons, List.length_append, List.length_singleton] at hfuel
  have hmembers : members (plainMember (valueWithin fuel depth)) (fuel + 1) [] (joined false written ++ '}' :: rest) =
      .ok (values, rest) := plainMembers_joined h [] (by rw [List.isEmpty_nil, Bool.not_true]; omega) (by omega) rest
  rw [htext, List.cons_append, List.append_assoc, valueWithin_object rfl]
  rw [List.singleton_append, hmembers]
  change Except.ok (Json.object (Entries.ofPairs values), rest) = _
  rw [Entries.ofPairs_of_nodup hnames]

/-- A document that holds one value is read as this value. -/
theorem parse_compact {json v : Json} (h : ReadsBack maxDepth json v) : parse (compact json) = .ok v := by
  refine document_ofList ?_
  have hread := h ((compactChars json).length + 1) [] endsNumber_nil (Nat.lt_succ_self _)
  rwa [List.append_nil] at hread

end BenchScope.Json.Read
