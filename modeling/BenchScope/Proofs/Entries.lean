import BenchScope.Entries
import Mathlib.Data.List.Induction

/-!
# Looking up entries

How `get?` and `has` read the names of entries, and how they see an insertion, a change in place, a
removal and a sequence of insertions.
-/

namespace BenchScope.Entries

variable {α : Type}

/-- A new name behind names without repetition. -/
theorem nodup_append_new {names : List α} {name : α} (h : names.Nodup) (hnew : name ∉ names) :
    (names ++ [name]).Nodup := by
  refine List.nodup_append.2 ⟨h, by simp, ?_⟩
  intro first hfirst second hsecond heq
  rw [List.mem_singleton] at hsecond
  exact hnew (hsecond ▸ heq ▸ hfirst)

/-- A name is present if it is among the names. -/
theorem has_iff {entries : Entries α} {key : String} :
    entries.has key = true ↔ key ∈ keys entries := by
  simp [has, keys]

@[simp] theorem get?_nil (key : String) : get? ([] : Entries α) key = none := rfl

theorem get?_cons (entry : String × α) (rest : Entries α) (key : String) :
    get? (entry :: rest) key = if entry.1 = key then some entry.2 else get? rest key := by
  unfold get?
  by_cases h : entry.1 = key <;> simp [h]

/-- A name has no value exactly if it is not among the names. -/
theorem get?_eq_none_iff {entries : Entries α} {key : String} :
    entries.get? key = none ↔ key ∉ keys entries := by
  induction entries with
  | nil => simp [keys]
  | cons entry rest ih =>
    rw [get?_cons, keys_cons, List.mem_cons, not_or]
    by_cases h : entry.1 = key
    · simp [h]
    · simp [h, ih, Ne.symm h]

/-- A name has a value exactly if it is among the names. -/
theorem get?_isSome_iff {entries : Entries α} {key : String} :
    (∃ value, entries.get? key = some value) ↔ key ∈ keys entries := by
  rw [← Option.isSome_iff_exists, ← Option.ne_none_iff_isSome, Ne, get?_eq_none_iff, Classical.not_not]

theorem mem_keys_of_get? {entries : Entries α} {key : String} {value : α}
    (h : entries.get? key = some value) : key ∈ keys entries :=
  get?_isSome_iff.1 ⟨value, h⟩

/-- A name that is not there yet is inserted at the end. -/
theorem put_of_not_mem {entries : Entries α} {key : String} (value : α)
    (h : key ∉ keys entries) : put key value entries = entries ++ [(key, value)] := by
  induction entries with
  | nil => rfl
  | cons entry rest ih =>
    rw [keys_cons, List.mem_cons, not_or] at h
    rw [put, if_neg (Ne.symm h.1), ih h.2, List.cons_append]

/-- After an insertion the name has the new value, and every other name has its own. -/
theorem get?_put (key other : String) (value : α) (entries : Entries α) :
    get? (put key value entries) other = if key = other then some value else get? entries other := by
  induction entries with
  | nil => rw [put, get?_cons]
  | cons entry rest ih =>
    unfold put
    by_cases h : entry.1 = key
    · rw [if_pos h, get?_cons, get?_cons]
      by_cases ho : key = other
      · simp [h, ho]
      · simp [h, ho]
    · rw [if_neg h, get?_cons, get?_cons, ih]
      by_cases ho : entry.1 = other
      · have hk : key ≠ other := fun e => h (ho.trans e.symm)
        simp [ho, hk]
      · simp [ho]

/-- Two collections with the same names in the same order and the same values are equal. -/
theorem ext_of_keys {first second : Entries α} (hnodup : first.keys.Nodup)
    (hkeys : first.keys = second.keys) (hget : ∀ key, first.get? key = second.get? key) :
    first = second := by
  induction first generalizing second with
  | nil =>
    cases second with
    | nil => rfl
    | cons entry rest => cases hkeys
  | cons entry rest ih =>
    cases second with
    | nil => cases hkeys
    | cons entry' rest' =>
      rw [keys_cons, keys_cons, List.cons.injEq] at hkeys
      rw [keys_cons, List.nodup_cons] at hnodup
      have hhead : some entry.2 = some entry'.2 := by
        have h := hget entry.1
        rwa [get?_cons, get?_cons, if_pos rfl, if_pos hkeys.1.symm] at h
      have hentry : entry = entry' := Prod.ext hkeys.1 (Option.some.inj hhead)
      have hrest : rest = rest' := by
        apply ih hnodup.2 hkeys.2
        intro key
        by_cases hk : entry.1 = key
        · -- the name of the head is absent from both rests
          have habsent : key ∉ keys rest := hk ▸ hnodup.1
          rw [get?_eq_none_iff.2 habsent, get?_eq_none_iff.2 (hkeys.2 ▸ habsent)]
        · have h := hget key
          rwa [get?_cons, get?_cons, if_neg hk, if_neg (hkeys.1 ▸ hk)] at h
      rw [hentry, hrest]

/-- An entry is found under its name if no other entry has the name. -/
theorem get?_of_mem {entries : Entries α} (hnodup : entries.keys.Nodup) {entry : String × α}
    (h : entry ∈ entries) : entries.get? entry.1 = some entry.2 := by
  induction entries with
  | nil => cases h
  | cons first rest ih =>
    rw [keys_cons, List.nodup_cons] at hnodup
    rw [get?_cons]
    rcases List.mem_cons.1 h with rfl | hrest
    · rw [if_pos rfl]
    · have hne : first.1 ≠ entry.1 := by
        intro heq
        apply hnodup.1
        rw [heq]
        exact List.mem_map_of_mem hrest
      rw [if_neg hne]
      exact ih hnodup.2 hrest

/-- A value that is found stands with its name among the entries. -/
theorem mem_of_get? {entries : Entries α} {key : String} {value : α}
    (h : entries.get? key = some value) : (key, value) ∈ entries := by
  obtain ⟨entry, hfind, rfl⟩ := Option.map_eq_some_iff.1 h
  have hkey : entry.1 = key := by simpa using List.find?_some hfind
  rw [← hkey]
  exact List.mem_of_find?_eq_some hfind

theorem get?_eq_some_iff {entries : Entries α} (hnodup : entries.keys.Nodup) {key : String} {value : α} :
    entries.get? key = some value ↔ (key, value) ∈ entries :=
  ⟨mem_of_get?, get?_of_mem hnodup⟩

/-- Where the order of entries alone differs, the same values are found. -/
theorem get?_perm {first second : Entries α} (hnodup : first.keys.Nodup) (hperm : first.Perm second)
    (key : String) : first.get? key = second.get? key := by
  have hnodup' : second.keys.Nodup := (hperm.map Prod.fst).nodup_iff.1 hnodup
  apply Option.ext
  intro value
  rw [get?_eq_some_iff hnodup, get?_eq_some_iff hnodup', hperm.mem_iff]

/-- All that an insertion can do: it replaces the first value of the name in its place, or appends the
name behind all others. -/
theorem put_cases (key : String) (value : α) (entries : Entries α) :
    (∃ before old after, key ∉ keys before ∧ entries = before ++ (key, old) :: after ∧
      put key value entries = before ++ (key, value) :: after) ∨
    (key ∉ keys entries ∧ put key value entries = entries ++ [(key, value)]) := by
  induction entries with
  | nil => exact Or.inr ⟨List.not_mem_nil, rfl⟩
  | cons entry rest ih =>
    by_cases hentry : entry.1 = key
    · subst hentry
      refine Or.inl ⟨[], entry.2, rest, List.not_mem_nil, rfl, ?_⟩
      rw [put, if_pos rfl, List.nil_append]
    · rw [put, if_neg hentry, keys_cons, List.mem_cons, not_or]
      rcases ih with ⟨before, old, after, hnew, hrest, hput⟩ | ⟨hnew, hput⟩
      · refine Or.inl ⟨entry :: before, old, after, ?_, ?_, ?_⟩
        · rw [keys_cons, List.mem_cons, not_or]
          exact ⟨Ne.symm hentry, hnew⟩
        · rw [hrest, List.cons_append]
        · rw [hput, List.cons_append]
      · refine Or.inr ⟨⟨Ne.symm hentry, hnew⟩, ?_⟩
        rw [hput, List.cons_append]

/-- Removing a name leaves the other names in their order. -/
theorem keys_erase (entries : Entries α) (key : String) :
    (entries.erase key).keys = entries.keys.filter fun name => name != key := by
  rw [erase, keys, keys, List.filter_map]
  rfl

/-- After a removal the name has no value, and every other name has its own. -/
theorem get?_erase (entries : Entries α) (key other : String) :
    (entries.erase key).get? other = if key = other then none else entries.get? other := by
  unfold get? erase
  rw [List.find?_filter]
  by_cases h : key = other
  · subst h
    rw [if_pos rfl, List.find?_eq_none.2 (by simp)]
    rfl
  · rw [if_neg h]
    congr 2
    funext entry
    by_cases hentry : entry.1 = other
    · simp [hentry, Ne.symm h]
    · simp [hentry]

theorem erase_of_not_mem {entries : Entries α} {key : String} (h : key ∉ keys entries) :
    entries.erase key = entries := by
  apply List.filter_eq_self.2
  intro entry hentry
  rw [bne_iff_ne]
  rintro rfl
  exact h (List.mem_map_of_mem hentry)

/-! ## Names that occur once -/

/-- A value stands in one place, and its name nowhere else. -/
theorem exists_split_of_get? {entries : Entries α} (hnodup : entries.keys.Nodup) {key : String}
    {value : α} (h : entries.get? key = some value) :
    ∃ before after, entries = before ++ (key, value) :: after ∧ key ∉ keys before ∧ key ∉ keys after := by
  obtain ⟨before, after, rfl⟩ := List.append_of_mem (mem_of_get? h)
  rw [keys, List.map_append, List.map_cons, List.nodup_append, List.nodup_cons] at hnodup
  refine ⟨before, after, rfl, ?_, hnodup.2.1.1⟩
  intro hbefore
  exact hnodup.2.2 key hbefore key List.mem_cons_self rfl

/-- A new value takes the place of the old one. -/
theorem put_append_cons {before : Entries α} {key : String} (h : key ∉ keys before) (old value : α)
    (after : Entries α) :
    put key value (before ++ (key, old) :: after) = before ++ (key, value) :: after := by
  induction before with
  | nil => rw [List.nil_append, put, if_pos rfl, List.nil_append]
  | cons entry rest ih =>
    rw [keys_cons, List.mem_cons, not_or] at h
    rw [List.cons_append, put, if_neg (Ne.symm h.1), ih h.2, List.cons_append]

/-- A removal leaves what stands before and behind the name. -/
theorem erase_append_cons {before after : Entries α} {key : String} (hbefore : key ∉ keys before)
    (hafter : key ∉ keys after) (value : α) :
    erase (before ++ (key, value) :: after) key = before ++ after := by
  have hvalue : erase ((key, value) :: after) key = erase after key := by simp [erase]
  calc erase (before ++ (key, value) :: after) key
      = erase before key ++ erase ((key, value) :: after) key := List.filter_append ..
    _ = before ++ after := by rw [hvalue, erase_of_not_mem hbefore, erase_of_not_mem hafter]

/-! ## Sequences of insertions -/

theorem nodup_keys_put (key : String) (value : α) {entries : Entries α} (h : entries.keys.Nodup) :
    (put key value entries).keys.Nodup := by
  rw [keys_put]
  by_cases hkey : key ∈ entries.keys
  · rwa [if_pos hkey]
  · rw [if_neg hkey]
    exact nodup_append_new h hkey

theorem nodup_keys_erase (key : String) {entries : Entries α} (h : entries.keys.Nodup) :
    (entries.erase key).keys.Nodup := by
  rw [keys_erase]
  exact h.filter _

theorem ofPairs_concat (pairs : List (String × α)) (pair : String × α) :
    ofPairs (pairs ++ [pair]) = put pair.1 pair.2 (ofPairs pairs) := by
  rw [ofPairs, List.foldl_append]
  rfl

/-- Insertions of names that differ from each other are kept as they are. -/
theorem ofPairs_of_nodup {pairs : List (String × α)} (h : (pairs.map Prod.fst).Nodup) :
    ofPairs pairs = pairs := by
  induction pairs using List.reverseRecOn with
  | nil => rfl
  | append_singleton pairs pair ih =>
    rw [List.map_append, List.map_singleton, List.nodup_append] at h
    have hnew : pair.1 ∉ keys pairs := by
      intro hmem
      exact h.2.2 pair.1 hmem pair.1 (List.mem_singleton_self _) rfl
    rw [ofPairs_concat, ih h.1, put_of_not_mem pair.2 hnew]

/-- The names that insertions leave are those inserted, each in the place of its first occurrence. -/
theorem keys_ofPairs (pairs : List (String × α)) :
    (ofPairs pairs).keys = (pairs.map Prod.fst).eraseDups := by
  induction pairs using List.reverseRecOn with
  | nil => rfl
  | append_singleton pairs pair ih =>
    rw [ofPairs_concat, keys_put, ih, List.map_append, List.eraseDups_append]
    by_cases hmem : pair.1 ∈ pairs.map Prod.fst
    · simp [List.removeAll, hmem]
    · simp [List.removeAll, hmem, List.eraseDups_cons]

/-- Insertions leave different names. -/
theorem nodup_keys_ofPairs (pairs : List (String × α)) : (ofPairs pairs).keys.Nodup := by
  induction pairs using List.reverseRecOn with
  | nil => exact List.nodup_nil
  | append_singleton pairs pair ih =>
    rw [ofPairs_concat]
    exact nodup_keys_put pair.1 pair.2 ih

/-- The value that insertions leave under a name is the last one inserted. -/
theorem get?_ofPairs (pairs : List (String × α)) (key : String) :
    (ofPairs pairs).get? key = get? pairs.reverse key := by
  induction pairs using List.reverseRecOn with
  | nil => rfl
  | append_singleton pairs pair ih =>
    rw [ofPairs_concat, get?_put, ih, List.reverse_append, List.reverse_singleton,
      List.singleton_append, get?_cons]

/-- Of two lists of entries the first one decides, if it has the name. -/
theorem get?_append (first second : Entries α) (key : String) :
    get? (first ++ second) key = (get? first key).or (get? second key) := by
  induction first with
  | nil => rfl
  | cons entry rest ih =>
    rw [List.cons_append, get?_cons, get?_cons, ih]
    by_cases h : entry.1 = key
    · simp [h]
    · simp [h]

/-- The last pair with a name is the first one from behind. -/
theorem get?_reverse_of_last {before after : List (String × α)} {key : String} (value : α)
    (hlast : key ∉ after.map Prod.fst) :
    get? (before ++ (key, value) :: after).reverse key = some value := by
  have hafter : get? after.reverse key = none := by
    rw [get?_eq_none_iff, keys, List.map_reverse, List.mem_reverse]
    exact hlast
  rw [List.reverse_append, List.reverse_cons, List.append_assoc, get?_append, hafter, Option.none_or,
    List.singleton_append, get?_cons, if_pos rfl]

/-- Entries that have every name of a list of pairs once, in the order of first occurrences, each with
its last value. -/
structure Collects (pairs : List (String × α)) (entries : Entries α) : Prop where
  keys_eq : entries.keys = (pairs.map Prod.fst).eraseDups
  get?_eq : ∀ key, entries.get? key = get? pairs.reverse key

theorem collects_ofPairs (pairs : List (String × α)) : Collects pairs (ofPairs pairs) :=
  ⟨keys_ofPairs pairs, get?_ofPairs pairs⟩

theorem Collects.nodup_keys {pairs : List (String × α)} {entries : Entries α}
    (h : Collects pairs entries) : entries.keys.Nodup := by
  rw [h.keys_eq, ← keys_ofPairs]
  exact nodup_keys_ofPairs pairs

theorem Collects.mem_keys {pairs : List (String × α)} {entries : Entries α}
    (h : Collects pairs entries) {key : String} : key ∈ entries.keys ↔ key ∈ pairs.map Prod.fst := by
  rw [h.keys_eq, List.mem_eraseDups]

end BenchScope.Entries
