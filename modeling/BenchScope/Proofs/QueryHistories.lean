import BenchScope.Proofs.QueryStrings
import Mathlib.Data.List.Nodup

/-!
# Queries and their histories

A query is what its history leaves: the pairs of the text it was read from, in their order, and the changes
that were made afterwards. A name has the value that it was given last unless it was removed since, and the
names stand in the order in which they came in, where a name that was removed comes in anew. The main
statement says so for every text and every sequence of changes, and that the pairs of the query are the only
list with these properties; so a change of one name is seen at this name only.
-/

namespace BenchScope.Query

/-! ## Histories -/

/-- The name that a change is about. -/
def Edit.name : Edit → String
  | .set name _ => name
  | .erase name => name

/-- The value that a change leaves under its name. -/
def Edit.value? : Edit → Option String
  | .set _ value => some value
  | .erase _ => none

/-- The changes that reading a text makes, one for each of its pairs with a name. -/
def readEdits (text : String) : List Edit :=
  ((Form.parse (withoutMark text.toList)).filter fun pair => pair.1 ≠ "").map fun pair =>
    .set pair.1 pair.2

/-- Whatever value a name was given, it was removed afterwards. -/
def Unset (history : List Edit) (name : String) : Prop :=
  ∀ before value after, history = before ++ .set name value :: after → .erase name ∈ after

/-- The value that a name was given last, without a removal of the name behind it. -/
def LastSet (history : List Edit) (name value : String) : Prop :=
  ∃ before after, history = before ++ .set name value :: after ∧ ∀ change ∈ after, change.name ≠ name

/-- The place where a name was given a value for the first time since its last removal. -/
def InsertedAt (history : List Edit) (name : String) (place : Nat) : Prop :=
  ∃ before value after, history = before ++ .set name value :: after ∧ before.length = place ∧
    Unset before name ∧ .erase name ∉ after

/-- Two names that are there, the first of which came in earlier. -/
def InsertedBefore (history : List Edit) (first second : String) : Prop :=
  ∃ place later, InsertedAt history first place ∧ InsertedAt history second later ∧ place < later

/-- The pairs that a history leaves: every name that has a value once, with this value, in the order in
which the names came in. -/
structure Leaves (history : List Edit) (pairs : Entries String) : Prop where
  nodup : pairs.keys.Nodup
  mem_iff : ∀ name value, (name, value) ∈ pairs ↔ LastSet history name value
  ordered : pairs.keys.Pairwise (InsertedBefore history)

theorem Edit.eq_set_iff {change : Edit} {name value : String} :
    change = .set name value ↔ change.name = name ∧ change.value? = some value := by
  cases change with
  | set other given => simp [Edit.name, Edit.value?]
  | erase other => simp [Edit.value?]

theorem Edit.eq_erase_iff {change : Edit} {name : String} :
    change = .erase name ↔ change.name = name ∧ change.value? = none := by
  cases change with
  | set other given => simp [Edit.value?]
  | erase other => simp [Edit.name, Edit.value?]

/-! ## One more change

What a history says about a name after one more change is decided by the change if it is about the name,
and by the history before it if it is not. -/

/-- A change of a longer history is the last one, or a change of the history before. -/
theorem concat_eq_append_cons_iff {history before after : List Edit} {last change : Edit} :
    history ++ [last] = before ++ change :: after ↔
      (before = history ∧ change = last ∧ after = []) ∨
      ∃ rest, after = rest ++ [last] ∧ history = before ++ change :: rest := by
  constructor
  · intro h
    rcases List.eq_nil_or_concat after with rfl | ⟨rest, final, rfl⟩
    · obtain ⟨hbefore, hchange⟩ := List.append_inj' h rfl
      exact Or.inl ⟨hbefore.symm, (List.head_eq_of_cons_eq hchange).symm, rfl⟩
    · rw [List.concat_eq_append, ← List.cons_append, ← List.append_assoc] at h
      obtain ⟨hhistory, hfinal⟩ := List.append_inj' h rfl
      refine Or.inr ⟨rest, ?_, hhistory⟩
      rw [List.concat_eq_append, hfinal]
  · rintro (⟨rfl, rfl, rfl⟩ | ⟨rest, rfl, rfl⟩)
    · rfl
    · rw [List.append_assoc, List.cons_append]

/-- A change removes its name or gives it a value, and leaves other names as they were. -/
theorem unset_concat {history : List Edit} {change : Edit} {name : String} :
    Unset (history ++ [change]) name ↔
      if change.name = name then change.value? = none else Unset history name := by
  by_cases hname : change.name = name
  · rw [if_pos hname]
    constructor
    · intro h
      by_contra hvalue
      obtain ⟨value, hvalue⟩ := Option.ne_none_iff_exists'.1 hvalue
      have hset : change = .set name value := Edit.eq_set_iff.2 ⟨hname, hvalue⟩
      -- nothing stands behind this value that could remove it
      have hremoved : Edit.erase name ∈ [] := h history value [] (by rw [hset])
      cases hremoved
    · intro hvalue before value after hsplit
      have herase : change = .erase name := Edit.eq_erase_iff.2 ⟨hname, hvalue⟩
      rcases concat_eq_append_cons_iff.1 hsplit with ⟨-, hset, -⟩ | ⟨rest, rfl, -⟩
      · cases hset.trans herase
      · rw [herase]
        exact List.mem_append_right _ (List.mem_singleton_self _)
  · rw [if_neg hname]
    constructor
    · intro h before value after hsplit
      have hlonger : history ++ [change] = before ++ .set name value :: (after ++ [change]) :=
        concat_eq_append_cons_iff.2 (Or.inr ⟨after, rfl, hsplit⟩)
      have hremoved := h before value (after ++ [change]) hlonger
      rcases List.mem_append.1 hremoved with hafter | hlast
      · exact hafter
      · exact absurd (Edit.eq_erase_iff.1 (List.mem_singleton.1 hlast).symm).1 hname
    · intro h before value after hsplit
      rcases concat_eq_append_cons_iff.1 hsplit with ⟨-, hset, -⟩ | ⟨rest, rfl, hrest⟩
      · exact absurd (Edit.eq_set_iff.1 hset.symm).1 hname
      · exact List.mem_append_left _ (h before value rest hrest)

/-- The value of a name is that of the last change if the change is about the name. -/
theorem lastSet_concat {history : List Edit} {change : Edit} {name value : String} :
    LastSet (history ++ [change]) name value ↔
      if change.name = name then change.value? = some value else LastSet history name value := by
  constructor
  · rintro ⟨before, after, hsplit, hafter⟩
    rcases concat_eq_append_cons_iff.1 hsplit with ⟨-, hset, -⟩ | ⟨rest, rfl, hrest⟩
    · obtain ⟨hname, hvalue⟩ := Edit.eq_set_iff.1 hset.symm
      rwa [if_pos hname]
    · rw [List.forall_mem_append, List.forall_mem_singleton] at hafter
      rw [if_neg hafter.2]
      exact ⟨before, rest, hrest, hafter.1⟩
  · by_cases hname : change.name = name
    · rw [if_pos hname]
      intro hvalue
      exact ⟨history, [], by rw [Edit.eq_set_iff.2 ⟨hname, hvalue⟩], List.forall_mem_nil _⟩
    · rw [if_neg hname]
      rintro ⟨before, after, rfl, hafter⟩
      refine ⟨before, after ++ [change], concat_eq_append_cons_iff.2 (Or.inr ⟨after, rfl, rfl⟩), ?_⟩
      rw [List.forall_mem_append, List.forall_mem_singleton]
      exact ⟨hafter, hname⟩

/-- A name that is there came in earlier and is not removed, or comes in with the last change. -/
theorem insertedAt_concat {history : List Edit} {change : Edit} {name : String} {place : Nat} :
    InsertedAt (history ++ [change]) name place ↔
      (InsertedAt history name place ∧ change ≠ .erase name) ∨
      (place = history.length ∧ Unset history name ∧ ∃ value, change = .set name value) := by
  constructor
  · rintro ⟨before, value, after, hsplit, rfl, hunset, hkept⟩
    rcases concat_eq_append_cons_iff.1 hsplit with ⟨rfl, hset, -⟩ | ⟨rest, rfl, rfl⟩
    · exact Or.inr ⟨rfl, hunset, value, hset.symm⟩
    · rw [List.mem_append, List.mem_singleton, not_or] at hkept
      exact Or.inl ⟨⟨before, value, rest, rfl, rfl, hunset, hkept.1⟩, Ne.symm hkept.2⟩
  · rintro (⟨⟨before, value, after, rfl, rfl, hunset, hkept⟩, hchange⟩ | ⟨rfl, hunset, value, rfl⟩)
    · have hlonger : before ++ .set name value :: after ++ [change] =
          before ++ .set name value :: (after ++ [change]) :=
        concat_eq_append_cons_iff.2 (Or.inr ⟨after, rfl, rfl⟩)
      refine ⟨before, value, after ++ [change], hlonger, rfl, hunset, ?_⟩
      rw [List.mem_append, List.mem_singleton, not_or]
      exact ⟨hkept, Ne.symm hchange⟩
    · exact ⟨history, value, [], rfl, rfl, hunset, List.not_mem_nil⟩

/-! ## Any history -/

theorem unset_nil (name : String) : Unset [] name := by
  intro before value after hsplit
  exact absurd hsplit.symm (by simp)

theorem not_lastSet_nil (name value : String) : ¬LastSet [] name value := by
  rintro ⟨before, after, hsplit, -⟩
  exact absurd hsplit.symm (by simp)

/-- A name has a last value unless all its values were removed. -/
theorem unset_iff_forall_not_lastSet {history : List Edit} {name : String} :
    Unset history name ↔ ∀ value, ¬LastSet history name value := by
  induction history using List.reverseRecOn with
  | nil => exact iff_of_true (unset_nil name) (not_lastSet_nil name)
  | append_singleton history change ih =>
    simp only [unset_concat, lastSet_concat]
    by_cases hname : change.name = name
    · simp only [if_pos hname, Option.eq_none_iff_forall_ne_some, ne_eq]
    · simpa only [if_neg hname] using ih

/-- A name came in somewhere unless all its values were removed. -/
theorem exists_insertedAt_iff {history : List Edit} {name : String} :
    (∃ place, InsertedAt history name place) ↔ ¬Unset history name := by
  induction history using List.reverseRecOn with
  | nil =>
    refine iff_of_false ?_ (not_not_intro (unset_nil name))
    rintro ⟨place, before, value, after, hsplit, -⟩
    exact absurd hsplit.symm (by simp)
  | append_singleton history change ih =>
    rw [unset_concat]
    by_cases hname : change.name = name
    · rw [if_pos hname]
      constructor
      · rintro ⟨place, hplace⟩ hvalue
        rcases insertedAt_concat.1 hplace with ⟨-, hkept⟩ | ⟨-, -, value, hset⟩
        · exact hkept (Edit.eq_erase_iff.2 ⟨hname, hvalue⟩)
        · exact absurd (Edit.eq_set_iff.1 hset).2 (by simp [hvalue])
      · intro hvalue
        obtain ⟨value, hvalue⟩ := Option.ne_none_iff_exists'.1 hvalue
        have hset : change = .set name value := Edit.eq_set_iff.2 ⟨hname, hvalue⟩
        -- the name keeps the place it has, or comes in now
        by_cases hunset : Unset history name
        · exact ⟨history.length, insertedAt_concat.2 (Or.inr ⟨rfl, hunset, value, hset⟩)⟩
        · obtain ⟨place, hplace⟩ := ih.2 hunset
          exact ⟨place, insertedAt_concat.2 (Or.inl ⟨hplace, by simp [hset]⟩)⟩
    · rw [if_neg hname, ← ih]
      constructor
      · rintro ⟨place, hplace⟩
        rcases insertedAt_concat.1 hplace with ⟨hold, -⟩ | ⟨-, -, value, hset⟩
        · exact ⟨place, hold⟩
        · exact absurd (Edit.eq_set_iff.1 hset).1 hname
      · rintro ⟨place, hplace⟩
        refine ⟨place, insertedAt_concat.2 (Or.inl ⟨hplace, ?_⟩)⟩
        intro herase
        exact hname (Edit.eq_erase_iff.1 herase).1

/-- A place is one of the history. -/
theorem InsertedAt.lt_length {history : List Edit} {name : String} {place : Nat}
    (h : InsertedAt history name place) : place < history.length := by
  obtain ⟨before, value, after, rfl, rfl, -⟩ := h
  simp

/-- A name came in at one place only. -/
theorem InsertedAt.unique {history : List Edit} {name : String} {first second : Nat}
    (hfirst : InsertedAt history name first) (hsecond : InsertedAt history name second) :
    first = second := by
  induction history using List.reverseRecOn with
  | nil => exact absurd hfirst.lt_length (Nat.not_lt_zero _)
  | append_singleton history change ih =>
    rcases insertedAt_concat.1 hfirst with ⟨hold, -⟩ | ⟨rfl, hunset, -⟩
    · rcases insertedAt_concat.1 hsecond with ⟨hold', -⟩ | ⟨-, hunset, -⟩
      · exact ih hold hold'
      · exact absurd hunset (exists_insertedAt_iff.1 ⟨first, hold⟩)
    · rcases insertedAt_concat.1 hsecond with ⟨hold, -⟩ | ⟨hplace, -⟩
      · exact absurd hunset (exists_insertedAt_iff.1 ⟨second, hold⟩)
      · exact hplace.symm

/-- Of two names only one can have come in earlier. -/
theorem InsertedBefore.asymm {history : List Edit} {first second : String}
    (h : InsertedBefore history first second) : ¬InsertedBefore history second first := by
  obtain ⟨place, later, hplace, hlater, hlt⟩ := h
  rintro ⟨later', place', hlater', hplace', hlt'⟩
  have hfirst : place = place' := hplace.unique hplace'
  have hsecond : later = later' := hlater.unique hlater'
  omega

/-- Names that are not removed stay in their order. -/
theorem InsertedBefore.concat {history : List Edit} {change : Edit} {first second : String}
    (h : InsertedBefore history first second) (hfirst : change ≠ .erase first)
    (hsecond : change ≠ .erase second) : InsertedBefore (history ++ [change]) first second := by
  obtain ⟨place, later, hplace, hlater, hlt⟩ := h
  exact ⟨place, later, insertedAt_concat.2 (Or.inl ⟨hplace, hfirst⟩),
    insertedAt_concat.2 (Or.inl ⟨hlater, hsecond⟩), hlt⟩

/-- A history leaves one list of pairs only: the names in it and their order are given. -/
theorem Leaves.unique {history : List Edit} {first second : Entries String} (hfirst : Leaves history first)
    (hsecond : Leaves history second) : first = second := by
  have hperm : first.Perm second := by
    rw [List.perm_ext_iff_of_nodup (.of_map _ hfirst.nodup) (.of_map _ hsecond.nodup)]
    rintro ⟨name, value⟩
    rw [hfirst.mem_iff, hsecond.mem_iff]
  -- the order of the names is strict, so it arranges them in one way
  refine hperm.eq_of_pairwise ?_ (List.pairwise_map.1 hfirst.ordered) (List.pairwise_map.1 hsecond.ordered)
  rintro pair other - - hbefore hafter
  exact absurd hafter hbefore.asymm

/-- The names that are left are those that have not been removed. -/
theorem Leaves.mem_keys_iff {history : List Edit} {pairs : Entries String} (h : Leaves history pairs)
    {name : String} : name ∈ pairs.keys ↔ ¬Unset history name := by
  rw [unset_iff_forall_not_lastSet, ← Entries.get?_isSome_iff]
  simp only [Entries.get?_eq_some_iff h.nodup, h.mem_iff, not_forall, Classical.not_not]

/-! ## Queries along a history -/

/-- Looking up a name gives the value that it was given last. -/
theorem Leaves.get?_eq_some_iff {history : List Edit} {query : Query} (h : Leaves history query.pairs)
    {name value : String} : query.get? name = some value ↔ LastSet history name value :=
  (Entries.get?_eq_some_iff h.nodup).trans (h.mem_iff name value)

/-- A change decides about its own name only. -/
theorem get?_edit (query : Query) (change : Edit) (name : String) :
    (query.edit change).get? name = if change.name = name then change.value? else query.get? name := by
  cases change with
  | set other value => exact get?_set query other name value
  | erase other => exact get?_erase query other name

theorem nodup_keys_edit {query : Query} (h : query.pairs.keys.Nodup) (change : Edit) :
    (query.edit change).pairs.keys.Nodup := by
  cases change with
  | set name value => exact Entries.nodup_keys_put name value h
  | erase name => exact Entries.nodup_keys_erase name h

/-- A new name comes in behind all others, and every other change keeps the order of the names it leaves. -/
theorem Leaves.ordered_edit {history : List Edit} {query : Query} (h : Leaves history query.pairs)
    (change : Edit) : (query.edit change).pairs.keys.Pairwise (InsertedBefore (history ++ [change])) := by
  cases change with
  | set name value =>
    -- nothing is removed, so only a name that comes in has to be compared with the others
    have hkept : query.pairs.keys.Pairwise (InsertedBefore (history ++ [.set name value])) := by
      refine h.ordered.imp ?_
      intro first second hbefore
      exact hbefore.concat (by simp) (by simp)
    show (query.pairs.put name value).keys.Pairwise _
    rw [Entries.keys_put]
    by_cases hname : name ∈ query.pairs.keys
    · rwa [if_pos hname]
    · rw [if_neg hname, List.pairwise_append]
      refine ⟨hkept, List.pairwise_singleton _ _, ?_⟩
      intro first hfirst second hsecond
      rw [List.mem_singleton.1 hsecond]
      obtain ⟨place, hplace⟩ := exists_insertedAt_iff.2 (h.mem_keys_iff.1 hfirst)
      have hunset : Unset history name := Classical.not_not.1 fun hset => hname (h.mem_keys_iff.2 hset)
      exact ⟨place, history.length, insertedAt_concat.2 (Or.inl ⟨hplace, by simp⟩),
        insertedAt_concat.2 (Or.inr ⟨rfl, hunset, value, rfl⟩), hplace.lt_length⟩
  | erase name =>
    show (query.pairs.erase name).keys.Pairwise _
    rw [Entries.keys_erase]
    refine (h.ordered.filter _).imp_of_mem ?_
    intro first second hfirst hsecond hbefore
    have hfirst' : first ≠ name := bne_iff_ne.1 (List.mem_filter.1 hfirst).2
    have hsecond' : second ≠ name := bne_iff_ne.1 (List.mem_filter.1 hsecond).2
    exact hbefore.concat (by simp [Ne.symm hfirst']) (by simp [Ne.symm hsecond'])

/-- One more change leaves the pairs of the history with this change. -/
theorem Leaves.edit {history : List Edit} {query : Query} (h : Leaves history query.pairs) (change : Edit) :
    Leaves (history ++ [change]) (query.edit change).pairs := by
  have hnodup := nodup_keys_edit h.nodup change
  refine ⟨hnodup, ?_, h.ordered_edit change⟩
  intro name value
  have hfound : (query.edit change).get? name = some value ↔ (name, value) ∈ (query.edit change).pairs :=
    Entries.get?_eq_some_iff hnodup
  rw [← hfound, get?_edit, lastSet_concat]
  by_cases hname : change.name = name
  · rw [if_pos hname, if_pos hname]
  · rw [if_neg hname, if_neg hname, h.get?_eq_some_iff]

/-- Changes of a query without parameters leave what their history says. -/
theorem leaves_editAll (history : List Edit) : Leaves history (empty.editAll history).pairs := by
  -- from the end: a change acts on what the changes before it left
  induction history using List.reverseRecOn with
  | nil =>
    refine ⟨List.nodup_nil, ?_, .nil⟩
    intro name value
    exact iff_of_false List.not_mem_nil (not_lastSet_nil name value)
  | append_singleton history change ih =>
    rw [editAll, List.foldl_append]
    exact ih.edit change

/-- Reading a text is a sequence of changes like any other. -/
theorem parse_eq_editAll (text : String) : parse text = empty.editAll (readEdits text) := by
  rw [editAll, readEdits, List.foldl_map]
  exact (List.foldl_hom Query.mk fun entries pair => rfl).symm

/-- Changes of a query that was read continue the history that reading made. -/
theorem editAll_parse (text : String) (edits : List Edit) :
    (parse text).editAll edits = empty.editAll (readEdits text ++ edits) := by
  rw [parse_eq_editAll, editAll, editAll, editAll, List.foldl_append]

/-- **Queries are maps in order of insertion.** For a query that was read from any text and then changed
in any way, a name has the value that it was given last, by a pair of the text or by a change, unless it was
removed since; it has none exactly if each of its values was removed. The pairs of the query have every such
name once, in the order in which the names came in since their last removals, and they are the only list
that does. Setting a name that is there puts the new value in the place of the old one and changes no other
pair, a new name is set behind all pairs, and removing a name takes out its pair, if there is one, and
nothing else. -/
theorem query_follows_history (text : String) (edits : List Edit) :
    let query := (parse text).editAll edits
    let history := readEdits text ++ edits
    (∀ name value, query.get? name = some value ↔ LastSet history name value) ∧
    (∀ name, query.get? name = none ↔ Unset history name) ∧
    (∀ pairs, Leaves history pairs ↔ pairs = query.pairs) ∧
    (∀ name, query.get? name = none →
      query.erase name = query ∧ ∀ value, (query.set name value).pairs = query.pairs ++ [(name, value)]) ∧
    ∀ name old, query.get? name = some old →
      ∃ before after, query.pairs = before ++ (name, old) :: after ∧
        (query.erase name).pairs = before ++ after ∧
        ∀ value, (query.set name value).pairs = before ++ (name, value) :: after := by
  intro query history
  -- what is read from the text is a history of insertions, which the edits continue
  have hleaves : Leaves history query.pairs := by
    show Leaves history ((parse text).editAll edits).pairs
    rw [editAll_parse]
    exact leaves_editAll history
  refine ⟨?_, ?_, ?_, ?_, ?_⟩
  · exact fun name value => hleaves.get?_eq_some_iff
  · intro name
    rw [get?, Entries.get?_eq_none_iff, hleaves.mem_keys_iff, Classical.not_not]
  · intro pairs
    constructor
    · intro hpairs
      exact hpairs.unique hleaves
    · rintro rfl
      exact hleaves
  · intro name hnone
    have hnew : name ∉ query.pairs.keys := Entries.get?_eq_none_iff.1 hnone
    refine ⟨congrArg Query.mk (Entries.erase_of_not_mem hnew), ?_⟩
    intro value
    exact Entries.put_of_not_mem value hnew
  · intro name old hold
    -- the name stands at one place among the pairs, and an edit of it changes this place only
    obtain ⟨before, after, hpairs, hbefore, hafter⟩ := Entries.exists_split_of_get? hleaves.nodup hold
    refine ⟨before, after, hpairs, ?_, ?_⟩
    · rw [erase, hpairs, Entries.erase_append_cons hbefore hafter]
    · intro value
      rw [set, hpairs, Entries.put_append_cons hbefore]

/-- A name that occurs twice in the text keeps its first place, a pair without a name is dropped, a name that
is removed and set again moves to the end, and a change may set the empty name. -/
theorem query_follows_history_reinserted :
    let edits := [Edit.set "b" "4", .erase "a", .set "c" "5", .set "a" "6", .set "" "7"]
    let query := (parse "?a=1&=x&b=2&a=3").editAll edits
    let history := readEdits "?a=1&=x&b=2&a=3" ++ edits
    (parse "?a=1&=x&b=2&a=3").pairs = [("a", "3"), ("b", "2")] ∧
    query.pairs = [("b", "4"), ("c", "5"), ("a", "6"), ("", "7")] ∧
    Leaves history query.pairs ∧ LastSet history "a" "6" ∧ Unset history "d" := by
  intro edits query history
  obtain ⟨hsome, hnone, hpairs, -, -⟩ := query_follows_history "?a=1&=x&b=2&a=3" edits
  have hlast : query.get? "a" = some "6" := by decide +kernel
  have hunset : query.get? "d" = none := by decide +kernel
  exact ⟨by decide +kernel, by decide +kernel, (hpairs _).2 rfl, (hsome _ _).1 hlast, (hnone _).1 hunset⟩

end BenchScope.Query
