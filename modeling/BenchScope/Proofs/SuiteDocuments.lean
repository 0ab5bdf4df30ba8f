import BenchScope.Proofs.JsonReading
import BenchScope.Proofs.JsonWriting
import BenchScope.Suite.Document

/-!
# Suite documents

What a suite document looks like is said by `IsContent`: an object or an array with a name and groups,
each of them an object or an array of texts. The main statement, `parse_round_trip`, holds for every
document that is read: the suite has every key of the document once, in the order in which keys occur
first, with the last group under the key; a group without a name is named by its key; and the suite is
read back from what is written for it.
-/

namespace BenchScope.Suite

open Json.Read Json.Grammar

variable {α β : Type}

/-! ## The form of suite documents -/

/-- The names of the members that a group may have once. -/
def specNames : List String := ["name", "desc", "results", "src"]

/-- The names of the members that a suite may have once. -/
def suiteNames : List String := ["name", "benchmarks"]

/-- The text of a group: an object with `results`, or an array of three or four texts. Texts that are
absent are empty. -/
inductive IsSpec : List Char → Spec → Prop where
  | object {text : List Char} {raw : List (String × List Char)} {name description source : Option String}
      {results : String} (h : IsObject text raw) (honce : Once specNames raw)
      (hname : Gives raw "name" Quoted name) (hdescription : Gives raw "desc" Quoted description)
      (hresults : Gives raw "results" Quoted (some results)) (hsource : Gives raw "src" Quoted source)
      (hothers : ∀ part ∈ raw, part.1 ∉ specNames → Value part.2) :
      IsSpec text ⟨name.getD "", description.getD "", results, source.getD ""⟩
  | array {text : List Char} {items : List (List Char)} {name description results : String}
      {source : Option String} (h : IsArray text items)
      (hitems : List.Forall₂ Quoted items ([name, description, results] ++ source.toList)) :
      IsSpec text ⟨name, description, results, source.getD ""⟩

/-- The text of the groups of a suite, in document order and with repeated keys. -/
def IsGroups (text : List Char) (entries : List (String × Spec)) : Prop :=
  ObjectOf (fun key core entry => entry.1 = key ∧ IsSpec core entry.2) text entries

/-- The text of a suite: an object, or an array that ends in front of what is absent. -/
inductive IsContent : List Char → String → List (String × Spec) → Prop where
  | object {text : List Char} {raw : List (String × List Char)} {name : Option String}
      {groups : Option (List (String × Spec))} (h : IsObject text raw) (honce : Once suiteNames raw)
      (hname : Gives raw "name" Quoted name) (hgroups : Gives raw "benchmarks" IsGroups groups)
      (hothers : ∀ part ∈ raw, part.1 ∉ suiteNames → Value part.2) :
      IsContent text (name.getD "") (groups.getD [])
  | empty {text : List Char} (h : IsArray text []) : IsContent text "" []
  | named {text first : List Char} {name : String} (h : IsArray text [first])
      (hname : Quoted first name) : IsContent text name []
  | full {text first second : List Char} {name : String} {entries : List (String × Spec)}
      (h : IsArray text [first, second]) (hname : Quoted first name) (hgroups : IsGroups second entries) :
      IsContent text name entries

/-! ## Members -/

/-- A member that is kept is read as its value is read, behind a colon. -/
theorem namedField_sound (target : List Char → β → Prop) {make : α → β} {reader : Reader α}
    {form : List Char → α → Prop} (hreader : Reads reader form)
    (hmake : ∀ core value, form core value → target core (make value)) {text rest : List Char} {field : β}
    (h : namedField make reader text = .ok (field, rest)) :
    Follows (fun core => target core field) text rest := by
  unfold namedField at h
  split at h
  · cases h
  · rename_i value left hfield
    obtain ⟨rfl, rfl⟩ := Prod.mk.inj (Except.ok.inj h)
    obtain ⟨between, after, core, hbetween, hafter, hform, htext⟩ := field_sound hreader hfield
    exact ⟨between, after, core, hbetween, hafter, hmake core value hform, htext⟩

/-- A member that is passed over is some value behind a colon. -/
theorem skipField_sound {member field : α} {text rest : List Char}
    (h : skipField member text = .ok (field, rest)) : field = member ∧ Follows Value text rest := by
  unfold skipField at h
  split at h
  · cases h
  · rename_i start hcolon
    split at h
    · cases h
    · rename_i left hskip
      obtain ⟨rfl, rfl⟩ := Prod.mk.inj (Except.ok.inj h)
      obtain ⟨between, hbetween, rfl⟩ := colon_sound hcolon
      obtain ⟨after, core, hafter, hcore, rfl⟩ := skipValue_sound hskip
      exact ⟨rfl, between, after, core, hbetween, hafter, hcore, rfl⟩

/-- A second member of one name is never read. -/
theorem duplicate_ne_ok {name : String} {text : List Char} {read : α} :
    duplicate name text ≠ .ok read := by
  unfold duplicate
  split
  · exact nofun
  · exact nofun

/-- The text of a member of a group, after its name. -/
inductive IsSpecField : String → List Char → SpecField → Prop where
  | name {core : List Char} {value : String} (h : Quoted core value) :
      IsSpecField "name" core (.name value)
  | description {core : List Char} {value : String} (h : Quoted core value) :
      IsSpecField "desc" core (.description value)
  | results {core : List Char} {value : String} (h : Quoted core value) :
      IsSpecField "results" core (.results value)
  | source {core : List Char} {value : String} (h : Quoted core value) :
      IsSpecField "src" core (.source value)
  | other {name : String} {core : List Char} (hname : name ∉ specNames) (h : Value core) :
      IsSpecField name core .other

/-- A member of a group counts under its own name if it is one of the four. -/
theorem IsSpecField.key?_eq {name : String} {core : List Char} {field : SpecField}
    (h : IsSpecField name core field) : field.key? = if name ∈ specNames then some name else none := by
  cases h with
  | name => rfl
  | description => rfl
  | results => rfl
  | source => rfl
  | other hname => rw [if_neg hname]; rfl

/-- A member of a group that is read is not there yet, and its text is that of a member of its name. -/
theorem specField_sound {before : List SpecField} {name : String} {text rest : List Char}
    {field : SpecField} (h : specField before name text = .ok (field, rest)) :
    (before.any fun f => f.key? == some name) = false ∧
      Follows (fun core => IsSpecField name core field) text rest := by
  unfold specField at h
  by_cases hold : (before.any fun f => f.key? == some name) = true
  · rw [if_pos hold] at h
    exact absurd h duplicate_ne_ok
  rw [if_neg hold] at h
  refine ⟨Bool.eq_false_iff.2 hold, ?_⟩
  -- the four names are tried one after the other; the value of any other member is passed over
  by_cases hname : name = "name"
  · rw [if_pos hname] at h
    exact namedField_sound (IsSpecField name) reads_text (fun _ _ hcore => hname ▸ .name hcore) h
  rw [if_neg hname] at h
  by_cases hdesc : name = "desc"
  · rw [if_pos hdesc] at h
    exact namedField_sound (IsSpecField name) reads_text (fun _ _ hcore => hdesc ▸ .description hcore) h
  rw [if_neg hdesc] at h
  by_cases hresults : name = "results"
  · rw [if_pos hresults] at h
    exact namedField_sound (IsSpecField name) reads_text (fun _ _ hcore => hresults ▸ .results hcore) h
  rw [if_neg hresults] at h
  by_cases hsrc : name = "src"
  · rw [if_pos hsrc] at h
    exact namedField_sound (IsSpecField name) reads_text (fun _ _ hcore => hsrc ▸ .source hcore) h
  rw [if_neg hsrc] at h
  obtain ⟨rfl, between, after, core, hbetween, hafter, hcore, htext⟩ := skipField_sound h
  have hother : name ∉ specNames := by simp [specNames, hname, hdesc, hresults, hsrc]
  exact ⟨between, after, core, hbetween, hafter, .other hother hcore, htext⟩

/-! ## Groups -/

/-- The text that a member of a group holds. -/
def SpecField.value? : SpecField → Option String
  | .name s => some s
  | .description s => some s
  | .results s => some s
  | .source s => some s
  | .other => none

/-- A member of one of the four names holds what its quoted text spells. -/
theorem IsSpecField.value?_eq {name : String} {core : List Char} {field : SpecField}
    (h : IsSpecField name core field) (hname : name ∈ specNames) :
    ∃ value, field.value? = some value ∧ Quoted core value := by
  cases h with
  | name h => exact ⟨_, rfl, h⟩
  | description h => exact ⟨_, rfl, h⟩
  | results h => exact ⟨_, rfl, h⟩
  | source h => exact ⟨_, rfl, h⟩
  | other hother _ => exact absurd hname hother

theorem IsSpecField.value_of_other {name : String} {core : List Char} {field : SpecField}
    (h : IsSpecField name core field) (hname : name ∉ specNames) : Value core := by
  cases h with
  | other _ h => exact h
  | _ => exact absurd hname (by simp [specNames])

/-- A text is picked out of the members of a group as the document gives it. -/
theorem gives_specField {raw : List (String × List Char)} {fields : List SpecField}
    (h : List.Forall₂ (fun part field => IsSpecField part.1 part.2 field) raw fields) {key : String}
    (hkey : key ∈ specNames) {pick : SpecField → Option String}
    (hpick : ∀ field, pick field = if field.key? = some key then field.value? else none) :
    Gives raw key Quoted (fields.findSome? pick) := by
  apply gives_findSome? _ h
  intro name core field hfield
  have hname := hfield.key?_eq
  rw [hpick]
  by_cases heq : name = key
  · rw [heq, if_pos hkey] at hname
    rw [if_pos hname]
    exact Or.inl ⟨heq, hfield.value?_eq (heq ▸ hkey)⟩
  · have hne : field.key? ≠ some key := by
      rw [hname]
      split
      · exact fun hsome => heq (Option.some.inj hsome)
      · exact nofun
    rw [if_neg hne]
    exact Or.inr ⟨heq, rfl⟩

/-- The members of an object, none of the four twice and `results` among them, are those of a group. -/
theorem isSpec_of_fields {text : List Char} {fields : List SpecField} {spec : Spec}
    (h : ObjectOf IsSpecField text fields) (honce : (fields.filterMap SpecField.key?).Nodup)
    (hspec : specOfFields? fields = some spec) : IsSpec text spec := by
  obtain ⟨raw, hraw, hfields⟩ := h
  obtain ⟨results, hresults, hmake⟩ := Option.bind_eq_some_iff.1 hspec
  obtain rfl := Option.some.inj hmake
  refine .object hraw ?_ ?_ ?_ ?_ ?_ (forall_members (fun _ _ _ h => h.value_of_other) hfields)
  · rwa [filterMap_key? (fun _ _ _ h => h.key?_eq) hfields] at honce
  · apply gives_specField hfields (by simp [specNames])
    intro field
    cases field <;> simp [SpecField.key?, SpecField.value?]
  · apply gives_specField hfields (by simp [specNames])
    intro field
    cases field <;> simp [SpecField.key?, SpecField.value?]
  · rw [← hresults]
    apply gives_specField hfields (by simp [specNames])
    intro field
    cases field <;> simp [SpecField.key?, SpecField.value?]
  · apply gives_specField hfields (by simp [specNames])
    intro field
    cases field <;> simp [SpecField.key?, SpecField.value?]

/-- Members of groups are read as the text of such members tells. -/
theorem readsMember_specField : ReadsMember specField IsSpecField := by
  intro before name text field rest h
  exact (specField_sound h).2

/-- No two members of a group get the same of the four names. -/
theorem nodup_keys_specField {before : List SpecField} {name : String} {text rest : List Char}
    {field : SpecField} (hbefore : (before.filterMap SpecField.key?).Nodup)
    (h : specField before name text = .ok (field, rest)) :
    ((before ++ [field]).filterMap SpecField.key?).Nodup := by
  obtain ⟨hnew, between, after, core, -, -, hfield, -⟩ := specField_sound h
  exact nodup_keys_concat hbefore hnew hfield.key?_eq

/-- A reading in two steps that succeeds has succeeded in both. -/
theorem bind_eq_ok {ε : Type} {first : Except ε α} {next : α → Except ε β} {read : β}
    (h : (first >>= next) = .ok read) : ∃ value, first = .ok value ∧ next value = .ok read := by
  cases first with
  | error e => cases h
  | ok value => exact ⟨value, rfl, h⟩

/-- The array form of a group: a name, a description, the results and perhaps a source. -/
theorem specItems_sound {text rest : List Char} {spec : Spec} (h : specItems text = .ok (spec, rest)) :
    ∃ inner, IsSpec ('[' :: inner) spec ∧ text = inner ++ rest := by
  obtain ⟨⟨name, left₁⟩, hname, h⟩ := bind_eq_ok h
  obtain ⟨⟨description, left₂⟩, hdescription, h⟩ := bind_eq_ok h
  obtain ⟨⟨results, left₃⟩, hresults, h⟩ := bind_eq_ok h
  dsimp only at hdescription hresults h
  cases results with
  | none => cases h
  | some results =>
    obtain ⟨⟨source, left₄⟩, hsource, h⟩ := bind_eq_ok h
    obtain ⟨left, hend, h⟩ := bind_eq_ok h
    obtain ⟨rfl, rfl⟩ := Prod.mk.inj (Except.ok.inj h)
    -- an array that ends in front of the results is refused
    rcases nextOf_sound reads_text hname with ⟨-, -, tail, -, rfl, -⟩ | ⟨name, core₁, rfl, hcore₁, hitems₁⟩
    · rw [nextOf_end] at hdescription
      obtain ⟨-, rfl⟩ := Prod.mk.inj (Except.ok.inj hdescription)
      rw [nextOf_end] at hresults
      cases hresults
    rcases nextOf_sound reads_text hdescription with
      ⟨-, -, tail, -, rfl, -⟩ | ⟨description, core₂, rfl, hcore₂, hitems₂⟩
    · rw [nextOf_end] at hresults
      cases hresults
    rcases nextOf_sound reads_text hresults with ⟨hnone, -⟩ | ⟨found, core₃, hsome, hcore₃, hitems₃⟩
    · cases hnone
    obtain rfl := Option.some.inj hsome
    obtain ⟨cores, hcores, hlast⟩ := lastOf_sound reads_text hsource hend
    obtain ⟨inner, hparts, htext⟩ := hitems₁ _ _ (hitems₂ _ _ (hitems₃ _ _ hcores))
    have hitems : List.Forall₂ Quoted (core₁ :: core₂ :: core₃ :: cores)
        ([name, description, results] ++ source.toList) :=
      .cons hcore₁ (.cons hcore₂ (.cons hcore₃ hlast))
    exact ⟨inner, .array ⟨inner, rfl, hparts⟩ hitems, htext⟩

/-- What is read as a group is the text of this group, in one of its two forms. -/
theorem reads_spec (depth : Nat) : Reads (readSpec depth) IsSpec := by
  intro text spec rest h
  unfold readSpec at h
  split at h
  · rename_i tail hskip
    obtain ⟨blank, hblank, rfl⟩ := exists_blank_cons hskip
    split at h
    · cases h
    · obtain ⟨inner, hspec, rfl⟩ := specItems_sound h
      exact ⟨blank, '[' :: inner, hblank, hspec, by simp⟩
  · obtain ⟨⟨fields, left⟩, hfields, h⟩ := bind_eq_ok h
    obtain ⟨blank, core, hblank, ⟨hobject, honce⟩, htext⟩ :=
      reads_object (fun fields => (fields.filterMap SpecField.key?).Nodup)
        (fun _ => readsMember_specField)
        (fun _ _ _ _ _ _ hbefore h => nodup_keys_specField hbefore h) List.nodup_nil depth hfields
    dsimp only at h
    split at h
    · cases h
    · rename_i found hspec
      obtain ⟨rfl, rfl⟩ := Prod.mk.inj (Except.ok.inj h)
      exact ⟨blank, core, hblank, isSpec_of_fields hobject honce hspec, htext⟩

/-! ## Suites -/

/-- What is read as the groups of a suite is an object of groups, in the order of the document. -/
theorem reads_groups (depth : Nat) : Reads (readGroups depth) IsGroups := by
  have hmember : ∀ depth, ReadsMember (readEntry depth)
      fun key core entry => entry.1 = key ∧ IsSpec core entry.2 := by
    intro depth before key text entry rest h
    exact namedField_sound (fun core (entry : String × Spec) => entry.1 = key ∧ IsSpec core entry.2)
      (reads_spec depth) (fun _ _ hspec => ⟨rfl, hspec⟩) h
  intro text entries rest h
  obtain ⟨blank, core, hblank, ⟨hgroups, -⟩, htext⟩ :=
    reads_object (fun _ => True) hmember (fun _ _ _ _ _ _ _ _ => trivial) trivial depth h
  exact ⟨blank, core, hblank, hgroups, htext⟩

/-- The text of a member of a suite, after its name. -/
inductive IsField : String → List Char → Field → Prop where
  | name {core : List Char} {value : String} (h : Quoted core value) : IsField "name" core (.name value)
  | groups {core : List Char} {entries : List (String × Spec)} (h : IsGroups core entries) :
      IsField "benchmarks" core (.groups entries)
  | other {name : String} {core : List Char} (hname : name ∉ suiteNames) (h : Value core) :
      IsField name core .other

/-- A member of a suite counts under its own name if it is one of the two. -/
theorem IsField.key?_eq {name : String} {core : List Char} {field : Field}
    (h : IsField name core field) : field.key? = if name ∈ suiteNames then some name else none := by
  cases h with
  | name => rfl
  | groups => rfl
  | other hname => rw [if_neg hname]; rfl

/-- A member of a suite that is read is not there yet, and its text is that of a member of its name. -/
theorem suiteField_sound {depth : Nat} {before : List Field} {name : String} {text rest : List Char}
    {field : Field} (h : suiteField depth before name text = .ok (field, rest)) :
    (before.any fun f => f.key? == some name) = false ∧
      Follows (fun core => IsField name core field) text rest := by
  unfold suiteField at h
  by_cases hold : (before.any fun f => f.key? == some name) = true
  · rw [if_pos hold] at h
    exact absurd h duplicate_ne_ok
  rw [if_neg hold] at h
  refine ⟨Bool.eq_false_iff.2 hold, ?_⟩
  by_cases hname : name = "name"
  · rw [if_pos hname] at h
    exact namedField_sound (IsField name) reads_text (fun _ _ hcore => hname ▸ .name hcore) h
  rw [if_neg hname] at h
  by_cases hgroups : name = "benchmarks"
  · rw [if_pos hgroups] at h
    exact namedField_sound (IsField name) (reads_groups depth) (fun _ _ hcore => hgroups ▸ .groups hcore) h
  rw [if_neg hgroups] at h
  obtain ⟨rfl, between, after, core, hbetween, hafter, hcore, htext⟩ := skipField_sound h
  have hother : name ∉ suiteNames := by simp [suiteNames, hname, hgroups]
  exact ⟨between, after, core, hbetween, hafter, .other hother hcore, htext⟩

/-- No two members of a suite get the same of the two names. -/
theorem nodup_keys_suiteField {depth : Nat} {before : List Field} {name : String}
    {text rest : List Char} {field : Field} (hbefore : (before.filterMap Field.key?).Nodup)
    (h : suiteField depth before name text = .ok (field, rest)) :
    ((before ++ [field]).filterMap Field.key?).Nodup := by
  obtain ⟨hnew, between, after, core, -, -, hfield, -⟩ := suiteField_sound h
  exact nodup_keys_concat hbefore hnew hfield.key?_eq

/-- The members of an object give the content of a suite; absent ones are an empty name and no groups.
-/
theorem isContent_of_fields {text : List Char} {fields : List Field}
    (h : ObjectOf IsField text fields) (honce : (fields.filterMap Field.key?).Nodup) :
    IsContent text (contentOfFields fields).1 (contentOfFields fields).2 := by
  obtain ⟨raw, hraw, hfields⟩ := h
  have hothers : ∀ ⦃key core field⦄, IsField key core field → key ∉ suiteNames → Value core := by
    rintro key core field (⟨h⟩ | ⟨h⟩ | ⟨-, h⟩) hname
    · exact absurd hname (by simp [suiteNames])
    · exact absurd hname (by simp [suiteNames])
    · exact h
  refine .object hraw ?_ (gives_findSome? ?_ hfields) (gives_findSome? ?_ hfields)
    (forall_members hothers hfields)
  · rwa [filterMap_key? (fun _ _ _ h => h.key?_eq) hfields] at honce
  · rintro key core field (⟨h⟩ | ⟨h⟩ | ⟨hname, -⟩)
    · exact Or.inl ⟨rfl, _, rfl, h⟩
    · exact Or.inr ⟨by decide, rfl⟩
    · exact Or.inr ⟨fun heq => hname (by simp [heq, suiteNames]), rfl⟩
  · rintro key core field (⟨h⟩ | ⟨h⟩ | ⟨hname, -⟩)
    · exact Or.inr ⟨by decide, rfl⟩
    · exact Or.inl ⟨rfl, _, rfl, h⟩
    · exact Or.inr ⟨fun heq => hname (by simp [heq, suiteNames]), rfl⟩

/-- The array form of a suite: nothing, a name, or a name and the groups. -/
theorem suiteItems_sound {depth : Nat} {text rest : List Char} {name : String}
    {entries : List (String × Spec)} (h : suiteItems depth text = .ok ((name, entries), rest)) :
    ∃ inner, IsContent ('[' :: inner) name entries ∧ text = inner ++ rest := by
  obtain ⟨⟨first, left₁⟩, hfirst, h⟩ := bind_eq_ok h
  obtain ⟨⟨groups, left₂⟩, hgroups, h⟩ := bind_eq_ok h
  obtain ⟨left, hend, h⟩ := bind_eq_ok h
  obtain ⟨hcontent, rfl⟩ := Prod.mk.inj (Except.ok.inj h)
  obtain ⟨rfl, rfl⟩ := Prod.mk.inj hcontent
  rcases nextOf_sound reads_text hfirst with
    ⟨rfl, blank, tail, hblank, rfl, rfl⟩ | ⟨name, core, rfl, hcore, hitems⟩
  · -- behind the bracket no groups are found either
    rw [nextOf_end] at hgroups
    obtain ⟨rfl, rfl⟩ := Prod.mk.inj (Except.ok.inj hgroups)
    obtain rfl : tail = left := Except.ok.inj hend
    exact ⟨blank ++ [']'], .empty ⟨_, rfl, .close hblank⟩, by simp⟩
  · obtain ⟨cores, hcores, hlast⟩ := lastOf_sound (reads_groups depth) hgroups hend
    obtain ⟨inner, hparts, htext⟩ := hitems _ _ hcores
    cases groups with
    | none =>
      obtain rfl := List.forall₂_nil_right_iff.1 hlast
      exact ⟨inner, .named ⟨inner, rfl, hparts⟩ hcore, htext⟩
    | some entries =>
      obtain ⟨second, rest, hsecond, hnil, rfl⟩ := List.forall₂_cons_right_iff.1 hlast
      obtain rfl := List.forall₂_nil_right_iff.1 hnil
      exact ⟨inner, .full ⟨inner, rfl, hparts⟩ hcore hsecond, htext⟩

/-- What is read as a suite is the text of this suite, in one of its two forms. -/
theorem reads_content (depth : Nat) :
    Reads (readContent depth) fun core content => IsContent core content.1 content.2 := by
  intro text content rest h
  unfold readContent at h
  split at h
  · rename_i tail hskip
    obtain ⟨blank, hblank, rfl⟩ := exists_blank_cons hskip
    split at h
    · cases h
    · obtain ⟨inner, hcontent, rfl⟩ := suiteItems_sound h
      exact ⟨blank, '[' :: inner, hblank, hcontent, by simp⟩
  · obtain ⟨⟨fields, left⟩, hfields, h⟩ := bind_eq_ok h
    obtain ⟨rfl, rfl⟩ := Prod.mk.inj (Except.ok.inj h)
    have hmember : ∀ depth, ReadsMember (suiteField depth) IsField :=
      fun _ _ _ _ _ _ h => (suiteField_sound h).2
    obtain ⟨blank, core, hblank, ⟨hobject, honce⟩, htext⟩ :=
      reads_object (fun fields => (fields.filterMap Field.key?).Nodup) hmember
        (fun _ _ _ _ _ _ hbefore h => nodup_keys_suiteField hbefore h) List.nodup_nil depth hfields
    exact ⟨blank, core, hblank, isContent_of_fields hobject honce, htext⟩

/-! ## Keys and names -/

/-- Naming a group by its key keeps the key. -/
theorem fst_nameByKey (entry : String × Spec) : (nameByKey entry).1 = entry.1 := by
  unfold nameByKey
  split
  · rfl
  · rfl

/-- The keys of a suite are those of its document, each in the place of its first occurrence. -/
theorem keys_ofDocument (name : String) (entries : List (String × Spec)) :
    (ofDocument name entries).keys = (entries.map Prod.fst).eraseDups := by
  rw [← Entries.keys_ofPairs]
  unfold keys ofDocument Entries.keys
  rw [List.map_map]
  apply List.map_congr_left
  intro entry _
  exact fst_nameByKey entry

/-- The keys of a suite document are different from each other. -/
theorem nodup_keys_ofDocument (name : String) (entries : List (String × Spec)) :
    (ofDocument name entries).keys.Nodup := by
  rw [keys_ofDocument, ← Entries.keys_ofPairs]
  exact Entries.nodup_keys_ofPairs entries

/-- A suite is made of the groups that its document gives in this order, and of its name. -/
theorem parse_eq_ok {input : String} {suite : Suite} (h : parse input = .ok suite) :
    ∃ entries, readDocument input = .ok (suite.name, entries) ∧
      suite = ofDocument suite.name entries := by
  unfold parse at h
  split at h
  · rename_i name entries hread
    obtain rfl := Except.ok.inj h
    exact ⟨entries, hread, rfl⟩
  · cases h

theorem nodup_keys_of_parse {text : String} {suite : Suite} (h : parse text = .ok suite) :
    suite.keys.Nodup := by
  obtain ⟨entries, -, hsuite⟩ := parse_eq_ok h
  rw [hsuite]
  exact nodup_keys_ofDocument suite.name entries

/-- Under a key stands the group of the document, named by the key if it has no name. -/
theorem get?_map_nameByKey (groups : Entries Spec) (key : String) :
    Entries.get? (groups.map nameByKey) key =
      (Entries.get? groups key).map fun spec =>
        if spec.name = "" then { spec with name := key } else spec := by
  induction groups with
  | nil => rfl
  | cons entry groups ih =>
    rw [List.map_cons, Entries.get?_cons, Entries.get?_cons, fst_nameByKey, ih]
    by_cases hkey : entry.1 = key
    · rw [if_pos hkey, if_pos hkey, Option.map_some, nameByKey]
      by_cases hname : entry.2.name = ""
      · rw [if_pos hname, if_pos hname, hkey]
      · rw [if_neg hname, if_neg hname]
    · rw [if_neg hkey, if_neg hkey]

/-- Naming groups by their keys once is enough. -/
theorem nameByKey_nameByKey (entry : String × Spec) : nameByKey (nameByKey entry) = nameByKey entry := by
  unfold nameByKey
  by_cases hname : entry.2.name = ""
  · rw [if_pos hname]
    by_cases hkey : entry.1 = ""
    · rw [if_pos hkey]
    · rw [if_neg hkey]
  · rw [if_neg hname, if_neg hname]

/-- What a suite document gives is what its groups give again. -/
theorem ofDocument_groups (name : String) (entries : List (String × Spec)) :
    ofDocument name (ofDocument name entries).groups = ofDocument name entries := by
  have hnodup := nodup_keys_ofDocument name entries
  -- keys that differ are left in their places, and names that are there are kept
  have hpairs : Entries.ofPairs (ofDocument name entries).groups = (ofDocument name entries).groups :=
    Entries.ofPairs_of_nodup hnodup
  have hnamed : (ofDocument name entries).groups.map nameByKey = (ofDocument name entries).groups := by
    unfold ofDocument
    rw [List.map_map]
    apply List.map_congr_left
    intro entry _
    exact nameByKey_nameByKey entry
  rw [ofDocument, hpairs, hnamed]
  rfl

/-! ## Reading back what is written -/

/-- A written member gives back its text. -/
theorem namedField_text (make : String → α) (spelled : String) (rest : List Char) :
    namedField make text (':' :: (Json.compactChars (.string spelled) ++ rest)) =
      .ok (make spelled, rest) := by
  have hfield : field text (':' :: (Json.quote spelled ++ rest)) = .ok (spelled, rest) :=
    text_quote spelled rest
  unfold namedField
  rw [compactChars_string, hfield]

/-- The written members of a group are read back one by one. -/
theorem rereads_spec (spec : Spec) :
    Rereads specField [] [("name", .string spec.name), ("desc", .string spec.description),
        ("results", .string spec.results), ("src", .string spec.source)]
      [.name spec.name, .description spec.description, .results spec.results, .source spec.source] := by
  refine .cons ?_ (.cons ?_ (.cons ?_ (.cons ?_ .nil)))
  · intro rest
    simp [specField, namedField_text]
  · intro rest
    simp [specField, namedField_text, SpecField.key?]
  · intro rest
    simp [specField, namedField_text, SpecField.key?]
  · intro rest
    simp [specField, namedField_text, SpecField.key?]

/-- A written group is read back in front of any text. -/
theorem readSpec_compact (depth : Nat) (spec : Spec) (rest : List Char) :
    readSpec (depth + 1) (Json.compactChars spec.toJson ++ rest) = .ok (spec, rest) := by
  have hobject : object (.record "BenchmarkSpec") (depth + 1) (fun _ => specField)
      (Json.compactChars spec.toJson ++ rest) = .ok (_, rest) :=
    object_compact (rereads_spec spec) rest
  unfold readSpec
  split
  · rename_i tail hskip
    cases hskip
  · rw [hobject]
    rfl

/-- The written groups of a suite are read back one by one, behind those that are read already. -/
theorem rereads_groups (depth : Nat) (before groups : List (String × Spec)) :
    Rereads (readEntry (depth + 1)) before (groups.map fun entry => (entry.1, entry.2.toJson))
      (before ++ groups) := by
  induction groups generalizing before with
  | nil =>
    rw [List.append_nil]
    exact .nil
  | cons entry groups ih =>
    have hmore := ih (before ++ [entry])
    rw [List.append_assoc, List.singleton_append] at hmore
    refine .cons ?_ hmore
    intro rest
    have hfield : field (readSpec (depth + 1)) (':' :: (Json.compactChars entry.2.toJson ++ rest)) =
        .ok (entry.2, rest) := readSpec_compact depth entry.2 rest
    unfold readEntry namedField
    rw [hfield]

/-- The written suite is read back to its end. -/
theorem readContent_compact (depth : Nat) (suite : Suite) :
    readContent (depth + 3) (Json.compactChars suite.toJson) = .ok ((suite.name, suite.groups), []) := by
  have hgroups : ∀ rest, readGroups (depth + 2)
      (Json.compactChars (.object (suite.groups.map fun entry => (entry.1, entry.2.toJson))) ++ rest) =
        .ok (suite.groups, rest) :=
    object_compact (rereads_groups depth [] suite.groups)
  have hrereads : Rereads (suiteField (depth + 2)) [] [("name", .string suite.name),
      ("benchmarks", .object (suite.groups.map fun entry => (entry.1, entry.2.toJson)))]
      [.name suite.name, .groups suite.groups] := by
    refine .cons ?_ (.cons ?_ .nil)
    · intro rest
      simp [suiteField, namedField_text]
    · intro rest
      have hfield : field (readGroups (depth + 2)) (':' :: (Json.compactChars
          (.object (suite.groups.map fun entry => (entry.1, entry.2.toJson))) ++ rest)) =
            .ok (suite.groups, rest) := hgroups rest
      simp [suiteField, Field.key?, namedField, hfield]
  have hobject : object (.record "BenchmarkSuite") (depth + 3) suiteField
      (Json.compactChars suite.toJson ++ []) = .ok (_, []) :=
    object_compact hrereads []
  rw [List.append_nil] at hobject
  unfold readContent
  split
  · rename_i tail hskip
    cases hskip
  · rw [hobject]
    rfl

/-- A suite is read back from what is written for it, its groups as those of a document. -/
theorem parse_compact (suite : Suite) :
    parse suite.toJson.compact = .ok (ofDocument suite.name suite.groups) := by
  have hread : readDocument suite.toJson.compact = .ok (suite.name, suite.groups) :=
    document_ofList (readContent_compact 124 suite)
  rw [parse, hread]

/-- A suite that is read has the keys of its document once each, in the order of first occurrences, every
key with its last group, which is named by the key if it has no name; and it is read back from what is
written for it. -/
theorem parse_round_trip {input : String} {suite : Suite} (h : parse input = .ok suite) :
    ∃ entries : List (String × Spec),
      IsDocument (fun core => IsContent core suite.name entries) input ∧
      suite.keys.Nodup ∧
      suite.keys = (entries.map Prod.fst).eraseDups ∧
      (∀ key ∈ suite.keys, ∃ spec, Entries.get? entries.reverse key = some spec ∧
        suite.groups.get? key = some (if spec.name = "" then { spec with name := key } else spec)) ∧
      parse suite.toJson.compact = .ok suite := by
  obtain ⟨entries, hread, hsuite⟩ := parse_eq_ok h
  have hkeys : suite.keys = (entries.map Prod.fst).eraseDups := by
    rw [hsuite]
    exact keys_ofDocument suite.name entries
  refine ⟨entries, document_sound (reads_content maxDepth) hread, nodup_keys_of_parse h, hkeys, ?_, ?_⟩
  · intro key hkey
    have hmem : key ∈ Entries.keys (Entries.ofPairs entries) := by
      rw [Entries.keys_ofPairs, ← hkeys]
      exact hkey
    obtain ⟨spec, hspec⟩ := Entries.get?_isSome_iff.2 hmem
    refine ⟨spec, by rw [← Entries.get?_ofPairs]; exact hspec, ?_⟩
    rw [hsuite]
    show Entries.get? ((Entries.ofPairs entries).map nameByKey) key = _
    rw [get?_map_nameByKey, hspec, Option.map_some]
  · rw [parse_compact, hsuite]
    exact congrArg Except.ok (ofDocument_groups suite.name entries)

/-- A document in which the key `a` stands twice, first in front of `b` and then behind it. -/
def repeatedKey : String :=
  "\x7b\"name\":\"S\",\"benchmarks\":\x7b\"a\":\x7b\"name\":\"A\",\"results\":\"a\"\x7d,\"b\":[\"B\",\"\",\"b\"]," ++
    "\"a\":\x7b\"results\":\"\\u0061\\n\",\"other\":[\x7b\x7d,-1e5]\x7d\x7d\x7d"

theorem parse_round_trip_repeatedKey :
    let suite : Suite := ⟨"S", [("a", ⟨"a", "", "a\n", ""⟩), ("b", ⟨"B", "", "b", ""⟩)]⟩
    parse repeatedKey = .ok suite ∧ parse suite.toJson.compact = .ok suite := by
  intro suite
  have hread : (parse repeatedKey).toOption = some suite := by decide +kernel
  have hparse : parse repeatedKey = .ok suite := by
    cases hresult : parse repeatedKey with
    | error e =>
      rw [hresult] at hread
      cases hread
    | ok read =>
      rw [hresult] at hread
      rw [Option.some.inj hread]
  obtain ⟨entries, -, -, -, -, hback⟩ := parse_round_trip hparse
  exact ⟨hparse, hback⟩

end BenchScope.Suite
