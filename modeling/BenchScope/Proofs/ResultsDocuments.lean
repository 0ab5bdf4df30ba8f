import BenchScope.Proofs.SuiteDocuments
import BenchScope.Results.Document

/-!
# Results documents

What is written for results that are read from a document is said in terms of the members of the
document. Members with names of their own are carried over: each name once, where it first occurs, with
the value it has last. The records keep their order and are numbered by it; each has its names with
character references decoded, the metrics that are there and not `null`, in a fixed order, and then its
own other members.
-/

namespace BenchScope.Results

open Json.Read Json.Grammar

/-! ## The form of results documents -/

/-- The names of the members that a record may have once. -/
def recordNames : List String := ["id", "name", "run_name"] ++ Metric.all.map Metric.column

/-- What is written for the record of a text at a position. -/
inductive IsRecord (position : Nat) : List Char → List (String × Json) → Prop where
  | mk {text : List Char} {raw : List (String × List Char)} {id : Option Nat}
      {name runName : Option String} {metrics : Metric → Option (Option Float)} {extra : Entries Json}
      (h : IsObject text raw) (honce : Once recordNames raw) (hid : Gives raw "id" IsIndex id)
      (hname : Gives raw "name" Quoted name)
      (hrunName : Gives raw "run_name" Quoted runName)
      (hmetrics : ∀ m : Metric, Gives raw m.column IsNumber (metrics m))
      (hextra : Carries recordNames raw extra) :
      IsRecord position text
        ([("id", .integer position), ("name", .string (Markup.decode (name.getD ""))),
            ("run_name", .string (Markup.decode (runName.getD "")))] ++
          (Metric.all.filterMap fun m =>
            ((metrics m).getD none).map fun x => (m.column, Json.ofFloat x)) ++ extra)

/-- The text of a member of a record, after its name. -/
inductive IsRecordField : String → List Char → RecordField → Prop where
  | id {core : List Char} {n : Nat} (h : IsIndex core n) : IsRecordField "id" core (.id n)
  | name {core : List Char} {value : String} (h : Quoted core value) :
      IsRecordField "name" core (.name value)
  | runName {core : List Char} {value : String} (h : Quoted core value) :
      IsRecordField "run_name" core (.runName value)
  | metric {m : Metric} {core : List Char} {value : Option Float} (h : IsNumber core value) :
      IsRecordField m.column core (.metric m value)
  | extra {name : String} {core : List Char} {value : Json} (hname : name ∉ recordNames)
      (h : Denotes core value) : IsRecordField name core (.extra name value)

/-- The name of a member of a record that may stand once. -/
def RecordField.known? (field : RecordField) : Option String :=
  if field.isExtra then none else some field.key

theorem column_mem_recordNames (m : Metric) : m.column ∈ recordNames := by
  cases m <;> decide

/-- A member of a record counts under its own name if it is one of the names that records have. -/
theorem IsRecordField.known?_eq {name : String} {core : List Char} {field : RecordField}
    (h : IsRecordField name core field) :
    field.known? = if name ∈ recordNames then some name else none := by
  cases h with
  | id => rfl
  | name => rfl
  | runName => rfl
  | @metric m => rw [if_pos (column_mem_recordNames m)]; rfl
  | extra hname => rw [if_neg hname]; rfl

/-! ## Records -/

/-- A metric is found by the name of its own column only. -/
theorem ofColumn?_eq_some {name : String} {m : Metric} (h : Metric.ofColumn? name = some m) :
    m.column = name := by
  simpa using List.find?_some h

/-- A name for which no metric is found is no column. -/
theorem not_mem_columns {name : String} (h : Metric.ofColumn? name = none) :
    name ∉ Metric.all.map Metric.column := by
  intro hmem
  obtain ⟨m, hm, rfl⟩ := List.mem_map.1 hmem
  have hne := List.find?_eq_none.1 h m hm
  simp at hne

/-- A member of a record that is read is not there yet, and its text is that of a member of its name. -/
theorem recordField_sound {depth : Nat} {before : List RecordField} {name : String}
    {text rest : List Char} {field : RecordField}
    (h : recordField depth before name text = .ok (field, rest)) :
    (before.any fun f => f.known? == some name) = false ∧
      Follows (fun core => IsRecordField name core field) text rest := by
  have hany : (before.any fun f => f.known? == some name) =
      before.any fun f => !f.isExtra && f.key == name := by
    congr 1
    funext f
    cases f <;> simp [RecordField.known?, RecordField.isExtra]
  rw [hany]
  unfold recordField at h
  by_cases hold : (before.any fun f => !f.isExtra && f.key == name) = true
  · rw [if_pos hold] at h
    exact absurd h Suite.duplicate_ne_ok
  rw [if_neg hold] at h
  refine ⟨Bool.eq_false_iff.2 hold, ?_⟩
  -- the names of records are tried one after the other; a name that is none of them is kept as it is
  by_cases hid : name = "id"
  · rw [if_pos hid] at h
    exact Suite.namedField_sound (IsRecordField name) reads_index (fun _ _ hcore => hid ▸ .id hcore) h
  rw [if_neg hid] at h
  by_cases hname : name = "name"
  · rw [if_pos hname] at h
    exact Suite.namedField_sound (IsRecordField name) reads_text (fun _ _ hcore => hname ▸ .name hcore) h
  rw [if_neg hname] at h
  by_cases hrun : name = "run_name"
  · rw [if_pos hrun] at h
    exact Suite.namedField_sound (IsRecordField name) reads_text (fun _ _ hcore => hrun ▸ .runName hcore) h
  rw [if_neg hrun] at h
  cases hcolumn : Metric.ofColumn? name with
  | some m =>
    rw [hcolumn] at h
    exact Suite.namedField_sound (IsRecordField name) reads_optionalNumber
      (fun _ _ hcore => ofColumn?_eq_some hcolumn ▸ .metric hcore) h
  | none =>
    rw [hcolumn] at h
    have hother : name ∉ recordNames := by
      have hcolumns := not_mem_columns hcolumn
      unfold recordNames
      rw [List.mem_append]
      rintro (hmem | hmem)
      · simp [hid, hname, hrun] at hmem
      · exact hcolumns hmem
    exact Suite.namedField_sound (IsRecordField name) (reads_value depth)
      (fun _ _ hcore => .extra hother hcore) h

/-- Members of records are read as the text of such members tells. -/
theorem readsMember_recordField (depth : Nat) : ReadsMember (recordField depth) IsRecordField := by
  intro before name text field rest h
  exact (recordField_sound h).2

/-- No two members of a record get the same of the known names. -/
theorem nodup_known_recordField {depth : Nat} {before : List RecordField} {name : String}
    {text rest : List Char} {field : RecordField}
    (hbefore : (before.filterMap RecordField.known?).Nodup)
    (h : recordField depth before name text = .ok (field, rest)) :
    ((before ++ [field]).filterMap RecordField.known?).Nodup := by
  obtain ⟨hnew, between, after, core, -, -, hfield, -⟩ := recordField_sound h
  exact nodup_keys_concat hbefore hnew hfield.known?_eq

/-- The text of the members of a record. -/
def IsRecordFields (text : List Char) (fields : List RecordField) : Prop :=
  ObjectOf IsRecordField text fields ∧ (fields.filterMap RecordField.known?).Nodup

/-- What is read as a record is an object of such members, with no known name twice. -/
theorem reads_record (depth : Nat) : Reads (readRecord depth) IsRecordFields := by
  intro text fields rest h
  exact reads_object (fun fields => (fields.filterMap RecordField.known?).Nodup) readsMember_recordField
    (fun _ _ _ _ _ _ hbefore h => nodup_known_recordField hbefore h) List.nodup_nil depth h

/-- Different metrics have different columns. -/
theorem column_injective {m m' : Metric} (h : m.column = m'.column) : m = m' := by
  cases m <;> cases m' <;> first | rfl | (revert h; decide)

/-- The names that are no columns of metrics. -/
theorem column_ne (m : Metric) : m.column ≠ "id" ∧ m.column ≠ "name" ∧ m.column ≠ "run_name" := by
  cases m <;> decide

/-- The index of a record is what its `id` gives, if it has one. -/
theorem gives_id {raw : List (String × List Char)} {fields : List RecordField}
    (h : List.Forall₂ (fun part field => IsRecordField part.1 part.2 field) raw fields) :
    Gives raw "id" IsIndex (fields.findSome? fun | .id n => some n | _ => none) := by
  refine gives_findSome? ?_ h
  intro key core field hfield
  cases hfield with
  | id hcore => exact Or.inl ⟨rfl, _, rfl, hcore⟩
  | name => exact Or.inr ⟨by decide, rfl⟩
  | runName => exact Or.inr ⟨by decide, rfl⟩
  | @metric m => exact Or.inr ⟨(column_ne m).1, rfl⟩
  | extra hname => exact Or.inr ⟨fun heq => hname (by simp [heq, recordNames]), rfl⟩

/-- The name of a record is what its `name` gives, if it has one. -/
theorem gives_name {raw : List (String × List Char)} {fields : List RecordField}
    (h : List.Forall₂ (fun part field => IsRecordField part.1 part.2 field) raw fields) :
    Gives raw "name" Quoted (fields.findSome? fun | .name s => some s | _ => none) := by
  refine gives_findSome? ?_ h
  intro key core field hfield
  cases hfield with
  | id => exact Or.inr ⟨by decide, rfl⟩
  | name hcore => exact Or.inl ⟨rfl, _, rfl, hcore⟩
  | runName => exact Or.inr ⟨by decide, rfl⟩
  | @metric m => exact Or.inr ⟨(column_ne m).2.1, rfl⟩
  | extra hname => exact Or.inr ⟨fun heq => hname (by simp [heq, recordNames]), rfl⟩

/-- The name of the run is what `run_name` gives, if there is one. -/
theorem gives_runName {raw : List (String × List Char)} {fields : List RecordField}
    (h : List.Forall₂ (fun part field => IsRecordField part.1 part.2 field) raw fields) :
    Gives raw "run_name" Quoted (fields.findSome? fun | .runName s => some s | _ => none) := by
  refine gives_findSome? ?_ h
  intro key core field hfield
  cases hfield with
  | id => exact Or.inr ⟨by decide, rfl⟩
  | name => exact Or.inr ⟨by decide, rfl⟩
  | runName hcore => exact Or.inl ⟨rfl, _, rfl, hcore⟩
  | @metric m => exact Or.inr ⟨(column_ne m).2.2, rfl⟩
  | extra hname => exact Or.inr ⟨fun heq => hname (by simp [heq, recordNames]), rfl⟩

/-- The value of a metric is the number in its own column, if there is one. -/
theorem gives_metric {raw : List (String × List Char)} {fields : List RecordField}
    (h : List.Forall₂ (fun part field => IsRecordField part.1 part.2 field) raw fields) (m : Metric) :
    Gives raw m.column IsNumber
      (fields.findSome? fun | .metric m' x => if m' = m then some x else none | _ => none) := by
  refine gives_findSome? ?_ h
  intro key core field hfield
  cases hfield with
  | id => exact Or.inr ⟨(column_ne m).1.symm, rfl⟩
  | name => exact Or.inr ⟨(column_ne m).2.1.symm, rfl⟩
  | runName => exact Or.inr ⟨(column_ne m).2.2.symm, rfl⟩
  | @metric m' core value hcore =>
    by_cases heq : m' = m
    · exact Or.inl ⟨by rw [heq], value, if_pos heq, hcore⟩
    · exact Or.inr ⟨fun hcolumn => heq (column_injective hcolumn), if_neg heq⟩
  | extra hname => exact Or.inr ⟨fun heq => hname (heq ▸ column_mem_recordNames m), rfl⟩

/-- The free fields of a record are its members with other names, with what their values mean. -/
theorem carries_extra {raw : List (String × List Char)} {fields : List RecordField}
    (h : List.Forall₂ (fun part field => IsRecordField part.1 part.2 field) raw fields) :
    Carries recordNames raw
      (Entries.ofPairs (fields.filterMap fun | .extra key v => some (key, v) | _ => none)) := by
  refine carries_ofPairs ?_ h
  intro key core field hfield
  cases hfield with
  | id => exact Or.inl ⟨by decide, rfl⟩
  | name => exact Or.inl ⟨by decide, rfl⟩
  | runName => exact Or.inl ⟨by decide, rfl⟩
  | @metric m => exact Or.inl ⟨column_mem_recordNames m, rfl⟩
  | extra hname hcore => exact Or.inr ⟨hname, _, rfl, hcore⟩

/-- What is written for a record is what its text says. -/
theorem isRecord_of_fields {text : List Char} {fields : List RecordField} (h : IsRecordFields text fields)
    (position : Nat) :
    ∃ members, ((recordOfFields fields).placed position).toJson = .object members ∧
      IsRecord position text members := by
  obtain ⟨⟨raw, hraw, hfields⟩, honce⟩ := h
  rw [filterMap_key? (fun _ _ _ h => h.known?_eq) hfields] at honce
  have hrecord : IsRecord position text _ :=
    .mk hraw honce (gives_id hfields) (gives_name hfields) (gives_runName hfields)
      (gives_metric hfields) (carries_extra hfields)
  refine ⟨_, ?_, hrecord⟩
  unfold Record.toJson Record.placed recordOfFields Record.metric
  simp only [PerMetric.get_ofFn]
  rfl

/-- The metrics that are written stand in their fixed order. -/
theorem columns_sublist (metric : Metric → Option Float) (ms : List Metric) :
    ((ms.filterMap fun m => (metric m).map fun x => (m.column, Json.ofFloat x)).map Prod.fst).Sublist
      (ms.map Metric.column) := by
  induction ms with
  | nil => exact .slnil
  | cons m ms ih =>
    rw [List.filterMap_cons, List.map_cons]
    cases metric m with
    | none => exact ih.cons _
    | some x => exact ih.cons_cons _

/-- No name stands twice in what is written for a record. -/
theorem IsRecord.nodup_keys {position : Nat} {text : List Char} {members : List (String × Json)}
    (h : IsRecord position text members) : (members.map Prod.fst).Nodup := by
  cases h with
  | @mk raw id name runName metrics extra hraw honce hid hname hrunName hmetrics hextra =>
    have hsublist := (columns_sublist (fun m => (metrics m).getD none) Metric.all).append_left
      ["id", "name", "run_name"]
    rw [List.map_append, List.map_append]
    -- known names are in front, and none of them is carried over
    refine List.nodup_append.2 ⟨?_, hextra.nodup_keys, ?_⟩
    · exact hsublist.nodup (by decide)
    · intro known hknown other hother heq
      have hmem : known ∈ recordNames := hsublist.subset hknown
      exact hextra.not_mem_known hother (heq ▸ hmem)

/-! ## Whole documents -/

/-- The text of a member of a results document, after its name. -/
inductive IsField : String → List Char → Field → Prop where
  | records {core : List Char} {records : List (List RecordField)} (h : ArrayOf IsRecordFields core records) :
      IsField "benchmarks" core (.records records)
  | context {name : String} {core : List Char} {value : Json} (hname : name ∉ ["benchmarks"])
      (h : Denotes core value) : IsField name core (.context name value)

/-- The name of a member of a results document that may stand once. -/
def Field.known? (field : Field) : Option String :=
  if field.isRecords then some "benchmarks" else none

/-- A member of a document counts under its own name only if it holds the records. -/
theorem IsField.known?_eq {name : String} {core : List Char} {field : Field}
    (h : IsField name core field) :
    field.known? = if name ∈ ["benchmarks"] then some name else none := by
  cases h with
  | records => rfl
  | context hname => rw [if_neg hname]; rfl

/-- A member of a document that is read is not there yet, and its text is that of a member of its name.
-/
theorem resultsField_sound {depth : Nat} {before : List Field} {name : String} {text rest : List Char}
    {field : Field} (h : resultsField depth before name text = .ok (field, rest)) :
    (before.any fun f => f.known? == some name) = false ∧
      Follows (fun core => IsField name core field) text rest := by
  unfold resultsField at h
  by_cases hname : name = "benchmarks"
  · rw [if_pos hname] at h
    by_cases hold : before.any Field.isRecords = true
    · rw [if_pos hold] at h
      exact absurd h Suite.duplicate_ne_ok
    rw [if_neg hold] at h
    constructor
    · rw [List.any_eq_false]
      intro f hf hknown
      apply hold
      rw [List.any_eq_true]
      refine ⟨f, hf, ?_⟩
      cases f <;> simp_all [Field.known?, Field.isRecords]
    · exact Suite.namedField_sound (IsField name) (reads_list reads_record depth)
        (fun _ _ hcore => hname ▸ .records hcore) h
  · rw [if_neg hname] at h
    constructor
    · rw [List.any_eq_false]
      intro f _ hknown
      apply hname
      cases f <;> simp_all [Field.known?, Field.isRecords]
    · exact Suite.namedField_sound (IsField name) (reads_value depth)
        (fun _ _ hcore => .context (by simpa using hname) hcore) h

/-- Members of documents are read as the text of such members tells. -/
theorem readsMember_resultsField (depth : Nat) : ReadsMember (resultsField depth) IsField := by
  intro before name text field rest h
  exact (resultsField_sound h).2

/-- The records do not stand twice. -/
theorem nodup_known_resultsField {depth : Nat} {before : List Field} {name : String}
    {text rest : List Char} {field : Field} (hbefore : (before.filterMap Field.known?).Nodup)
    (h : resultsField depth before name text = .ok (field, rest)) :
    ((before ++ [field]).filterMap Field.known?).Nodup := by
  obtain ⟨hnew, between, after, core, -, -, hfield, -⟩ := resultsField_sound h
  exact nodup_keys_concat hbefore hnew hfield.known?_eq

/-- Records are written in the order of their texts, each with its position. -/
theorem isRecord_mapIdx {cores : List (List Char)} {records : List (List RecordField)}
    (h : List.Forall₂ IsRecordFields cores records) (first : Nat) :
    ∃ written : List (List (String × Json)),
      ((records.map recordOfFields).mapIdx fun i record => record.placed (i + first)).map Record.toJson =
        written.map Json.object ∧
      List.Forall₂ (fun part members => IsRecord part.2 part.1 members) (cores.zipIdx first) written := by
  -- the position of the first record grows along the list
  induction h generalizing first with
  | nil => exact ⟨[], rfl, .nil⟩
  | @cons core fields cores records hfields _ ih =>
    obtain ⟨members, hmembers, hrecord⟩ := isRecord_of_fields hfields first
    obtain ⟨written, hwritten, hrecords⟩ := ih (first + 1)
    refine ⟨members :: written, ?_, ?_⟩
    · rw [List.map_cons, List.mapIdx_cons, List.map_cons, List.map_cons, ← hwritten, Nat.zero_add, hmembers]
      simp only [Nat.add_assoc, Nat.add_comm 1]
    · rw [List.zipIdx_cons]
      exact .cons hrecord hrecords

/-- The records are those of the array that `benchmarks` gives, if there is one. -/
theorem gives_records {raw : List (String × List Char)} {fields : List Field}
    (h : List.Forall₂ (fun part field => IsField part.1 part.2 field) raw fields) :
    Gives raw "benchmarks" (ArrayOf IsRecordFields)
      (fields.findSome? fun | .records rs => some rs | _ => none) := by
  refine gives_findSome? ?_ h
  intro key core field hfield
  cases hfield with
  | records hcore => exact Or.inl ⟨rfl, _, rfl, hcore⟩
  | context hname => exact Or.inr ⟨fun heq => hname (by simp [heq]), rfl⟩

/-- The context is the members with other names, with what their values mean. -/
theorem carries_context {raw : List (String × List Char)} {fields : List Field}
    (h : List.Forall₂ (fun part field => IsField part.1 part.2 field) raw fields) :
    Carries ["benchmarks"] raw
      (Entries.ofPairs (fields.filterMap fun | .context key v => some (key, v) | _ => none)) := by
  refine carries_ofPairs ?_ h
  intro key core field hfield
  cases hfield with
  | records => exact Or.inl ⟨by decide, rfl⟩
  | context hname hcore => exact Or.inr ⟨hname, _, rfl, hcore⟩

/-- The records that are written are those of the array under `benchmarks`. -/
theorem exists_records {raw : List (String × List Char)} {found : Option (List (List RecordField))}
    (h : Gives raw "benchmarks" (ArrayOf IsRecordFields) found) :
    ∃ cores written, Gives raw "benchmarks" IsArray cores ∧
      List.Forall₂ (fun part members => IsRecord part.2 part.1 members) (cores.getD []).zipIdx written ∧
      (((found.getD []).map recordOfFields).mapIdx fun i record => record.placed i).map Record.toJson =
        written.map Json.object := by
  cases found with
  | none => exact ⟨none, [], h, .nil, rfl⟩
  | some records =>
    obtain ⟨core, hcore, cores, harray, hrecords⟩ := h
    obtain ⟨written, hwritten, hforms⟩ := isRecord_mapIdx hrecords 0
    exact ⟨some cores, written, ⟨core, hcore, harray⟩, hforms, hwritten⟩

/-- What is read as a document of results is an object of such members, with the records once at most.
-/
theorem readDocument_sound {input : String} {fields : List Field} (h : readDocument input = .ok fields) :
    IsDocument (fun core => ObjectOf IsField core fields ∧ (fields.filterMap Field.known?).Nodup) input :=
  document_sound (reads_object (fun fields => (fields.filterMap Field.known?).Nodup)
    readsMember_resultsField (fun _ _ _ _ _ _ hbefore h => nodup_known_resultsField hbefore h)
    List.nodup_nil maxDepth) h

/-- Results that are read from a document are written with every member of the document but `benchmarks`,
then the records in document order; every record has its position, its decoded names, its metrics and
every other member of its own, and no name stands twice. -/
theorem toJson_of_parse {input : String} {results : Results} (h : parse input = .ok results) :
    ∃ (raw : List (String × List Char)) (context : Entries Json) (cores : Option (List (List Char)))
      (records : List (List (String × Json))),
      IsDocument (fun core => IsObject core raw) input ∧
      Once ["benchmarks"] raw ∧
      Carries ["benchmarks"] raw context ∧
      Gives raw "benchmarks" IsArray cores ∧
      List.Forall₂
        (fun part members => IsRecord part.2 part.1 members ∧ (members.map Prod.fst).Nodup)
        (cores.getD []).zipIdx records ∧
      results.toJson = .object (context ++ [("benchmarks", .array (records.map Json.object))]) ∧
      (context.keys ++ ["benchmarks"]).Nodup := by
  unfold parse at h
  split at h
  · rename_i fields hread
    obtain rfl := Except.ok.inj h
    obtain ⟨before, core, after, hbefore, ⟨⟨raw, hraw, hfields⟩, honce⟩, hafter, hinput⟩ :=
      readDocument_sound hread
    rw [filterMap_key? (fun _ _ _ h => h.known?_eq) hfields] at honce
    -- the records are numbered by their places, so they come with them
    obtain ⟨cores, records, hcores, hrecords, hwritten⟩ := exists_records (gives_records hfields)
    have hcontext := carries_context hfields
    refine ⟨raw, _, cores, records, ⟨before, core, after, hbefore, hraw, hafter, hinput⟩, honce, hcontext,
      hcores, hrecords.imp fun _ _ hrecord => ⟨hrecord, hrecord.nodup_keys⟩, ?_, ?_⟩
    · rw [← hwritten]
      rfl
    · exact Entries.nodup_append_new hcontext.nodup_keys
        (fun hmem => hcontext.not_mem_known hmem (List.mem_singleton_self _))
  · cases h

/-- A document in which `x` stands twice at the top, and `extra` twice in a record. -/
def repeatedFields : String :=
  "\x7b\"x\":1,\"benchmarks\":[\x7b\"extra\":0,\"id\":7,\"cpu_time\":null,\"name\":\"a&lt;b\"," ++
    "\"extra\":[true]\x7d],\"x\":\"last\"\x7d"

theorem toJson_of_parse_repeatedFields : ∃ results, parse repeatedFields = .ok results ∧
    results.toJson.compact =
      "\x7b\"x\":\"last\",\"benchmarks\":[\x7b\"id\":0,\"name\":\"a<b\",\"run_name\":\"\",\"extra\":[true]\x7d]\x7d" ∧
    ∃ (context : Entries Json) (records : List (List (String × Json))), (context.keys ++ ["benchmarks"]).Nodup ∧
      results.toJson = .object (context ++ [("benchmarks", .array (records.map Json.object))]) := by
  have hread : (parse repeatedFields).toOption.map (fun results => results.toJson.compact) = some
      "\x7b\"x\":\"last\",\"benchmarks\":[\x7b\"id\":0,\"name\":\"a<b\",\"run_name\":\"\",\"extra\":[true]\x7d]\x7d" := by
    decide +kernel
  cases hresult : parse repeatedFields with
  | error e =>
    rw [hresult] at hread
    cases hread
  | ok results =>
    rw [hresult] at hread
    obtain ⟨raw, context, cores, records, -, -, -, -, -, hwritten, hnodup⟩ := toJson_of_parse hresult
    exact ⟨results, rfl, Option.some.inj hread, context, records, hnodup, hwritten⟩

end BenchScope.Results
