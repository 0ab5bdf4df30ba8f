import BenchScope.Proofs.Entries
import BenchScope.Proofs.LetterCase
import BenchScope.Proofs.SuiteDocuments
import BenchScope.Proofs.WholeNumbers
import BenchScope.Settings.Load

/-!
# Where settings come from

Each of the nine settings is read from the last layer that sets it: the environment, else the settings file,
else the defaults. What a layer puts under a name is followed through the merged values; a name that is made
a table or a sequence by a path cannot be read as any setting, so where the settings can be loaded a setting
has the value that stands under its own name.

A text setting does not always keep the text of its variable: the environment is read as truth values and
numbers first, and a text that is another spelling of such a value comes back in the plain one.
-/

namespace BenchScope.Settings

/-! ## The settings one by one -/

/-- The settings. -/
inductive Field where
  | dataRoot
  | specPath
  | resultsFolder
  | host
  | port
  | debug
  | outputDir
  | staticDir
  | settleTimeout
  deriving DecidableEq, Repr

/-- The value of a setting. -/
inductive Item where
  | text (value : String)
  | number (value : Nat)
  | flag (value : Bool)
  deriving DecidableEq, Repr

/-- The value of a setting among the settings. -/
def item (settings : Settings) : Field → Item
  | .dataRoot => .text settings.dataRoot
  | .specPath => .text settings.specPath
  | .resultsFolder => .text settings.resultsFolder
  | .host => .text settings.host
  | .port => .number settings.port
  | .debug => .flag settings.debug
  | .outputDir => .text settings.outputDir
  | .staticDir => .text settings.staticDir
  | .settleTimeout => .number settings.settleTimeout

namespace Field

/-- The name of a setting in a file, and behind `BMXP_` in the environment. -/
def key : Field → String
  | .dataRoot => "data_root"
  | .specPath => "spec_path"
  | .resultsFolder => "results_prefix"
  | .host => "host"
  | .port => "port"
  | .debug => "debug"
  | .outputDir => "output_dir"
  | .staticDir => "static_dir"
  | .settleTimeout => "settle_timeout_ms"

/-- Whether a setting is a text. -/
def isText : Field → Bool
  | .port => false
  | .debug => false
  | .settleTimeout => false
  | _ => true

/-- Reads a value as a setting. -/
def convert (field : Field) (given : Sourced) : Except LoadError Item :=
  match field with
  | .port => (asPort field.key given).map .number
  | .debug => (asBool field.key given).map .flag
  | .settleTimeout => (asNatural field.key given).map .number
  | _ => (asText field.key given).map .text

/-- What a value is as a setting, if it can be read as one. -/
def value? (field : Field) (raw : Raw) : Option Item := (field.convert ⟨raw, none⟩).toOption

end Field

/-- Where a text comes from matters for the message only. -/
theorem toOption_asText (key : String) (raw : Raw) (origin : Option String) :
    (asText key ⟨raw, origin⟩).toOption = (asText key ⟨raw, none⟩).toOption := by
  cases raw <;> rfl

theorem toOption_asBool (key : String) (raw : Raw) (origin : Option String) :
    (asBool key ⟨raw, origin⟩).toOption = (asBool key ⟨raw, none⟩).toOption := by
  cases raw with
  | text s =>
    dsimp only [asBool]
    split_ifs <;> rfl
  | _ => rfl

theorem toOption_asNatural (key : String) (raw : Raw) (origin : Option String) :
    (asNatural key ⟨raw, origin⟩).toOption = (asNatural key ⟨raw, none⟩).toOption := by
  cases raw with
  | text s =>
    dsimp only [asNatural]
    split_ifs <;> try rfl
    cases naturalText? s <;> rfl
  | integer n =>
    dsimp only [asNatural]
    split_ifs <;> rfl
  | _ => rfl

theorem toOption_asPort (key : String) (raw : Raw) (origin : Option String) :
    (asPort key ⟨raw, origin⟩).toOption = (asPort key ⟨raw, none⟩).toOption := by
  have hport (given : Sourced) : (asPort key given).toOption =
      (asNatural key given).toOption.bind fun n => if n < Nat.pow 2 16 then some n else none := by
    unfold asPort
    cases asNatural key given with
    | error e => rfl
    | ok n =>
      show _ = if n < Nat.pow 2 16 then some n else none
      dsimp only
      split_ifs <;> rfl
  rw [hport, hport, toOption_asNatural]

theorem toOption_map {ε α β : Type} (f : α → β) (result : Except ε α) :
    (result.map f).toOption = result.toOption.map f := by
  cases result <;> rfl

namespace Field

/-- Where a value comes from does not matter for what it is read as. -/
theorem toOption_convert (field : Field) (given : Sourced) :
    (field.convert given).toOption = field.value? given.value := by
  obtain ⟨raw, origin⟩ := given
  have hmap {α : Type} (f : α → Item) {first second : Except LoadError α}
      (h : first.toOption = second.toOption) : (first.map f).toOption = (second.map f).toOption := by
    rw [toOption_map, toOption_map, h]
  cases field with
  | port => exact hmap .number (toOption_asPort ..)
  | debug => exact hmap .flag (toOption_asBool ..)
  | settleTimeout => exact hmap .number (toOption_asNatural ..)
  | _ => exact hmap .text (toOption_asText ..)

theorem value?_table (field : Field) : field.value? .table = none := by cases field <;> rfl

theorem value?_sequence (field : Field) : field.value? .sequence = none := by cases field <;> rfl

/-- Every default is read as the setting that it is the default of. -/
theorem value?_default (field : Field) :
    ∃ given, defaults.get? field.key = some given ∧
      field.value? given.value = some (Settings.default.item field) := by
  cases field <;> exact ⟨_, rfl, rfl⟩

theorem isPlain_key (field : Field) : ∀ c ∈ field.key.toList, Text.IsPlain c := by
  have hall : field.key.toList.all (fun c => decide (Text.IsPlain c)) = true := by
    cases field <;> decide +kernel
  exact fun c hc => of_decide_eq_true (List.all_eq_true.1 hall c hc)

/-- The names of settings are plain paths. -/
theorem isNameChar_key (field : Field) : ∀ c ∈ field.key.toList, isNameChar c = true := by
  have hall : field.key.toList.all isNameChar = true := by cases field <;> decide +kernel
  exact List.all_eq_true.1 hall

end Field

/-- The settings that the layers give have each setting as its own value is read. -/
theorem convert_of_ofLayers {values : Entries Sourced} {settings : Settings}
    (h : ofLayers values = .ok settings) (field : Field) :
    field.convert ((values.get? field.key).getD ⟨.nothing, none⟩) = .ok (settings.item field) := by
  obtain ⟨dataRoot, hdataRoot, h⟩ := Suite.bind_eq_ok h
  obtain ⟨specPath, hspecPath, h⟩ := Suite.bind_eq_ok h
  obtain ⟨resultsFolder, hresultsFolder, h⟩ := Suite.bind_eq_ok h
  obtain ⟨host, hhost, h⟩ := Suite.bind_eq_ok h
  obtain ⟨port, hport, h⟩ := Suite.bind_eq_ok h
  obtain ⟨debug, hdebug, h⟩ := Suite.bind_eq_ok h
  obtain ⟨outputDir, houtputDir, h⟩ := Suite.bind_eq_ok h
  obtain ⟨staticDir, hstaticDir, h⟩ := Suite.bind_eq_ok h
  obtain ⟨settleTimeout, hsettleTimeout, h⟩ := Suite.bind_eq_ok h
  obtain rfl := Except.ok.inj h
  cases field with
  | dataRoot => exact congrArg (Except.map Item.text) hdataRoot
  | specPath => exact congrArg (Except.map Item.text) hspecPath
  | resultsFolder => exact congrArg (Except.map Item.text) hresultsFolder
  | host => exact congrArg (Except.map Item.text) hhost
  | port => exact congrArg (Except.map Item.number) hport
  | debug => exact congrArg (Except.map Item.flag) hdebug
  | outputDir => exact congrArg (Except.map Item.text) houtputDir
  | staticDir => exact congrArg (Except.map Item.text) hstaticDir
  | settleTimeout => exact congrArg (Except.map Item.number) hsettleTimeout

/-! ## What layers put -/

/-- The name that an entry of a layer sets, and its value. A path sets its first name; an empty table sets
nothing. -/
def assignment? (entry : String × Given) : Option (String × Raw) :=
  match splitKey entry.1, entry.2 with
  | (name, .member), _ => some (Text.lower name, .table)
  | (name, .position), _ => some (Text.lower name, .sequence)
  | (name, .whole), .value raw => some (Text.lower name, raw)
  | (_, .whole), .table true => none
  | (name, .whole), .table false => some (Text.lower name, .table)

/-- The value that a layer puts under a name: that of the last entry that sets it. -/
def put? (layer : List (String × Given)) (name : String) : Option Raw :=
  Entries.get? (layer.filterMap assignment?).reverse name

/-- What a layer puts under a name is what its last entry for the name assigns. -/
theorem put?_concat (layer : List (String × Given)) (entry : String × Given) (name : String) :
    put? (layer ++ [entry]) name =
      (Entries.get? (assignment? entry).toList name).or (put? layer name) := by
  unfold put?
  rw [List.filterMap_append, List.reverse_append, Entries.get?_append]
  congr 2
  cases h : assignment? entry <;> simp [h]

/-- An entry replaces the value of the name that it sets, and leaves those of the others. -/
theorem value_put {values : Entries Sourced} {name : String} (hname : name ∈ values.keys) (origin : String)
    (entry : String × Given) :
    ((put values origin entry.1 entry.2).get? name).map Sourced.value =
      (Entries.get? (assignment? entry).toList name).or ((values.get? name).map Sourced.value) := by
  have hreplace (other : String) (given : Sourced) :
      (Entries.get? (Entries.put other given values) name).map Sourced.value =
        (Entries.get? [(other, given.value)] name).or ((values.get? name).map Sourced.value) := by
    rw [Entries.get?_put, Entries.get?_cons]
    by_cases h : other = name
    · rw [if_pos h, if_pos h]
      rfl
    · rw [if_neg h, if_neg h]
      rfl
  unfold put assignment?
  generalize splitKey entry.1 = split
  obtain ⟨first, selector⟩ := split
  cases selector with
  | member => exact hreplace _ _
  | position => exact hreplace _ _
  | whole =>
    cases entry.2 with
    | value raw => exact hreplace _ _
    | table isEmpty =>
      cases isEmpty with
      | false => exact hreplace _ _
      | true =>
        -- an empty table only makes a name that is not there yet
        dsimp only
        by_cases hhas : values.has (Text.lower first) = true
        · rw [if_pos hhas]
          rfl
        · rw [if_neg hhas, Entries.get?_put]
          have hne : Text.lower first ≠ name := by
            rintro rfl
            exact hhas (Entries.has_iff.2 hname)
          rw [if_neg hne]
          rfl

/-- A name that is there stays there, whatever is put. -/
theorem mem_keys_put {values : Entries Sourced} {name : String} (hname : name ∈ values.keys) (origin : String)
    (entry : String × Given) : name ∈ (put values origin entry.1 entry.2).keys := by
  obtain ⟨given, hgiven⟩ := Entries.get?_isSome_iff.2 hname
  have hvalue := value_put hname origin entry
  rw [hgiven, Option.map_some] at hvalue
  cases hget : (put values origin entry.1 entry.2).get? name with
  | some given => exact Entries.mem_keys_of_get? hget
  | none =>
    rw [hget] at hvalue
    cases hset : Entries.get? (assignment? entry).toList name with
    | none =>
      rw [hset] at hvalue
      cases hvalue
    | some raw =>
      rw [hset] at hvalue
      cases hvalue

/-- What stands under a name after a layer is what the layer puts there, or else what stood there before. -/
theorem value_putAll {values : Entries Sourced} {name : String} (hname : name ∈ values.keys) (origin : String)
    (layer : List (String × Given)) :
    name ∈ (putAll values origin layer).keys ∧
    ((putAll values origin layer).get? name).map Sourced.value =
      (put? layer name).or ((values.get? name).map Sourced.value) := by
  induction layer using List.reverseRecOn with
  | nil => exact ⟨hname, rfl⟩
  | append_singleton layer entry ih =>
    have hlast : putAll values origin (layer ++ [entry]) =
        put (putAll values origin layer) origin entry.1 entry.2 := by
      unfold putAll
      rw [List.foldl_append]
      rfl
    rw [hlast, value_put ih.1, ih.2, put?_concat, Option.or_assoc]
    exact ⟨mem_keys_put ih.1 origin entry, rfl⟩

/-! ## Values under their own names -/

/-- The value that a layer gives, unless it is an empty table. -/
def Given.raw? : Given → Option Raw
  | .value raw => some raw
  | .table true => none
  | .table false => some .table

/-- The value that a layer has under a name, whatever letters of the name are capital: that of the last entry
that has one. -/
def named? (layer : List (String × Given)) (name : String) : Option Raw :=
  Entries.get? (layer.filterMap fun entry => entry.2.raw?.map (Text.lower entry.1, ·)).reverse name

/-- What a layer says about a name is what its last entry for the name says. -/
theorem named?_concat (layer : List (String × Given)) (entry : String × Given) (name : String) :
    named? (layer ++ [entry]) name =
      (if Text.lower entry.1 = name then entry.2.raw? else none).or (named? layer name) := by
  unfold named?
  rw [List.filterMap_append, List.reverse_append, Entries.get?_append]
  congr 1
  cases h : entry.2.raw? with
  | none => simp [h]
  | some raw =>
    by_cases hname : Text.lower entry.1 = name
    · simp [h, hname, Entries.get?_cons]
    · simp [h, hname, Entries.get?_cons]

theorem isNameChar_of_toLower {c : Char} (h : isNameChar c.toLower = true) : isNameChar c = true := by
  cases hupper : c.isUpper with
  | false => rwa [Text.toLower_of_isUpper_eq_false hupper] at h
  | true => simp [isNameChar, Char.isAlphanum, Char.isAlpha, hupper]

/-- The name of a setting, whatever letters of it are capital, is no path. -/
theorem splitKey_of_lower {text : String} {field : Field} (h : Text.lower text = field.key) :
    splitKey text = (text, .whole) := by
  have hlower : Text.lowerAscii text = field.key := by
    rw [← h]
    exact (Text.lower_eq_lowerAscii (h ▸ field.isPlain_key)).symm
  have hchars : ∀ c ∈ text.toList, isNameChar c = true := by
    intro c hc
    have hmem : c.toLower ∈ field.key.toList := by
      rw [← hlower, Text.lowerAscii, String.toList_ofList]
      exact List.mem_map_of_mem hc
    exact isNameChar_of_toLower (field.isNameChar_key c.toLower hmem)
  have hrest : text.toList.dropWhile isNameChar = [] := List.dropWhile_eq_nil_iff.2 hchars
  rw [splitKey, hrest]
  rfl

theorem selector_ne_whole {text rest : List Char} {selector : Selector}
    (h : selector? text = some (selector, rest)) : selector ≠ .whole := by
  unfold selector? at h
  split at h
  · split at h
    · cases h
    · obtain ⟨rfl, -⟩ := Prod.mk.inj (Option.some.inj h)
      decide
  · split at h
    · obtain ⟨rfl, -⟩ := Prod.mk.inj (Option.some.inj h)
      decide
    · cases h
  · cases h

/-- A key that selects nothing below a name is the name. -/
theorem eq_of_splitKey {key name : String} (h : splitKey key = (name, .whole)) : name = key := by
  unfold splitKey at h
  dsimp only at h
  split at h
  · rename_i selector rest hselector
    split at h
    · exact (Prod.mk.inj h).1.symm
    · exact absurd (Prod.mk.inj h).2 (selector_ne_whole hselector)
  · exact (Prod.mk.inj h).1.symm

/-- An entry under the name of a setting sets the setting, unless it is an empty table. -/
theorem assignment?_of_lower {entry : String × Given} {field : Field} (h : Text.lower entry.1 = field.key) :
    assignment? entry = entry.2.raw?.map (field.key, ·) := by
  unfold assignment?
  rw [splitKey_of_lower h, ← h]
  cases entry.2 with
  | value raw => rfl
  | table isEmpty => cases isEmpty <;> rfl

/-- An entry that sets a setting to what can be read stands under the name of the setting: a path makes a table
or a sequence of its first name. -/
theorem lower_of_assignment? {entry : String × Given} {field : Field} {raw : Raw}
    (h : assignment? entry = some (field.key, raw)) (hread : field.value? raw ≠ none) :
    Text.lower entry.1 = field.key := by
  unfold assignment? at h
  split at h
  · obtain ⟨-, rfl⟩ := Prod.mk.inj (Option.some.inj h)
    exact absurd field.value?_table hread
  · obtain ⟨-, rfl⟩ := Prod.mk.inj (Option.some.inj h)
    exact absurd field.value?_sequence hread
  · rename_i hsplit _
    rw [← eq_of_splitKey hsplit]
    exact (Prod.mk.inj (Option.some.inj h)).1
  · cases h
  · obtain ⟨-, rfl⟩ := Prod.mk.inj (Option.some.inj h)
    exact absurd field.value?_table hread

/-- An entry assigns to a setting if it bears the name of the setting. Paths into a setting make a table
or a sequence of it, which no setting can be read from. -/
theorem get?_assignment? (entry : String × Given) (field : Field)
    (hread : ∀ raw, Entries.get? (assignment? entry).toList field.key = some raw → field.value? raw ≠ none) :
    Entries.get? (assignment? entry).toList field.key =
      if Text.lower entry.1 = field.key then entry.2.raw? else none := by
  by_cases hname : Text.lower entry.1 = field.key
  · rw [assignment?_of_lower hname, if_pos hname]
    cases entry.2.raw? with
    | none => rfl
    | some raw => simp [Entries.get?_cons]
  · rw [if_neg hname]
    cases hset : assignment? entry with
    | none => rfl
    | some assigned =>
      rw [hset] at hread
      by_cases hkey : assigned.1 = field.key
      · have hget : Entries.get? (some assigned).toList field.key = some assigned.2 := by
          simp [Entries.get?_cons, hkey]
        refine absurd (lower_of_assignment? ?_ (hread assigned.2 hget)) hname
        rw [hset, ← hkey]
      · simp [Entries.get?_cons, hkey]

/-- If what a layer puts under the name of a setting can be read, it is what the layer has under this name. -/
theorem put?_eq_named? {layer : List (String × Given)} {field : Field}
    (hread : ∀ raw, put? layer field.key = some raw → field.value? raw ≠ none) :
    put? layer field.key = named? layer field.key := by
  induction layer using List.reverseRecOn with
  | nil => rfl
  | append_singleton layer entry ih =>
    -- the last entry decides, or leaves it to those before it
    rw [put?_concat] at hread ⊢
    have hentry := get?_assignment? entry field fun raw hraw =>
      hread raw (by rw [hraw]; rfl)
    rw [named?_concat, ← hentry]
    cases hset : Entries.get? (assignment? entry).toList field.key with
    | some raw => rfl
    | none =>
      rw [hset] at hread
      exact ih hread

/-! ## The environment -/

/-- The text of the variable of a setting: that of the last one of this name, whatever letters of the name are
capital. -/
def inEnvironment? (environment : List (String × String)) (field : Field) : Option String :=
  Entries.get? (environment.map fun (name, text) => (Text.lower name, text)).reverse
    (variableStart ++ field.key)

/-- What the environment says about a setting is what the last variable for it says. -/
theorem inEnvironment?_concat (environment : List (String × String)) (last : String × String)
    (field : Field) :
    inEnvironment? (environment ++ [last]) field =
      (if Text.lower last.1 = variableStart ++ field.key then some last.2 else none).or
        (inEnvironment? environment field) := by
  unfold inEnvironment?
  rw [List.map_append, List.map_singleton, List.reverse_append, List.reverse_singleton, Entries.get?_append,
    Entries.get?_cons, Entries.get?_nil]

/-- The name of a variable, in lower case, with its start taken off. -/
def withoutStart (name : String) : String :=
  String.ofList ((Text.lower name).toList.drop variableStart.length)

/-- A variable is that of a setting if its name has the start and goes on with the name of the setting. Nothing
is left to put in lower case behind the start. -/
theorem lower_eq_iff {name : String} {field : Field}
    (hstart : variableStart.toList.isPrefixOf (Text.lower name).toList = true) :
    Text.lower name = variableStart ++ field.key ↔ Text.lower (withoutStart name) = field.key := by
  obtain ⟨suffix, hsuffix⟩ := List.isPrefixOf_iff_prefix.1 hstart
  have hwithout : withoutStart name = String.ofList suffix := by
    rw [withoutStart, ← hsuffix, show variableStart.length = variableStart.toList.length from rfl,
      List.drop_left]
  rw [← String.toList_inj, String.toList_append, ← hsuffix, List.append_cancel_left_eq, hwithout]
  constructor
  · intro hkey
    rw [hkey, String.ofList_toList]
    cases field <;> decide +kernel
  · intro hlower
    have hsmall : ∀ d ∈ (String.ofList suffix).toList, d.isUpper = false := by
      intro d hd
      rw [String.toList_ofList] at hd
      have hmem : d ∈ (Text.lower name).toList := hsuffix ▸ List.mem_append_right _ hd
      exact Text.isUpper_of_mem_lower hmem
    rw [← Text.eq_of_lower_eq field.isPlain_key hsmall hlower, String.toList_ofList]

/-- A variable takes part in the layer of the environment if its name begins as it should. -/
theorem environmentLayer_concat (environment : List (String × String)) (last : String × String) :
    environmentLayer (environment ++ [last]) = environmentLayer environment ++
      if variableStart.toList.isPrefixOf (Text.lower last.1).toList = true then
        [(withoutStart last.1, .value (variableValue last.2))] else [] := by
  unfold environmentLayer
  rw [List.filterMap_append, List.filterMap_cons, List.filterMap_nil]
  dsimp only
  by_cases hstart : variableStart.toList.isPrefixOf (Text.lower last.1).toList = true
  · rw [if_pos hstart, if_pos hstart]
    rfl
  · rw [if_neg hstart, if_neg hstart]

/-- The layer of the environment has under the name of a setting what the variable of the setting gives. -/
theorem named?_environmentLayer (environment : List (String × String)) (field : Field) :
    named? (environmentLayer environment) field.key =
      (inEnvironment? environment field).map variableValue := by
  induction environment using List.reverseRecOn with
  | nil => rfl
  | append_singleton environment last ih =>
    rw [inEnvironment?_concat, environmentLayer_concat]
    -- a variable of another program is left out of the layer, and has none of the names
    by_cases hstart : variableStart.toList.isPrefixOf (Text.lower last.1).toList = true
    · rw [if_pos hstart, named?_concat, ih]
      by_cases hname : Text.lower (withoutStart last.1) = field.key
      · rw [if_pos hname, if_pos ((lower_eq_iff hstart).2 hname)]
        rfl
      · rw [if_neg hname, if_neg fun heq => hname ((lower_eq_iff hstart).1 heq)]
        rfl
    · have hother : Text.lower last.1 ≠ variableStart ++ field.key := by
        intro heq
        apply hstart
        rw [heq, String.toList_append]
        exact List.isPrefixOf_iff_prefix.2 (List.prefix_append _ _)
      rw [if_neg hstart, if_neg hother, List.append_nil, ih]
      rfl

/-! ## The settings file -/

/-- What the settings file gives; nothing if none is asked for and there is none. -/
def settingsLayer (tree : FileTree) (file : Option String) : Except LoadError (List (String × Given)) :=
  match findFile tree (file.getD defaultFile) with
  | .error e => if file.isSome then .error e else .ok []
  | .ok found =>
    (fileLayer found.format found.origin (fileText found.bytes)).mapError (.malformed · found.origin)

/-- If the settings file can be put, it gives a layer, and that layer is put. -/
theorem exists_settingsLayer {tree : FileTree} {file : Option String} {values result : Entries Sourced}
    (h : putFile tree file values = .ok result) :
    ∃ layer origin, settingsLayer tree file = .ok layer ∧ result = putAll values origin layer := by
  unfold putFile at h
  unfold settingsLayer
  cases hfind : findFile tree (file.getD defaultFile) with
  | error e =>
    rw [hfind] at h
    dsimp only at h ⊢
    split_ifs at h ⊢
    exact ⟨[], "", rfl, (Except.ok.inj h).symm⟩
  | ok found =>
    rw [hfind] at h
    dsimp only at h ⊢
    cases hlayer : fileLayer found.format found.origin (fileText found.bytes) with
    | error reason =>
      rw [hlayer] at h
      cases h
    | ok layer =>
      rw [hlayer] at h
      exact ⟨layer, found.origin, rfl, (Except.ok.inj h).symm⟩

/-! ## All layers -/

/-- The value that a setting gets from the environment or the file. -/
def given? (environment : List (String × String)) (layer : List (String × Given)) (field : Field) :
    Option Raw :=
  ((inEnvironment? environment field).map variableValue).or (named? layer field.key)

/-- What is put last under the name of a setting is what its variable or the file gives, if it can be read. -/
theorem put?_or_eq_given? (environment : List (String × String)) (layer : List (String × Given)) (field : Field)
    (hread : ∀ raw, (put? (environmentLayer environment) field.key).or (put? layer field.key) = some raw →
      field.value? raw ≠ none) :
    (put? (environmentLayer environment) field.key).or (put? layer field.key) =
      given? environment layer field := by
  have henvironment : put? (environmentLayer environment) field.key =
      (inEnvironment? environment field).map variableValue := by
    rw [← named?_environmentLayer]
    exact put?_eq_named? fun raw hraw => hread raw (by rw [hraw]; rfl)
  rw [henvironment] at hread ⊢
  unfold given?
  -- what the file puts matters only where there is no variable, and can be read only then
  cases hvariable : (inEnvironment? environment field).map variableValue with
  | some raw => rfl
  | none =>
    rw [hvariable] at hread
    exact put?_eq_named? hread

/-- A setting that could be loaded is what its variable or the file gives, or else the default. -/
theorem item_of_load {tree : FileTree} {file : Option String} {environment : List (String × String)}
    {settings : Settings} (hload : load tree file environment = .ok settings) :
    ∃ layer, settingsLayer tree file = .ok layer ∧ ∀ field : Field,
      (∀ raw, given? environment layer field = some raw → field.value? raw = some (settings.item field)) ∧
      (given? environment layer field = none → settings.item field = Settings.default.item field) := by
  obtain ⟨values, hfile, hlayers⟩ := Suite.bind_eq_ok hload
  obtain ⟨layer, origin, hlayer, rfl⟩ := exists_settingsLayer hfile
  refine ⟨layer, hlayer, fun field => ?_⟩
  obtain ⟨default, hdefault, hitem⟩ := field.value?_default
  obtain ⟨hmem, hput⟩ := value_putAll (Entries.mem_keys_of_get? hdefault) origin layer
  obtain ⟨hmem, hvalue⟩ := value_putAll hmem "the environment" (environmentLayer environment)
  rw [hput, hdefault, Option.map_some, ← Option.or_assoc] at hvalue
  -- the value that stands under the name in the end is read as the setting
  obtain ⟨last, hlast⟩ := Entries.get?_isSome_iff.2 hmem
  have hconvert := congrArg Except.toOption (convert_of_ofLayers hlayers field)
  rw [Field.toOption_convert, hlast, Option.getD_some] at hconvert
  rw [hlast, Option.map_some] at hvalue
  have hread : ∀ raw, (put? (environmentLayer environment) field.key).or (put? layer field.key) = some raw →
      field.value? raw ≠ none := by
    intro raw hraw
    rw [hraw, Option.some_or] at hvalue
    rw [← Option.some.inj hvalue, hconvert]
    exact Option.some_ne_none _
  rw [put?_or_eq_given? environment layer field hread] at hvalue
  constructor
  · intro raw hraw
    rw [hraw, Option.some_or] at hvalue
    rw [← Option.some.inj hvalue]
    exact hconvert
  · intro hnone
    rw [hnone, Option.none_or] at hvalue
    rw [Option.some.inj hvalue, hitem] at hconvert
    exact (Option.some.inj hconvert).symm

/-! ## Texts that are kept -/

/-- The whole numbers that a variable is read as. -/
def IsWhole (n : Int) : Prop := -Nat.pow 2 63 ≤ n ∧ n < Nat.pow 2 63

/-- All that a variable can be read as. -/
theorem variableValue_cases (text : String) :
    (Text.lower text = "true" ∧ variableValue text = .boolean true) ∨
    (Text.lower text = "false" ∧ variableValue text = .boolean false) ∨
    (Text.lower text ≠ "true" ∧ Text.lower text ≠ "false" ∧
      ((∃ n, Decimal.integer? text.toList = some n ∧ IsWhole n ∧ variableValue text = .integer n) ∨
      ((∀ n, Decimal.integer? text.toList = some n → ¬ IsWhole n) ∧
        variableValue text = floatOrText text))) := by
  unfold variableValue
  split
  · rename_i htrue
    exact Or.inl ⟨htrue, rfl⟩
  · rename_i hfalse
    exact Or.inr (Or.inl ⟨hfalse, rfl⟩)
  · rename_i hneither htrue hfalse
    refine Or.inr (Or.inr ⟨htrue, hfalse, ?_⟩)
    cases hwhole : Decimal.integer? text.toList with
    | none => exact Or.inr ⟨fun n hn => absurd hn (by simp), rfl⟩
    | some n =>
      by_cases hrange : IsWhole n
      · exact Or.inl ⟨n, rfl, hrange, if_pos hrange⟩
      · exact Or.inr ⟨fun m hm => Option.some.inj hm ▸ hrange, if_neg hrange⟩

theorem Field.value?_of_isText {field : Field} (h : field.isText = true) (raw : Raw) :
    field.value? raw = (asText field.key ⟨raw, none⟩).toOption.map .text := by
  cases field with
  | port => cases h
  | debug => cases h
  | settleTimeout => cases h
  | _ => exact toOption_map ..

/-- A text that a text setting keeps: it is no other spelling of a truth value, of a whole number of 64 bits or
of a double. -/
structure Kept (text : String) : Prop where
  flag : Text.lower text = "true" ∨ Text.lower text = "false" → text = Text.lower text
  whole : ∀ n, Decimal.integer? text.toList = some n → IsWhole n → Decimal.IsPlainWhole text.toList
  double : ∀ x, Decimal.float? text.toList = some x →
    (∀ n, Decimal.integer? text.toList = some n → ¬ IsWhole n) → Decimal.display x = text

/-- A text that is read as a truth value is kept if it is the word for it, which is no number. -/
theorem kept_iff_of_word {text word : String} (hword : word = "true" ∨ word = "false")
    (hlower : Text.lower text = word) : word = text ↔ Kept text := by
  constructor
  · rintro rfl
    have hnumber : Decimal.integer? word.toList = none ∧ Decimal.float? word.toList = none := by
      rcases hword with rfl | rfl <;> exact ⟨rfl, rfl⟩
    refine ⟨fun _ => hlower.symm, fun n hn => ?_, fun x hx => ?_⟩
    · rw [hnumber.1] at hn
      cases hn
    · rw [hnumber.2] at hx
      cases hx
  · intro hkept
    rw [hkept.flag (hlower ▸ hword), hlower]

/-- A text that is read as a whole number is kept if it is the numeral of the number. -/
theorem kept_iff_of_whole {text : String} {n : Int} (htrue : Text.lower text ≠ "true")
    (hfalse : Text.lower text ≠ "false") (hn : Decimal.integer? text.toList = some n) (hwhole : IsWhole n) :
    toString n = text ↔ Kept text := by
  rw [← String.toList_inj, Decimal.toList_toString_eq_iff hn]
  constructor
  · intro hplain
    exact ⟨fun hflag => (hflag.elim htrue hfalse).elim, fun _ _ _ => hplain,
      fun x _ hnone => absurd hwhole (hnone n hn)⟩
  · intro hkept
    exact hkept.whole n hn hwhole

/-- A text that is read as a double is kept if it is what is displayed for the double. -/
theorem kept_iff_of_double {text : String} {x : Float} (htrue : Text.lower text ≠ "true")
    (hfalse : Text.lower text ≠ "false")
    (hnone : ∀ n, Decimal.integer? text.toList = some n → ¬ IsWhole n)
    (hx : Decimal.float? text.toList = some x) : Decimal.display x = text ↔ Kept text := by
  constructor
  · intro hdisplay
    refine ⟨fun hflag => (hflag.elim htrue hfalse).elim, fun n hn hwhole => absurd hwhole (hnone n hn), ?_⟩
    intro y hy _
    rw [hx] at hy
    rw [← Option.some.inj hy]
    exact hdisplay
  · intro hkept
    exact hkept.double x hx hnone

/-- A text setting is the text of its variable exactly if the text is kept. -/
theorem value?_variableValue_iff {field : Field} (hfield : field.isText = true) (text : String) :
    field.value? (variableValue text) = some (.text text) ↔ Kept text := by
  have hshown (shown : String) : some (Item.text shown) = some (.text text) ↔ shown = text := by
    rw [Option.some.injEq, Item.text.injEq]
  rw [field.value?_of_isText hfield]
  rcases variableValue_cases text with ⟨htrue, hvalue⟩ | ⟨hfalse, hvalue⟩ |
    ⟨htrue, hfalse, ⟨n, hn, hwhole, hvalue⟩ | ⟨hnone, hvalue⟩⟩
  · rw [hvalue]
    exact (hshown "true").trans (kept_iff_of_word (Or.inl rfl) htrue)
  · rw [hvalue]
    exact (hshown "false").trans (kept_iff_of_word (Or.inr rfl) hfalse)
  · rw [hvalue]
    exact (hshown (toString n)).trans (kept_iff_of_whole htrue hfalse hn hwhole)
  · rw [hvalue, floatOrText]
    cases hx : Decimal.float? text.toList with
    | some x => exact (hshown (Decimal.display x)).trans (kept_iff_of_double htrue hfalse hnone hx)
    | none =>
      refine iff_of_true rfl ⟨fun hflag => (hflag.elim htrue hfalse).elim, ?_, ?_⟩
      · exact fun n hn hwhole => absurd hwhole (hnone n hn)
      · intro x hx'
        rw [hx] at hx'
        cases hx'

/-- **Settings come from the last layer that gives them.** Where the settings can be loaded, each of them is read
from its own variable if that is set, else from the value that the file has under its name, else it is the
default. A text setting is exactly the text of its variable if and only if the text is kept: if it is no other
spelling of a truth value or number than the plain one. A text in the file is always kept. -/
theorem load_from_layers {tree : FileTree} {file : Option String} {environment : List (String × String)}
    {settings : Settings} (hload : load tree file environment = .ok settings) :
    ∃ layer, settingsLayer tree file = .ok layer ∧ ∀ field : Field,
      match inEnvironment? environment field, named? layer field.key with
      | some text, _ =>
        field.value? (variableValue text) = some (settings.item field) ∧
          (field.isText = true → (settings.item field = .text text ↔ Kept text))
      | none, some raw =>
        field.value? raw = some (settings.item field) ∧
          (field.isText = true → ∀ text, raw = .text text → settings.item field = .text text)
      | none, none => settings.item field = Settings.default.item field := by
  obtain ⟨layer, hlayer, hitem⟩ := item_of_load hload
  refine ⟨layer, hlayer, fun field => ?_⟩
  obtain ⟨hgiven, hdefault⟩ := hitem field
  -- the environment stands in front of the file, and the file in front of the defaults
  unfold given? at hgiven hdefault
  cases hvariable : inEnvironment? environment field with
  | some text =>
    rw [hvariable] at hgiven
    have hvalue := hgiven (variableValue text) rfl
    refine ⟨hvalue, fun hfield => ?_⟩
    rw [← value?_variableValue_iff hfield, hvalue, Option.some.injEq]
  | none =>
    rw [hvariable] at hgiven hdefault
    cases hnamed : named? layer field.key with
    | some raw =>
      have hvalue := hgiven raw hnamed
      refine ⟨hvalue, ?_⟩
      rintro hfield text rfl
      rw [field.value?_of_isText hfield] at hvalue
      exact (Option.some.inj hvalue).symm
    | none => exact hdefault hnamed

theorem eq_ok_of_toOption {ε α : Type} {result : Except ε α} {value : α}
    (h : result.toOption = some value) : result = .ok value := by
  cases result with
  | error e => cases h
  | ok found => rw [Option.some.inj h]

/-- A file that gives the host and the port, and variables that give the port and the data root: the variables
win, and the path of the data root is kept. -/
theorem load_from_layers_sample :
    let text := "host = \"here\"\nport = 9000\n"
    let tree := FileTree.ofFiles [("bmxp.toml", Text.Utf8.encode text.toList)]
    let environment := [("BMXP_PORT", "7000"), ("Bmxp_Data_Root", "/srv/data")]
    load tree none environment =
        .ok { Settings.default with host := "here", port := 7000, dataRoot := "/srv/data" } ∧
      Kept "/srv/data" := by
  intro text tree environment
  have hload : load tree none environment =
      .ok { Settings.default with host := "here", port := 7000, dataRoot := "/srv/data" } :=
    eq_ok_of_toOption (by decide +kernel)
  have hroot : inEnvironment? environment .dataRoot = some "/srv/data" := by decide +kernel
  obtain ⟨layer, -, hfields⟩ := load_from_layers hload
  have hfield := hfields .dataRoot
  rw [hroot] at hfield
  exact ⟨hload, (hfield.2 rfl).1 rfl⟩

/-- A host that is written in digits loses the zeros in front of them. -/
theorem text_setting_respelled : ∃ settings,
    load (FileTree.ofFiles []) none [("BMXP_HOST", "007")] = .ok settings ∧
    inEnvironment? [("BMXP_HOST", "007")] .host = some "007" ∧ Field.isText .host = true ∧
    settings.item .host = .text "7" ∧ settings.item .host ≠ .text "007" := by
  have hload : load (FileTree.ofFiles []) none [("BMXP_HOST", "007")] =
      .ok { Settings.default with host := "7" } :=
    eq_ok_of_toOption (by decide +kernel)
  exact ⟨_, hload, by decide +kernel, rfl, rfl, by decide⟩

end BenchScope.Settings
