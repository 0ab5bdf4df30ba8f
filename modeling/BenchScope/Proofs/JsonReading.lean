import BenchScope.Proofs.Entries
import BenchScope.Proofs.JsonGrammar

/-!
# What the readers of documents accept

Every reader takes blanks and then a text of a known form. `Reads` and `ReadsMember` say so for a reader
of values and for a reader of members, and each of the three loops that readers are built from has one
lemma: the items of an array, the members of an object, and values that are passed over.
-/

namespace BenchScope.Json.Read

open Grammar

variable {α : Type}

/-! ## Words and marks -/

theorem exists_blank_cons {text rest : List Char} {c : Char} (h : skipBlank text = c :: rest) :
    ∃ blank, Blank blank ∧ text = blank ++ c :: rest := by
  obtain ⟨blank, hblank, htext⟩ := exists_blank text
  exact ⟨blank, hblank, h ▸ htext⟩

/-- A word that is read stands there letter by letter. -/
theorem word_sound {expected text rest : List Char} (h : word expected text = .ok rest) :
    text = expected ++ rest := by
  induction expected generalizing text with
  | nil =>
    rw [word] at h
    exact Except.ok.inj h
  | cons e expected ih =>
    cases text with
    | nil => cases h
    | cons c tail =>
      rw [word] at h
      by_cases hc : c = e
      · rw [if_pos hc] at h
        rw [hc, ih h, List.cons_append]
      · rw [if_neg hc] at h
        cases h

theorem map_word_sound {expected text rest : List Char} {value : α} {read : α}
    (h : (word expected text).map (fun rest => (value, rest)) = .ok (read, rest)) :
    read = value ∧ text = expected ++ rest := by
  cases hword : word expected text with
  | error e =>
    rw [hword] at h
    cases h
  | ok after =>
    rw [hword] at h
    obtain ⟨rfl, rfl⟩ := Prod.mk.inj (Except.ok.inj h)
    exact ⟨rfl, word_sound hword⟩

/-- The colon behind a name has blanks in front of it only. -/
theorem colon_sound {text rest : List Char} (h : colon text = .ok rest) :
    ∃ blank, Blank blank ∧ text = blank ++ ':' :: rest := by
  unfold colon at h
  split at h
  · rename_i tail hskip
    obtain rfl := Except.ok.inj h
    exact exists_blank_cons hskip
  · cases h
  · cases h

/-- A value of another kind than the expected one is never accepted. -/
theorem mismatch_ne_ok {expected : Expected} {text : List Char} {read : α} :
    mismatch expected text ≠ .ok read := by
  unfold mismatch
  split
  · exact nofun
  · exact nofun

/-! ## Values that are no brackets -/

/-- What is read as a word, a number or a text denotes what was read. -/
theorem scalar_sound {text rest : List Char} {value : Json} (h : scalar text = .ok (value, rest)) :
    ∃ form, Denotes form value ∧ text = form ++ rest := by
  have hread := h
  unfold scalar at h
  split at h
  · cases h
  · rename_i c tail
    -- the first character tells what is read: a word, a number behind its sign or without one, or a
    -- text
    by_cases hn : c = 'n'
    · rw [if_pos hn] at h
      obtain ⟨rfl, rfl⟩ := map_word_sound h
      exact ⟨['n', 'u', 'l', 'l'], .word (by simp [words]), by rw [hn]; rfl⟩
    rw [if_neg hn] at h
    by_cases ht : c = 't'
    · rw [if_pos ht] at h
      obtain ⟨rfl, rfl⟩ := map_word_sound h
      exact ⟨['t', 'r', 'u', 'e'], .word (by simp [words]), by rw [ht]; rfl⟩
    rw [if_neg ht] at h
    by_cases hf : c = 'f'
    · rw [if_pos hf] at h
      obtain ⟨rfl, rfl⟩ := map_word_sound h
      exact ⟨['f', 'a', 'l', 's', 'e'], .word (by simp [words]), by rw [hf]; rfl⟩
    rw [if_neg hf] at h
    by_cases hminus : c = '-'
    · rw [if_pos hminus] at h
      obtain ⟨numeral, hnumeral, rfl⟩ := number_sound h
      exact ⟨'-' :: numeral, .numeral (.negative hnumeral) (by rw [← hminus]; exact hread),
        by rw [hminus]; rfl⟩
    rw [if_neg hminus] at h
    by_cases hdigit : c.isDigit = true
    · rw [if_pos hdigit] at h
      obtain ⟨numeral, hnumeral, htext⟩ := number_sound h
      exact ⟨numeral, .numeral (.positive hnumeral) (htext ▸ hread), htext⟩
    rw [if_neg hdigit] at h
    by_cases hquote : c = '"'
    · rw [if_pos hquote] at h
      cases hbody : quotedText tail with
      | error e =>
        rw [hbody] at h
        cases h
      | ok read =>
        rw [hbody] at h
        obtain ⟨rfl, rfl⟩ := Prod.mk.inj (Except.ok.inj h)
        obtain ⟨quoted, hquoted, heq⟩ := quotedText_sound hbody
        exact ⟨quoted, .text hquoted, by rw [hquote, heq]⟩
    · rw [if_neg hquote] at h
      cases h

/-- What is passed over as a word, a number or a text has the form of one. -/
theorem skipScalar_sound {text rest : List Char} (h : skipScalar text = .ok rest) :
    ∃ form, Value form ∧ text = form ++ rest := by
  unfold skipScalar at h
  split at h
  · cases h
  · rename_i c tail
    -- the first character tells which kind of value is passed over
    by_cases hn : c = 'n'
    · rw [if_pos hn] at h
      exact ⟨['n', 'u', 'l', 'l'], .word (by simp [words]), by rw [hn, word_sound h]; rfl⟩
    rw [if_neg hn] at h
    by_cases ht : c = 't'
    · rw [if_pos ht] at h
      exact ⟨['t', 'r', 'u', 'e'], .word (by simp [words]), by rw [ht, word_sound h]; rfl⟩
    rw [if_neg ht] at h
    by_cases hf : c = 'f'
    · rw [if_pos hf] at h
      exact ⟨['f', 'a', 'l', 's', 'e'], .word (by simp [words]), by rw [hf, word_sound h]; rfl⟩
    rw [if_neg hf] at h
    by_cases hminus : c = '-'
    · rw [if_pos hminus] at h
      obtain ⟨numeral, hnumeral, rfl⟩ := skipNumber_sound h
      exact ⟨'-' :: numeral, .numeral (.negative hnumeral), by rw [hminus]; rfl⟩
    rw [if_neg hminus] at h
    by_cases hdigit : c.isDigit = true
    · rw [if_pos hdigit] at h
      obtain ⟨numeral, hnumeral, htext⟩ := skipNumber_sound h
      exact ⟨numeral, .numeral (.positive hnumeral), htext⟩
    rw [if_neg hdigit] at h
    by_cases hquote : c = '"'
    · rw [if_pos hquote] at h
      obtain ⟨quoted, hquoted, heq⟩ := skipString_sound h
      exact ⟨quoted, .text hquoted, by rw [hquote, heq]⟩
    · rw [if_neg hquote] at h
      cases h

/-! ## Readers -/

/-- What a reader accepts is blanks and a text of a form that tells what is read. -/
def Reads (reader : Reader α) (form : List Char → α → Prop) : Prop :=
  ∀ ⦃text : List Char⦄ ⦃value : α⦄ ⦃rest : List Char⦄, reader text = .ok (value, rest) →
    ∃ blank core, Blank blank ∧ form core value ∧ text = blank ++ (core ++ rest)

/-- What stands behind the name of a member: a colon, a text of a form, and what is left behind it. -/
def Follows (form : List Char → Prop) (text rest : List Char) : Prop :=
  ∃ between after core, Blank between ∧ Blank after ∧ form core ∧
    text = between ++ ':' :: (after ++ (core ++ rest))

/-- What a reader of members accepts behind the name has a form that tells with the name what is read. -/
def ReadsMember (member : List α → String → Reader α) (form : String → List Char → α → Prop) : Prop :=
  ∀ ⦃before : List α⦄ ⦃name : String⦄ ⦃text : List Char⦄ ⦃value : α⦄ ⦃rest : List Char⦄,
    member before name text = .ok (value, rest) → Follows (fun core => form name core value) text rest

/-- What is read as a text is one between quotes. -/
theorem reads_text : Reads Read.text Quoted := by
  intro text value rest h
  unfold Read.text at h
  split at h
  · rename_i tail hskip
    obtain ⟨blank, hblank, rfl⟩ := exists_blank_cons hskip
    obtain ⟨quoted, hquoted, heq⟩ := quotedText_sound h
    exact ⟨blank, quoted, hblank, hquoted, by rw [heq]⟩
  · exact absurd h mismatch_ne_ok

/-- The value of a member is read behind a colon. -/
theorem field_sound {reader : Reader α} {form : List Char → α → Prop} (hreader : Reads reader form)
    {text rest : List Char} {value : α} (h : field reader text = .ok (value, rest)) :
    Follows (fun core => form core value) text rest := by
  unfold field at h
  split at h
  · cases h
  · rename_i tail hcolon
    obtain ⟨between, hbetween, rfl⟩ := colon_sound hcolon
    obtain ⟨after, core, hafter, hform, rfl⟩ := hreader h
    exact ⟨between, after, core, hbetween, hafter, hform, rfl⟩

/-! ## Arrays -/

/-- In front of an item stand blanks, and a comma unless it is the first. -/
theorem nextItem_sound {first : Bool} {text rest : List Char} {start : Option (List Char)}
    (h : nextItem first text = .ok (start, rest)) :
    (start = none ∧ ∃ blank, Blank blank ∧ text = blank ++ ']' :: rest) ∨
    (start = some rest ∧ first = true ∧ ∃ blank, Blank blank ∧ text = blank ++ rest) ∨
    (start = some rest ∧ first = false ∧ ∃ before after, Blank before ∧ Blank after ∧
      text = before ++ ',' :: (after ++ rest)) := by
  unfold nextItem at h
  split at h
  · cases h
  · rename_i c tail hskip
    obtain ⟨blank, hblank, rfl⟩ := exists_blank_cons hskip
    by_cases hclose : c = ']'
    · rw [if_pos hclose] at h
      obtain ⟨rfl, rfl⟩ := Prod.mk.inj (Except.ok.inj h)
      exact Or.inl ⟨rfl, blank, hblank, by rw [hclose]⟩
    rw [if_neg hclose] at h
    cases first with
    | true =>
      obtain ⟨rfl, rfl⟩ := Prod.mk.inj (Except.ok.inj h)
      exact Or.inr (Or.inl ⟨rfl, rfl, blank, hblank, rfl⟩)
    | false =>
      rw [if_neg Bool.false_ne_true] at h
      -- behind an item a comma has to come, and something other than the end of the list
      by_cases hcomma : c = ','
      · rw [if_pos hcomma] at h
        split at h
        · cases h
        · rename_i d tail' hskip'
          split at h
          · cases h
          · obtain ⟨rfl, rfl⟩ := Prod.mk.inj (Except.ok.inj h)
            obtain ⟨after, hafter, rfl⟩ := exists_blank_cons hskip'
            exact Or.inr (Or.inr ⟨rfl, rfl, blank, after, hblank, hafter, by rw [hcomma]⟩)
      · rw [if_neg hcomma] at h
        cases h

/-- What is read as items is the inside of an array of texts of their form. -/
theorem items_sound {item : Reader α} {form : List Char → α → Prop} (hitem : Reads item form)
    {fuel : Nat} {first : Bool} {text rest : List Char} {values : List α}
    (h : items item fuel first text = .ok (values, rest)) :
    ∃ inner cores, Parts ']' ItemLead (!first) inner (cores.map fun core => ((), core)) ∧
      List.Forall₂ form cores values ∧ text = inner ++ rest := by
  induction fuel generalizing first text values with
  | zero => cases h
  | succ fuel ih =>
    rw [items] at h
    split at h
    · cases h
    · rename_i after hnext
      obtain ⟨rfl, rfl⟩ := Prod.mk.inj (Except.ok.inj h)
      rcases nextItem_sound hnext with ⟨-, blank, hblank, rfl⟩ | ⟨hsome, -⟩ | ⟨hsome, -⟩
      · exact ⟨blank ++ [']'], [], .close hblank, .nil, by simp⟩
      · cases hsome
      · cases hsome
    · rename_i start after hnext
      split at h
      · cases h
      · rename_i value tail hvalue
        split at h
        · cases h
        · rename_i more left hmore
          obtain ⟨rfl, rfl⟩ := Prod.mk.inj (Except.ok.inj h)
          obtain ⟨inner, cores, hparts, hforms, rfl⟩ := ih hmore
          obtain ⟨blank, core, hblank, hform, rfl⟩ := hitem hvalue
          -- blanks in front of the item are part of its lead, whether a comma stands there or not
          rcases nextItem_sound hnext with ⟨hnone, -⟩ | ⟨hsome, rfl, front, hfront, rfl⟩ |
            ⟨hsome, rfl, before, front, hbefore, hfront, rfl⟩
          · cases hnone
          · obtain rfl := Option.some.inj hsome
            refine ⟨(front ++ blank) ++ core ++ inner, core :: cores, ?_, .cons hform hforms, by simp⟩
            exact .first (hfront.append hblank) hparts
          · obtain rfl := Option.some.inj hsome
            refine ⟨before ++ ',' :: ((front ++ blank) ++ core ++ inner), core :: cores, ?_,
              .cons hform hforms, by simp⟩
            exact .next hbefore (hfront.append hblank) hparts

/-- An array whose items have a form. -/
def ArrayOf (form : List Char → α → Prop) (text : List Char) (values : List α) : Prop :=
  ∃ cores, IsArray text cores ∧ List.Forall₂ form cores values

/-- What is read as a list is an array of texts of the form of its items. -/
theorem reads_list {item : Nat → Reader α} {form : List Char → α → Prop}
    (hitem : ∀ depth, Reads (item depth) form) (depth : Nat) :
    Reads (list depth item) (ArrayOf form) := by
  intro text values rest h
  unfold list at h
  split at h
  · rename_i tail hskip
    obtain ⟨blank, hblank, rfl⟩ := exists_blank_cons hskip
    split at h
    · cases h
    · rename_i depth
      obtain ⟨inner, cores, hparts, hforms, rfl⟩ := items_sound (hitem depth) h
      exact ⟨blank, '[' :: inner, hblank, ⟨cores, ⟨inner, rfl, hparts⟩, hforms⟩, by simp⟩
  · exact absurd h mismatch_ne_ok

/-! ## Objects -/

/-- In front of a name stand blanks, and a comma unless it is the first. -/
theorem nextName_sound {first : Bool} {text rest : List Char} {name : Option String}
    (h : nextName first text = .ok (name, rest)) :
    (name = none ∧ ∃ blank, Blank blank ∧ text = blank ++ '}' :: rest) ∨
    (∃ found quoted, name = some found ∧ Quoted quoted found ∧
      ((first = true ∧ ∃ blank, Blank blank ∧ text = blank ++ (quoted ++ rest)) ∨
      (first = false ∧ ∃ before after, Blank before ∧ Blank after ∧
        text = before ++ ',' :: (after ++ (quoted ++ rest))))) := by
  unfold nextName at h
  split at h
  · cases h
  · rename_i c tail hskip
    obtain ⟨blank, hblank, rfl⟩ := exists_blank_cons hskip
    by_cases hclose : c = '}'
    · rw [if_pos hclose] at h
      obtain ⟨rfl, rfl⟩ := Prod.mk.inj (Except.ok.inj h)
      exact Or.inl ⟨rfl, blank, hblank, by rw [hclose]⟩
    rw [if_neg hclose] at h
    right
    by_cases hmissing : ¬ first = true ∧ c ≠ ','
    · rw [if_pos hmissing] at h
      cases h
    rw [if_neg hmissing] at h
    -- from here on the name stands at `start`, with or without a comma in front
    generalize hstart : (if first = true then c :: tail else skipBlank tail) = start at h
    split at h
    · cases h
    · rename_i d left
      by_cases hd : d = '"'
      · rw [if_pos hd] at h
        split at h
        · cases h
        · rename_i found after hread
          obtain ⟨rfl, rfl⟩ := Prod.mk.inj (Except.ok.inj h)
          obtain ⟨quoted, hquoted, heq⟩ := quotedText_sound hread
          rw [hd, heq] at hstart
          refine ⟨found, quoted, rfl, hquoted, ?_⟩
          cases first with
          | true =>
            rw [if_pos rfl] at hstart
            exact Or.inl ⟨rfl, blank, hblank, by rw [hstart]⟩
          | false =>
            have hcomma : c = ',' := by simpa using hmissing
            rw [if_neg Bool.false_ne_true] at hstart
            obtain ⟨space, hspace, htail⟩ := exists_blank tail
            exact Or.inr ⟨rfl, blank, space, hblank, hspace, by rw [hcomma, ← hstart, ← htail]⟩
      · rw [if_neg hd] at h
        split at h <;> cases h

/-- What is read as members is the inside of an object of texts of their form. `keeps` is what one member
after the other keeps of the list that is read. -/
theorem members_sound (keeps : List α → Prop) {member : List α → String → Reader α}
    {form : String → List Char → α → Prop} (hmember : ReadsMember member form)
    (hkeeps : ∀ ⦃before name text value rest⦄, keeps before →
      member before name text = .ok (value, rest) → keeps (before ++ [value]))
    {fuel : Nat} {before values : List α} {text rest : List Char}
    (h : members member fuel before text = .ok (values, rest)) (hbefore : keeps before) :
    ∃ inner raw more, Parts '}' MemberLead (!before.isEmpty) inner raw ∧
      List.Forall₂ (fun part value => form part.1 part.2 value) raw more ∧
      values = before ++ more ∧ keeps values ∧ text = inner ++ rest := by
  induction fuel generalizing before text with
  | zero => cases h
  | succ fuel ih =>
    rw [members] at h
    split at h
    · cases h
    · rename_i after hnext
      obtain ⟨rfl, rfl⟩ := Prod.mk.inj (Except.ok.inj h)
      rcases nextName_sound hnext with ⟨-, blank, hblank, rfl⟩ | ⟨found, quoted, hsome, -⟩
      · exact ⟨blank ++ ['}'], [], [], .close hblank, .nil, by simp, hbefore, by simp⟩
      · cases hsome
    · rename_i name after hnext
      split at h
      · cases h
      · rename_i value tail hvalue
        -- behind this member the object has started, so that a comma comes next
        have hnot : (before ++ [value]).isEmpty = false := by simp
        obtain ⟨inner, raw, more, hparts, hforms, rfl, hkept, rfl⟩ := ih h (hkeeps hbefore hvalue)
        rw [hnot] at hparts
        obtain ⟨between, front, core, hbetween, hfront, hform, rfl⟩ := hmember hvalue
        rcases nextName_sound hnext with ⟨hnone, -⟩ | ⟨found, quoted, hsome, hquoted, hplace⟩
        · cases hnone
        obtain rfl := Option.some.inj hsome
        rcases hplace with ⟨hfirst, blank, hblank, rfl⟩ | ⟨hfirst, comma, blank, hcomma, hblank, rfl⟩
        · refine ⟨(blank ++ quoted ++ between ++ ':' :: front) ++ core ++ inner, (name, core) :: raw,
            value :: more, ?_, .cons hform hforms, by simp, by simpa using hkept, by simp⟩
          rw [hfirst]
          exact .first (.mk hblank hquoted hbetween hfront) hparts
        · refine ⟨comma ++ ',' :: ((blank ++ quoted ++ between ++ ':' :: front) ++ core ++ inner),
            (name, core) :: raw, value :: more, ?_, .cons hform hforms, by simp, by simpa using hkept,
            by simp⟩
          rw [hfirst]
          exact .next hcomma (.mk hblank hquoted hbetween hfront) hparts

/-- An object whose members have a form. -/
def ObjectOf (form : String → List Char → α → Prop) (text : List Char) (values : List α) : Prop :=
  ∃ raw, IsObject text raw ∧ List.Forall₂ (fun part value => form part.1 part.2 value) raw values

/-- What is read as an object has members of their form, and what each of them keeps holds of all. -/
theorem reads_object (keeps : List α → Prop) {member : Nat → List α → String → Reader α}
    {form : String → List Char → α → Prop} {expected : Expected}
    (hmember : ∀ depth, ReadsMember (member depth) form)
    (hkeeps : ∀ ⦃depth before name text value rest⦄, keeps before →
      member depth before name text = .ok (value, rest) → keeps (before ++ [value]))
    (hnil : keeps []) (depth : Nat) :
    Reads (object expected depth member) fun text values => ObjectOf form text values ∧ keeps values := by
  intro text values rest h
  unfold object at h
  split at h
  · rename_i tail hskip
    obtain ⟨blank, hblank, rfl⟩ := exists_blank_cons hskip
    split at h
    · cases h
    · rename_i depth
      obtain ⟨inner, raw, more, hparts, hforms, rfl, hkept, rfl⟩ :=
        members_sound keeps (hmember depth) (@hkeeps depth) h hnil
      exact ⟨blank, '{' :: inner, hblank, ⟨⟨raw, ⟨inner, rfl, hparts⟩, hforms⟩, hkept⟩, by simp⟩
  · exact absurd h mismatch_ne_ok

/-! ## Values of any shape -/

/-- A plain member is read under its name, as what its text denotes. -/
theorem readsMember_plainMember {value : Reader Json} (hvalue : Reads value Denotes) :
    ReadsMember (plainMember value) fun name core pair => pair.1 = name ∧ Denotes core pair.2 := by
  intro before name text pair rest h
  unfold plainMember at h
  split at h
  · cases h
  · rename_i tail hcolon
    split at h
    · cases h
    · rename_i v left hread
      obtain ⟨rfl, rfl⟩ := Prod.mk.inj (Except.ok.inj h)
      obtain ⟨between, hbetween, rfl⟩ := colon_sound hcolon
      obtain ⟨after, core, hafter, hform, rfl⟩ := hvalue hread
      exact ⟨between, after, core, hbetween, hafter, ⟨rfl, hform⟩, rfl⟩

/-- Members with values of a form, by their names and by their values. -/
theorem forall₂_members {form : List Char → α → Prop} {raw : List (String × List Char)}
    {pairs : List (String × α)}
    (h : List.Forall₂ (fun part pair => pair.1 = part.1 ∧ form part.2 pair.2) raw pairs) :
    raw.map Prod.fst = pairs.map Prod.fst ∧
      List.Forall₂ form (raw.map Prod.snd) (pairs.map Prod.snd) := by
  induction h with
  | nil => exact ⟨rfl, .nil⟩
  | cons hhead _ ih =>
    refine ⟨?_, .cons hhead.2 ih.2⟩
    rw [List.map_cons, List.map_cons, hhead.1, ih.1]

/-- What is read as a value denotes what was read, however deep it may be. -/
theorem reads_valueWithin (fuel depth : Nat) : Reads (valueWithin fuel depth) Denotes := by
  induction fuel generalizing depth with
  | zero =>
    intro text value rest h
    cases h
  | succ fuel ih =>
    intro text value rest h
    rw [valueWithin.eq_def] at h
    dsimp only at h
    split at h
    · -- an array: its items are read with less fuel
      rename_i tail hskip
      obtain ⟨blank, hblank, rfl⟩ := exists_blank_cons hskip
      split at h
      · cases h
      · rename_i depth
        split at h
        · cases h
        · rename_i values left hitems
          obtain ⟨rfl, rfl⟩ := Prod.mk.inj (Except.ok.inj h)
          obtain ⟨inner, cores, hparts, hforms, rfl⟩ := items_sound (ih depth) hitems
          exact ⟨blank, '[' :: inner, hblank, .array ⟨inner, rfl, hparts⟩ hforms, by simp⟩
    · -- an object: nothing has to be kept of the members in front
      rename_i tail hskip
      obtain ⟨blank, hblank, rfl⟩ := exists_blank_cons hskip
      split at h
      · cases h
      · rename_i depth
        split at h
        · cases h
        · rename_i pairs left hmembers
          obtain ⟨rfl, rfl⟩ := Prod.mk.inj (Except.ok.inj h)
          obtain ⟨inner, raw, more, hparts, hforms, rfl, -, rfl⟩ :=
            members_sound (fun _ => True) (readsMember_plainMember (ih depth))
              (fun _ _ _ _ _ _ _ => trivial) hmembers trivial
          obtain ⟨hnames, hvalues⟩ := forall₂_members hforms
          exact ⟨blank, '{' :: inner, hblank, .object ⟨inner, rfl, hparts⟩ hnames hvalues, by simp⟩
    · obtain ⟨blank, hblank, htext⟩ := exists_blank text
      obtain ⟨form, hform, hskip⟩ := scalar_sound h
      exact ⟨blank, form, hblank, hform, hskip ▸ htext⟩

/-- What the reader of plain values takes denotes what it gives. -/
theorem reads_value (depth : Nat) : Reads (value depth) Denotes := by
  intro text v rest h
  exact reads_valueWithin _ _ h

/-! ## Values that are passed over -/

/-- The bracket that closes. -/
def Bracket.closing : Bracket → Char
  | .list => ']'
  | .object => '}'

/-- What stands in front of a value inside of a bracket. -/
def Bracket.lead : Bracket → List Char → Unit → Prop
  | .list => ItemLead
  | .object => LooseLead

/-- The text up to the end of an open bracket, all of whose values are well-formed. -/
def Ends (bracket : Bracket) (started : Bool) (text : List Char) : Prop :=
  ∃ values : List (List Char), (∀ value ∈ values, Value value) ∧
    Parts bracket.closing bracket.lead started text (values.map fun value => ((), value))

/-- The text up to the end of all open brackets, innermost first, and what is left behind them. -/
def Closes : List Bracket → Bool → List Char → List Char → Prop
  | [], _, text, rest => rest = text
  | bracket :: outer, started, text, rest =>
    ∃ inner after, Ends bracket started inner ∧ text = inner ++ after ∧ Closes outer true after rest

/-- What the checker accepts: where it stands in front of a value, a value comes first. -/
def Passes (outer : List Bracket) : Stage → List Char → List Char → Prop
  | .value, text, rest => ∃ blank core after, Blank blank ∧ Value core ∧
      text = blank ++ (core ++ after) ∧ Closes outer true after rest
  | .within started, text, rest => Closes outer started text rest

/-- A name that is passed over stands between quotes, with a colon behind it. -/
theorem skipName_sound {text rest : List Char} (h : skipName text = .ok rest) :
    ∃ front, text = front ++ rest ∧
      ∀ before after, Blank before → Blank after → LooseLead (before ++ front ++ after) () := by
  unfold skipName at h
  split at h
  · cases h
  · rename_i tail hskip
    split at h
    · cases h
    · rename_i left hstring
      obtain ⟨blank, hblank, rfl⟩ := exists_blank_cons hskip
      obtain ⟨quoted, hquoted, heq⟩ := skipString_sound hstring
      obtain ⟨between, hbetween, rfl⟩ := colon_sound h
      refine ⟨blank ++ quoted ++ between ++ [':'], by rw [heq]; simp, ?_⟩
      intro before after hbefore hafter
      have hlead := LooseLead.mk (hbefore.append hblank) hquoted hbetween hafter
      simpa using hlead
  · cases h

/-- What stands in front of a value in a bracket is blank, or a name with its colon. -/
theorem beforeValue_sound {bracket : Bracket} {text rest : List Char}
    (h : beforeValue bracket text = .ok rest) :
    ∃ front, text = front ++ rest ∧
      ∀ before after, Blank before → Blank after → bracket.lead (before ++ front ++ after) () := by
  cases bracket with
  | list =>
    obtain rfl := Except.ok.inj h
    refine ⟨[], rfl, ?_⟩
    intro before after hbefore hafter
    rw [List.append_nil]
    exact hbefore.append hafter
  | object => exact skipName_sound h

/-- A first value in front of the end of a bracket. -/
theorem Ends.first {bracket : Bracket} {front core inner : List Char} (hlead : bracket.lead front ())
    (hcore : Value core) (h : Ends bracket true inner) : Ends bracket false (front ++ core ++ inner) := by
  obtain ⟨values, hvalues, hparts⟩ := h
  exact ⟨core :: values, List.forall_mem_cons.2 ⟨hcore, hvalues⟩, .first hlead hparts⟩

/-- A comma and a value in front of the end of a bracket. -/
theorem Ends.next {bracket : Bracket} {blank front core inner : List Char} (hblank : Blank blank)
    (hlead : bracket.lead front ()) (hcore : Value core) (h : Ends bracket true inner) :
    Ends bracket true (blank ++ ',' :: (front ++ core ++ inner)) := by
  obtain ⟨values, hvalues, hparts⟩ := h
  exact ⟨core :: values, List.forall_mem_cons.2 ⟨hcore, hvalues⟩, .next hblank hlead hparts⟩

theorem Ends.array {inner : List Char} (h : Ends .list false inner) : Value ('[' :: inner) := by
  obtain ⟨values, hvalues, hparts⟩ := h
  exact .array ⟨inner, rfl, hparts⟩ hvalues

theorem Ends.object {inner : List Char} (h : Ends .object false inner) : Value ('{' :: inner) := by
  obtain ⟨values, hvalues, hparts⟩ := h
  exact .object ⟨inner, rfl, hparts⟩ hvalues

/-- A comma inside of a bracket, and a value behind what stands in front of it. -/
theorem Passes.comma {bracket : Bracket} {outer : List Bracket} {blank tail left rest : List Char}
    (hblank : Blank blank) (hbefore : beforeValue bracket tail = .ok left)
    (h : Passes (bracket :: outer) .value left rest) :
    Passes (bracket :: outer) (.within true) (blank ++ ',' :: tail) rest := by
  obtain ⟨front, rfl, hlead⟩ := beforeValue_sound hbefore
  obtain ⟨space, core, after, hspace, hcore, rfl, inner, last, hends, rfl, hcloses⟩ := h
  exact ⟨_, last, hends.next hblank (hlead [] space .nil hspace) hcore, by simp, hcloses⟩

/-- The first value of a bracket; blanks in front of it belong to what stands in front of it. -/
theorem Passes.first {bracket : Bracket} {outer : List Bracket} {blank tail left rest : List Char}
    (hblank : Blank blank) (hbefore : beforeValue bracket tail = .ok left)
    (h : Passes (bracket :: outer) .value left rest) :
    Passes (bracket :: outer) (.within false) (blank ++ tail) rest := by
  obtain ⟨front, rfl, hlead⟩ := beforeValue_sound hbefore
  obtain ⟨space, core, after, hspace, hcore, rfl, inner, last, hends, rfl, hcloses⟩ := h
  exact ⟨_, last, hends.first (hlead blank space hblank hspace) hcore, by simp, hcloses⟩

/-- A bracket is closed, and the one around it goes on. -/
theorem Passes.closing {bracket : Bracket} {outer : List Bracket} {started : Bool}
    {blank tail rest : List Char} (hblank : Blank blank) (h : Passes outer (.within true) tail rest) :
    Passes (bracket :: outer) (.within started) (blank ++ bracket.closing :: tail) rest :=
  ⟨blank ++ [bracket.closing], tail, ⟨[], by simp, .close hblank⟩, by simp, h⟩

/-- The checker accepts only what its stage and the open brackets ask for. -/
theorem skipWithin_sound {fuel : Nat} {outer : List Bracket} {stage : Stage} {text rest : List Char}
    (h : skipWithin fuel outer stage text = .ok rest) : Passes outer stage text rest := by
  -- the open brackets and the stage change from step to step, so both are general in the induction
  induction fuel generalizing outer stage text with
  | zero => cases h
  | succ fuel ih =>
    cases stage with
    | value =>
      rw [skipWithin] at h
      split at h
      · rename_i tail hskip
        obtain ⟨blank, hblank, htext⟩ := exists_blank_cons hskip
        obtain ⟨inner, after, hends, rfl, hcloses⟩ := ih h
        exact ⟨blank, '[' :: inner, after, hblank, hends.array, htext, hcloses⟩
      · rename_i tail hskip
        obtain ⟨blank, hblank, htext⟩ := exists_blank_cons hskip
        obtain ⟨inner, after, hends, rfl, hcloses⟩ := ih h
        exact ⟨blank, '{' :: inner, after, hblank, hends.object, htext, hcloses⟩
      · split at h
        · cases h
        · rename_i left hscalar
          obtain ⟨blank, hblank, htext⟩ := exists_blank text
          obtain ⟨core, hcore, hskip⟩ := skipScalar_sound hscalar
          exact ⟨blank, core, left, hblank, hcore, hskip ▸ htext, ih h⟩
    | within started =>
      cases outer with
      | nil =>
        rw [skipWithin] at h
        exact (Except.ok.inj h).symm
      | cons bracket outer =>
        rw [skipWithin] at h
        split at h
        · cases h
        · rename_i c tail hskip
          obtain ⟨blank, hblank, rfl⟩ := exists_blank_cons hskip
          by_cases hcomma : started = true ∧ c = ','
          · rw [if_pos hcomma] at h
            obtain ⟨rfl, rfl⟩ := hcomma
            split at h
            · cases h
            · rename_i left hbefore
              exact .comma hblank hbefore (ih h)
          rw [if_neg hcomma] at h
          by_cases hclose : bracket = .list ∧ c = ']' ∨ bracket = .object ∧ c = '}'
          · rw [if_pos hclose] at h
            rcases hclose with ⟨rfl, rfl⟩ | ⟨rfl, rfl⟩
            · exact .closing hblank (ih h)
            · exact .closing hblank (ih h)
          rw [if_neg hclose] at h
          cases started with
          | true => cases h
          | false =>
            rw [if_neg Bool.false_ne_true] at h
            split at h
            · cases h
            · rename_i left hbefore
              exact .first hblank hbefore (ih h)

/-- What is passed over is a value. -/
theorem skipValue_sound {text rest : List Char} (h : skipValue text = .ok rest) :
    ∃ blank core, Blank blank ∧ Value core ∧ text = blank ++ (core ++ rest) := by
  obtain ⟨blank, core, after, hblank, hcore, htext, hrest⟩ := skipWithin_sound h
  obtain rfl : rest = after := hrest
  exact ⟨blank, core, hblank, hcore, htext⟩

/-! ## Arrays with a fixed number of items -/

/-- The text from inside of an array: the items up to its end, and what is left behind it. -/
def ItemsEnd (started : Bool) (text : List Char) (items : List (List Char)) (rest : List Char) : Prop :=
  ∃ inner, Parts ']' ItemLead started inner (items.map fun item => ((), item)) ∧ text = inner ++ rest

/-- The end of a list has blanks in front of it only. -/
theorem endOfList_sound {text rest : List Char} (h : endOfList text = .ok rest) (started : Bool) :
    ItemsEnd started text [] rest := by
  unfold endOfList at h
  split at h
  · cases h
  · rename_i c tail hskip
    obtain ⟨blank, hblank, rfl⟩ := exists_blank_cons hskip
    by_cases hclose : c = ']'
    · rw [if_pos hclose] at h
      obtain rfl := Except.ok.inj h
      exact ⟨blank ++ [']'], .close hblank, by rw [hclose]; simp⟩
    · rw [if_neg hclose] at h
      split at h
      · split at h <;> cases h
      · cases h

/-- A reader of one more item finds the end of the array, or an item in front of the other ones. -/
theorem nextOf_sound {item : Reader α} {form : List Char → α → Prop} (hitem : Reads item form)
    {first : Bool} {text after : List Char} {value : Option α}
    (h : nextOf first item text = .ok (value, after)) :
    (value = none ∧ ∃ blank tail, Blank blank ∧ after = ']' :: tail ∧ text = blank ++ after) ∨
    ∃ found core, value = some found ∧ form core found ∧
      ∀ cores rest, ItemsEnd true after cores rest → ItemsEnd (!first) text (core :: cores) rest := by
  unfold nextOf at h
  split at h
  · cases h
  · rename_i tail hnext
    obtain ⟨rfl, rfl⟩ := Prod.mk.inj (Except.ok.inj h)
    rcases nextItem_sound hnext with ⟨-, blank, hblank, htext⟩ | ⟨hsome, -⟩ | ⟨hsome, -⟩
    · exact Or.inl ⟨rfl, blank, tail, hblank, rfl, htext⟩
    · cases hsome
    · cases hsome
  · rename_i start left hnext
    split at h
    · cases h
    · rename_i found tail hvalue
      obtain ⟨rfl, rfl⟩ := Prod.mk.inj (Except.ok.inj h)
      obtain ⟨blank, core, hblank, hform, rfl⟩ := hitem hvalue
      refine Or.inr ⟨found, core, rfl, hform, ?_⟩
      -- whatever the other items are, this one stands in front of them
      rintro cores rest ⟨inner, hparts, rfl⟩
      rcases nextItem_sound hnext with ⟨hnone, -⟩ | ⟨hsome, rfl, front, hfront, rfl⟩ |
        ⟨hsome, rfl, before, front, hbefore, hfront, rfl⟩
      · cases hnone
      · obtain rfl := Option.some.inj hsome
        exact ⟨(front ++ blank) ++ core ++ inner, .first (hfront.append hblank) hparts, by simp⟩
      · obtain rfl := Option.some.inj hsome
        exact ⟨before ++ ',' :: ((front ++ blank) ++ core ++ inner),
          .next hbefore (hfront.append hblank) hparts, by simp⟩

/-- Behind the last item no other one is found. -/
theorem nextOf_end (first : Bool) (item : Reader α) (tail : List Char) :
    nextOf first item (']' :: tail) = .ok (none, ']' :: tail) := by
  have hnext : nextItem first (']' :: tail) = .ok (none, tail) := rfl
  rw [nextOf, hnext]

/-- The last item of an array may be absent. -/
theorem lastOf_sound {item : Reader α} {form : List Char → α → Prop} (hitem : Reads item form)
    {first : Bool} {text after rest : List Char} {value : Option α}
    (h : nextOf first item text = .ok (value, after)) (hend : endOfList after = .ok rest) :
    ∃ cores, ItemsEnd (!first) text cores rest ∧ List.Forall₂ form cores value.toList := by
  rcases nextOf_sound hitem h with ⟨rfl, blank, tail, hblank, rfl, rfl⟩ | ⟨found, core, rfl, hform, hitems⟩
  · obtain rfl : tail = rest := Except.ok.inj hend
    exact ⟨[], ⟨blank ++ [']'], .close hblank, by simp⟩, .nil⟩
  · exact ⟨[core], hitems [] rest (endOfList_sound hend true), .cons hform .nil⟩

/-! ## Numbers -/

/-- A numeral or `null`, and the double that is read from it. -/
inductive IsNumber : List Char → Option Float → Prop where
  | null : IsNumber ['n', 'u', 'l', 'l'] none
  | whole {text : List Char} {n : Int} (h : Numeral text) (hvalue : Denotes text (.integer n)) :
      IsNumber text (some (Decimal.signed (decide (n < 0)) (UInt64.ofNat n.natAbs).toFloat))
  | real {text : List Char} {x : Float} (h : Numeral text) (hvalue : Denotes text (.real x)) :
      IsNumber text (some x)

theorem assemble_real {negative : Bool} {significand : Nat} {exponent : Int} {text rest : List Char}
    {value : Json} (h : assemble negative significand exponent text = .ok (value, rest)) :
    ∃ x, value = .real x := by
  unfold assemble at h
  split at h
  · obtain ⟨rfl, rfl⟩ := Prod.mk.inj (Except.ok.inj h)
    exact ⟨_, rfl⟩
  · cases h

/-- A number with a point or an exponent is a double. -/
theorem afterDigits_real {negative : Bool} {significand : Nat} {exponent : Int} {text rest : List Char}
    {value : Json} (h : afterDigits negative significand exponent text = .ok (value, rest)) :
    ∃ x, value = .real x := by
  have hexponent : ∀ tail, exponentPart negative significand exponent tail = .ok (value, rest) →
      ∃ x, value = .real x := by
    intro tail hpart
    rw [exponentPart_eq] at hpart
    split at hpart
    · cases hpart
    · split at hpart
      · split at hpart
        · exact assemble_real hpart
        · split at hpart
          · cases hpart
          · obtain ⟨rfl, rfl⟩ := Prod.mk.inj (Except.ok.inj hpart)
            exact ⟨_, rfl⟩
      · cases hpart
  unfold afterDigits at h
  split at h
  · exact hexponent _ h
  · exact hexponent _ h
  · exact assemble_real h

/-- What is read from a numeral is a whole number or a double. -/
theorem number_cases {negative : Bool} {text rest : List Char} {value : Json}
    (h : number negative text = .ok (value, rest)) :
    (∃ n, value = .integer n) ∨ ∃ x, value = .real x := by
  unfold number at h
  split at h
  · cases h
  · split at h
    · cases h
    · split at h
      · cases h
      · dsimp only at h
        split at h
        · unfold fractionPart at h
          dsimp only at h
          split at h
          · split at h <;> cases h
          · exact Or.inr (afterDigits_real h)
        · split at h
          · obtain ⟨rfl, rfl⟩ := Prod.mk.inj (Except.ok.inj h)
            unfold wholeNumber
            split
            · split
              · exact Or.inl ⟨_, rfl⟩
              · exact Or.inr ⟨_, rfl⟩
            · exact Or.inl ⟨_, rfl⟩
          · exact Or.inr (afterDigits_real h)

/-- What starts like a number is read as one. -/
theorem scalar_numeral {text rest : List Char} {value : Json} (hstart : startsNumber text = true)
    (h : scalar text = .ok (value, rest)) :
    ∃ form, Numeral form ∧ Denotes form value ∧ text = form ++ rest ∧
      ((∃ n, value = .integer n) ∨ ∃ x, value = .real x) := by
  have hread := h
  cases text with
  | nil => cases hstart
  | cons c tail =>
    by_cases hminus : c = '-'
    · rw [hminus] at h hread ⊢
      have hnumber : number true tail = .ok (value, rest) := h
      obtain ⟨numeral, hnumeral, rfl⟩ := number_sound hnumber
      exact ⟨'-' :: numeral, .negative hnumeral, .numeral (.negative hnumeral) hread, rfl,
        number_cases hnumber⟩
    · have hdigit : c.isDigit = true := by simpa [startsNumber, hminus] using hstart
      have hletter : c ≠ 'n' ∧ c ≠ 't' ∧ c ≠ 'f' := by
        refine ⟨?_, ?_, ?_⟩ <;> rintro rfl <;> cases hdigit
      have hnumber : number false (c :: tail) = .ok (value, rest) := by
        rw [scalar, if_neg hletter.1, if_neg hletter.2.1, if_neg hletter.2.2, if_neg hminus,
          if_pos hdigit] at h
        exact h
      obtain ⟨numeral, hnumeral, htext⟩ := number_sound hnumber
      exact ⟨numeral, .positive hnumeral, .numeral (.positive hnumeral) (htext ▸ hread), htext,
        number_cases hnumber⟩

/-- What is read as an optional number is a numeral, or `null`. -/
theorem reads_optionalNumber : Reads optionalNumber IsNumber := by
  intro text value rest h
  obtain ⟨blank, hblank, htext⟩ := exists_blank text
  unfold optionalNumber at h
  dsimp only at h
  split at h
  · rename_i tail hskip
    obtain ⟨rfl, rfl⟩ := map_word_sound h
    refine ⟨blank, ['n', 'u', 'l', 'l'], hblank, .null, ?_⟩
    rw [hskip] at htext
    exact htext
  · by_cases hstart : startsNumber (skipBlank text) = true
    · rw [if_pos hstart] at h
      cases hscalar : scalar (skipBlank text) with
      | error e =>
        rw [hscalar] at h
        cases h
      | ok read =>
        obtain ⟨number, left⟩ := read
        rw [hscalar] at h
        obtain ⟨form, hnumeral, hdenotes, hskip, ⟨n, rfl⟩ | ⟨x, rfl⟩⟩ := scalar_numeral hstart hscalar
        · obtain ⟨rfl, rfl⟩ := Prod.mk.inj (Except.ok.inj h)
          exact ⟨blank, form, hblank, .whole hnumeral hdenotes, hskip ▸ htext⟩
        · obtain ⟨rfl, rfl⟩ := Prod.mk.inj (Except.ok.inj h)
          exact ⟨blank, form, hblank, .real hnumeral hdenotes, hskip ▸ htext⟩
    · rw [if_neg hstart] at h
      exact absurd h mismatch_ne_ok

/-- A numeral for a natural number. -/
def IsIndex (text : List Char) (n : Nat) : Prop := Numeral text ∧ Denotes text (.integer n)

/-- What is read as an index is a numeral for a natural number. -/
theorem reads_index : Reads index IsIndex := by
  intro text value rest h
  obtain ⟨blank, hblank, htext⟩ := exists_blank text
  unfold index at h
  dsimp only at h
  by_cases hstart : startsNumber (skipBlank text) = true
  · rw [if_pos hstart] at h
    cases hscalar : scalar (skipBlank text) with
    | error e =>
      rw [hscalar] at h
      cases h
    | ok read =>
      obtain ⟨number, left⟩ := read
      rw [hscalar] at h
      obtain ⟨form, hnumeral, hdenotes, hskip, ⟨n, rfl⟩ | ⟨x, rfl⟩⟩ := scalar_numeral hstart hscalar
      · dsimp only at h
        split at h
        · rename_i hpos
          obtain ⟨rfl, rfl⟩ := Prod.mk.inj (Except.ok.inj h)
          exact ⟨blank, form, hblank, ⟨hnumeral, by rwa [Int.toNat_of_nonneg hpos]⟩, hskip ▸ htext⟩
        · cases h
      · cases h
  · rw [if_neg hstart] at h
    exact absurd h mismatch_ne_ok

/-! ## Whole documents -/

/-- A document is a text of a form with nothing but blanks around it. -/
def IsDocument (form : List Char → Prop) (input : String) : Prop :=
  ∃ before core after, Blank before ∧ form core ∧ Blank after ∧ input.toList = before ++ core ++ after

/-- A document that is read is a text of the form of its value, with blanks around it. -/
theorem document_sound {reader : Reader α} {form : List Char → α → Prop} (hreader : Reads reader form)
    {input : String} {value : α} (h : document reader input = .ok value) :
    IsDocument (fun core => form core value) input := by
  unfold document at h
  dsimp only at h
  split at h
  · cases h
  · rename_i read rest hread
    split at h
    · rename_i hskip
      obtain rfl := Except.ok.inj h
      obtain ⟨before, core, hbefore, hform, htext⟩ := hreader hread
      obtain ⟨after, hafter, hrest⟩ := exists_blank rest
      rw [hskip, List.append_nil] at hrest
      exact ⟨before, core, after, hbefore, hform, hafter, by rw [htext, hrest, List.append_assoc]⟩
    · cases h

/-! ## Members by their names -/

section MembersByName

variable {β : Type} {member : String → List Char → β → Prop} {raw : List (String × List Char)}
  {fields : List β}

/-- What the members of an object give under a name: nothing if no member has the name, else something
that the value of a member with the name has the form of. -/
def Gives (raw : List (String × List Char)) (name : String) (form : List Char → α → Prop) :
    Option α → Prop
  | none => name ∉ raw.map Prod.fst
  | some value => ∃ core, (name, core) ∈ raw ∧ form core value

/-- No name of a list stands twice among the members of an object. -/
def Once (known : List String) (raw : List (String × List Char)) : Prop :=
  ((raw.map Prod.fst).filter fun name => decide (name ∈ known)).Nodup

/-- What is picked out of the members that are read is what the text gives under the name. -/
theorem gives_findSome? {name : String} {form : List Char → α → Prop} {pick : β → Option α}
    (hpick : ∀ ⦃key core field⦄, member key core field →
      (key = name ∧ ∃ value, pick field = some value ∧ form core value) ∨
        (key ≠ name ∧ pick field = none))
    (h : List.Forall₂ (fun part field => member part.1 part.2 field) raw fields) :
    Gives raw name form (fields.findSome? pick) := by
  induction h with
  | nil => exact List.not_mem_nil
  | @cons part field raw fields hmember _ ih =>
    rw [List.findSome?_cons]
    rcases hpick hmember with ⟨hkey, value, hvalue, hform⟩ | ⟨hkey, hnone⟩
    · rw [hvalue]
      exact ⟨part.2, by rw [← hkey]; exact List.mem_cons_self, hform⟩
    · rw [hnone]
      cases hfound : fields.findSome? pick with
      | none =>
        rw [hfound] at ih
        rw [Gives, List.map_cons, List.mem_cons, not_or]
        exact ⟨Ne.symm hkey, ih⟩
      | some value =>
        rw [hfound] at ih
        obtain ⟨core, hcore, hform⟩ := ih
        exact ⟨core, List.mem_cons_of_mem _ hcore, hform⟩

/-- Every member of the text is of a form that some member of its kind is read from. -/
theorem forall_members {P : String → List Char → Prop}
    (hmember : ∀ ⦃name core field⦄, member name core field → P name core)
    (h : List.Forall₂ (fun part field => member part.1 part.2 field) raw fields) :
    ∀ part ∈ raw, P part.1 part.2 := by
  induction h with
  | nil => simp
  | cons hhead _ ih => exact List.forall_mem_cons.2 ⟨hmember hhead, ih⟩

/-- The keys of the members that are read are the known names of the text. -/
theorem filterMap_key? {key? : β → Option String} {known : List String}
    (hkey : ∀ ⦃name core field⦄, member name core field →
      key? field = if name ∈ known then some name else none)
    (h : List.Forall₂ (fun part field => member part.1 part.2 field) raw fields) :
    fields.filterMap key? = (raw.map Prod.fst).filter fun name => decide (name ∈ known) := by
  induction h with
  | nil => rfl
  | @cons part field raw fields hmember _ ih =>
    rw [List.filterMap_cons, List.map_cons, List.filter_cons, hkey hmember, ih]
    by_cases hknown : part.1 ∈ known
    · simp [hknown]
    · simp [hknown]

/-- A reader that refuses a second member of one name reads every known name once. -/
theorem nodup_keys_concat {key? : β → Option String} {known : List String} {before : List β} {field : β}
    {name : String} (hbefore : (before.filterMap key?).Nodup)
    (hnew : (before.any fun f => key? f == some name) = false)
    (hkey : key? field = if name ∈ known then some name else none) :
    ((before ++ [field]).filterMap key?).Nodup := by
  have habsent : name ∉ before.filterMap key? := by
    intro hmem
    obtain ⟨other, hother, heq⟩ := List.mem_filterMap.1 hmem
    have hfalse := List.any_eq_false.1 hnew other hother
    simp [heq] at hfalse
  rw [List.filterMap_append, List.filterMap_cons, hkey]
  by_cases hname : name ∈ known
  · rw [if_pos hname]
    exact Entries.nodup_append_new hbefore habsent
  · rw [if_neg hname]
    simpa using hbefore

/-- The members of an object with other names than those of a list, as entries. -/
def Carries (known : List String) (raw : List (String × List Char)) (entries : Entries Json) : Prop :=
  ∃ pairs : List (String × Json),
    List.Forall₂ (fun part pair => pair.1 = part.1 ∧ Denotes part.2 pair.2)
      (raw.filter fun part => decide (part.1 ∉ known)) pairs ∧ Entries.Collects pairs entries

/-- The members that are kept as they are read are those with other names. -/
theorem carries_ofPairs {known : List String} {keep : β → Option (String × Json)}
    (hkeep : ∀ ⦃name core field⦄, member name core field →
      (name ∈ known ∧ keep field = none) ∨
        (name ∉ known ∧ ∃ value, keep field = some (name, value) ∧ Denotes core value))
    (h : List.Forall₂ (fun part field => member part.1 part.2 field) raw fields) :
    Carries known raw (Entries.ofPairs (fields.filterMap keep)) := by
  refine ⟨fields.filterMap keep, ?_, Entries.collects_ofPairs _⟩
  induction h with
  | nil => exact .nil
  | @cons part field raw fields hmember _ ih =>
    rw [List.filter_cons, List.filterMap_cons]
    rcases hkeep hmember with ⟨hname, hnone⟩ | ⟨hname, value, hsome, hvalue⟩
    · rw [hnone, if_neg (by simp [hname])]
      exact ih
    · rw [hsome, if_pos (by simp [hname])]
      exact .cons ⟨rfl, hvalue⟩ ih

/-- The members that are kept have different names. -/
theorem Carries.nodup_keys {known : List String} {entries : Entries Json}
    (h : Carries known raw entries) : entries.keys.Nodup := by
  obtain ⟨pairs, -, hcollects⟩ := h
  exact hcollects.nodup_keys

/-- No name of the list is among the entries. -/
theorem Carries.not_mem_known {known : List String} {entries : Entries Json}
    (h : Carries known raw entries) {key : String} (hkey : key ∈ entries.keys) : key ∉ known := by
  obtain ⟨pairs, hpairs, hcollects⟩ := h
  obtain ⟨hnames, -⟩ := forall₂_members hpairs
  rw [hcollects.mem_keys, ← hnames] at hkey
  obtain ⟨part, hpart, rfl⟩ := List.mem_map.1 hkey
  simpa using (List.mem_filter.1 hpart).2

end MembersByName

end BenchScope.Json.Read
