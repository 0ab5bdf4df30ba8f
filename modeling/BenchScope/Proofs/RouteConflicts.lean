import BenchScope.Proofs.Routing
import Mathlib.Data.List.Nodup
import Mathlib.Data.List.Induction

/-!
# Conflicts between routes

Two patterns collide if they agree up to a point where both end, or where both have a place holder and one
of them stands for all the rest of a path. Adding a route to a table is refused as taken exactly if its
pattern collides with one in the table, so a table can be built only from routes that do not collide.

No folder of the data root takes a path of the viewer or of its assets, whatever its name. A suite document
in the data root itself does so if it is called `all` or `static`, and it takes the path of the results folder
if that has its name; then the viewer cannot be built. For names without place holders this is the only way
in which two routes share a path.
-/

namespace BenchScope

namespace Http

namespace Pattern

/-! ## Collisions -/

/-- Two patterns that cannot both be in a table. -/
inductive Collide : Pattern → Pattern → Prop where
  | ends : Collide [] []
  | char {c : Char} {first second : Pattern} :
      Collide first second → Collide (.char c :: first) (.char c :: second)
  | part {first second : Pattern} : Collide first second → Collide (.part :: first) (.part :: second)
  | partRest {first second : Pattern} : Collide (.part :: first) (.rest :: second)
  | restPart {first second : Pattern} : Collide (.rest :: first) (.part :: second)
  | rest {first second : Pattern} : Collide (.rest :: first) (.rest :: second)

theorem Collide.refl (pattern : Pattern) : Collide pattern pattern := by
  induction pattern with
  | nil => exact .ends
  | cons piece pattern ih =>
    cases piece with
    | char c => exact .char ih
    | part => exact .part ih
    | rest => exact .rest

/-- A pattern that is at its end collides with one that is at its end too. -/
theorem collide_nil_iff {pattern : Pattern} : Collide pattern [] ↔ pattern = [] := by
  constructor
  · intro h
    cases h
    rfl
  · rintro rfl
    exact .ends

/-- A letter collides with the same letter only, if what follows collides. -/
theorem collide_char_iff {pattern left : Pattern} {c : Char} :
    Collide pattern (.char c :: left) ↔ ∃ other, pattern = .char c :: other ∧ Collide other left := by
  constructor
  · intro h
    cases h with
    | char h => exact ⟨_, rfl, h⟩
  · rintro ⟨other, rfl, h⟩
    exact .char h

/-- A part collides with a rest, or with a part if what follows collides. -/
theorem collide_part_iff {pattern left : Pattern} :
    Collide pattern (.part :: left) ↔
      ∃ other, pattern = .rest :: other ∨ (pattern = .part :: other ∧ Collide other left) := by
  constructor
  · intro h
    cases h with
    | part h => exact ⟨_, Or.inr ⟨rfl, h⟩⟩
    | restPart => exact ⟨_, Or.inl rfl⟩
  · rintro ⟨other, rfl | ⟨rfl, h⟩⟩
    · exact .restPart
    · exact .part h

theorem collide_rest_iff {pattern left : Pattern} :
    Collide pattern (.rest :: left) ↔ ∃ other, pattern = .part :: other ∨ pattern = .rest :: other := by
  constructor
  · intro h
    cases h with
    | partRest => exact ⟨_, Or.inl rfl⟩
    | rest => exact ⟨_, Or.inr rfl⟩
  · rintro ⟨other, rfl | rfl⟩
    · exact .partRest
    · exact .rest

/-- What collides with a pattern starts with the characters that the pattern starts with. -/
theorem Collide.exists_of_chars {chars : List Char} {left pattern : Pattern}
    (h : Collide (chars.map Piece.char ++ left) pattern) :
    ∃ other, pattern = chars.map Piece.char ++ other ∧ Collide left other := by
  induction chars generalizing pattern with
  | nil => exact ⟨pattern, rfl, h⟩
  | cons c chars ih =>
    cases h with
    | char h =>
      obtain ⟨other, rfl, hother⟩ := ih h
      exact ⟨other, rfl, hother⟩

/-- Whether every place holder for the rest stands behind a slash. -/
def isTidy : Bool → Pattern → Bool
  | _, [] => true
  | _, .char c :: left => isTidy (c == '/') left
  | _, .part :: left => isTidy false left
  | afterSlash, .rest :: _ => afterSlash

/-- A text has a pattern, and its place holder for the rest stands behind a slash. -/
def WellFormed (text : String) : Prop := ∃ pattern, ofText? text = some pattern ∧ isTidy false pattern = true

/-- The patterns of two texts collide. -/
def TextsCollide (first second : String) : Prop :=
  ∃ pattern other, ofText? first = some pattern ∧ ofText? second = some other ∧ Collide pattern other

/-- A path that means a pattern collides with itself. -/
theorem WellFormed.collide_self {text : String} (h : WellFormed text) : TextsCollide text text := by
  obtain ⟨pattern, hpattern, -⟩ := h
  exact ⟨pattern, pattern, hpattern, hpattern, Collide.refl pattern⟩

/-! ## Texts without place holders -/

/-- No character starts a place holder. -/
def IsPlain (chars : List Char) : Prop := ∀ c ∈ chars, startsHolder c = false

instance (chars : List Char) : Decidable (IsPlain chars) := List.decidableBAll _ chars

/-- Plain letters in front of a path are read as themselves. -/
theorem read?_append {stem : List Char} (h : IsPlain stem) (suffix : List Char) :
    read? (stem ++ suffix) = (read? suffix).map (stem.map Piece.char ++ ·) := by
  induction stem with
  | nil => simp
  | cons c stem ih =>
    rw [List.cons_append, read?_cons (h c List.mem_cons_self),
      ih fun d hd => h d (List.mem_cons_of_mem c hd), Option.map_map]
    rfl

/-- A text consists of characters, and then perhaps of a place holder for the rest behind a slash. -/
def Spelled (text : String) (stem : List Char) : Prop :=
  text.toList = stem ∨ (text.toList = stem ++ "*below".toList ∧ stem.getLast? = some '/')

/-- A text with plain characters has them as its pattern, up to a place holder for the rest. -/
theorem Spelled.exists_pattern {text : String} {stem : List Char} (h : Spelled text stem)
    (hplain : IsPlain stem) :
    ∃ tail, ofText? text = some (stem.map Piece.char ++ tail) ∧
      ((tail = [] ∧ text.toList = stem) ∨
        (tail = [.rest] ∧ text.toList = stem ++ "*below".toList ∧ stem.getLast? = some '/')) := by
  have hrest : read? "*below".toList = some [.rest] := by decide +kernel
  have hchars : Piece.part ∉ stem.map Piece.char ∧ Piece.rest ∉ stem.map Piece.char := by simp
  rcases h with htext | ⟨htext, hslash⟩
  · refine ⟨[], ofText?_eq_some_iff.2 ⟨?_, ?_, ?_⟩, Or.inl ⟨rfl, htext⟩⟩
    · have hread := read?_append hplain []
      rw [List.append_nil] at hread
      rw [htext, hread]
      rfl
    · rw [List.append_nil]
      exact fun hmem => hchars.2 (List.mem_of_mem_dropLast hmem)
    · rw [List.append_nil, List.count_eq_zero.2 hchars.1]
      exact Nat.zero_le _
  · refine ⟨[.rest], ofText?_eq_some_iff.2 ⟨?_, ?_, ?_⟩, Or.inr ⟨rfl, htext, hslash⟩⟩
    · rw [htext, read?_append hplain, hrest]
      rfl
    · rw [List.dropLast_concat]
      exact hchars.2
    · rw [List.count_append, List.count_eq_zero.2 hchars.1]
      decide

theorem isTidy_chars (afterSlash : Bool) (stem : List Char) :
    isTidy afterSlash (stem.map Piece.char) = true := by
  induction stem generalizing afterSlash with
  | nil => rfl
  | cons c stem ih => exact ih _

theorem isTidy_rest (afterSlash : Bool) (front : List Char) :
    isTidy afterSlash ((front ++ ['/']).map Piece.char ++ [.rest]) = true := by
  induction front generalizing afterSlash with
  | nil => rfl
  | cons c front ih => exact ih _

/-- A path of plain letters, with or without a rest behind a slash, means a pattern. -/
theorem Spelled.wellFormed {text : String} {stem : List Char} (h : Spelled text stem)
    (hplain : IsPlain stem) : WellFormed text := by
  obtain ⟨tail, hpattern, ⟨rfl, -⟩ | ⟨rfl, -, hslash⟩⟩ := h.exists_pattern hplain
  · rw [List.append_nil] at hpattern
    exact ⟨_, hpattern, isTidy_chars false stem⟩
  · obtain ⟨front, rfl⟩ := List.getLast?_eq_some_iff.1 hslash
    exact ⟨_, hpattern, isTidy_rest false front⟩

/-- Patterns of characters, with or without a place holder for the rest, collide only if they are equal. -/
theorem Collide.eq_of_chars {stem stem' : List Char} {tail tail' : Pattern}
    (htail : tail = [] ∨ tail = [.rest]) (htail' : tail' = [] ∨ tail' = [.rest])
    (h : Collide (stem.map Piece.char ++ tail) (stem'.map Piece.char ++ tail')) :
    stem = stem' ∧ tail = tail' := by
  induction stem generalizing stem' with
  | nil =>
    cases stem' with
    | nil => rcases htail with rfl | rfl <;> rcases htail' with rfl | rfl <;> cases h <;> exact ⟨rfl, rfl⟩
    | cons d stem' => rcases htail with rfl | rfl <;> cases h
  | cons c stem ih =>
    cases stem' with
    | nil => rcases htail' with rfl | rfl <;> cases h
    | cons d stem' =>
      cases h with
      | char h =>
        obtain ⟨rfl, rfl⟩ := ih h
        exact ⟨rfl, rfl⟩

/-- Texts with plain characters collide only if they are equal. -/
theorem Spelled.eq_of_collide {first second : String} {stem stem' : List Char} (h : Spelled first stem)
    (h' : Spelled second stem') (hplain : IsPlain stem) (hplain' : IsPlain stem')
    (hcollide : TextsCollide first second) : first = second := by
  obtain ⟨pattern, other, hpattern, hother, hcollide⟩ := hcollide
  obtain ⟨tail, hfirst, htail⟩ := h.exists_pattern hplain
  obtain ⟨tail', hsecond, htail'⟩ := h'.exists_pattern hplain'
  obtain rfl := Option.some.inj (hfirst.symm.trans hpattern)
  obtain rfl := Option.some.inj (hsecond.symm.trans hother)
  obtain ⟨rfl, rfl⟩ :=
    hcollide.eq_of_chars (htail.imp And.left And.left) (htail'.imp And.left And.left)
  rw [← String.toList_inj]
  rcases htail with ⟨rfl, htext⟩ | ⟨rfl, htext, -⟩ <;> rcases htail' with ⟨hnil, htext'⟩ | ⟨hrest, htext', -⟩
  · rw [htext, htext']
  · cases hrest
  · cases hnil
  · rw [htext, htext']

/-- The characters of a text end where a place holder for the rest starts. -/
theorem Spelled.eq_takeWhile {text : String} {stem : List Char} (h : Spelled text stem)
    (hstar : '*' ∉ stem) : text.toList.takeWhile (· ≠ '*') = stem := by
  have hpos : ∀ c ∈ stem, decide (c ≠ '*') = true := by
    intro c hc
    simpa using ne_of_mem_of_not_mem hc hstar
  rcases h with htext | ⟨htext, -⟩
  · rw [htext]
    exact List.takeWhile_eq_self_iff.2 hpos
  · have hbelow : "*below".toList.takeWhile (· ≠ '*') = [] := by decide +kernel
    rw [htext, List.takeWhile_append_of_pos hpos, hbelow, List.append_nil]

end Pattern

namespace Routes

open Pattern

variable {α : Type}

/-! ## Adding a route -/

/-- A table has a target here if a pattern ends here. -/
theorem target?_isSome_iff {routes : Routes α} :
    routes.target?.isSome = true ↔ ∃ target, ([], target) ∈ routes := by
  rw [target?, Option.isSome_map, List.find?_isSome]
  constructor
  · rintro ⟨⟨pattern, target⟩, hmem, hempty⟩
    obtain rfl : pattern = [] := List.isEmpty_iff.1 hempty
    exact ⟨target, hmem⟩
  · rintro ⟨target, hmem⟩
    exact ⟨([], target), hmem, rfl⟩

/-- In no pattern anything follows a place holder for the rest. -/
def RestsLast (routes : Routes α) : Prop := ∀ route ∈ routes, .rest ∉ route.1.dropLast

/-- Going on by one piece keeps rests in the last place. -/
theorem RestsLast.after {routes : Routes α} (h : routes.RestsLast) (piece : Piece) :
    (routes.after piece).RestsLast := by
  rintro ⟨left, target⟩ hmem hrest
  have hroute := h _ (mem_after.1 hmem)
  cases left with
  | nil => cases hrest
  | cons first left => exact hroute (List.mem_cons_of_mem piece hrest)

/-- A place holder stands at a point if one of the routes goes on with it. -/
theorem holder?_isSome_iff {routes : Routes α} (h : routes.RestsLast) :
    routes.holder?.isSome = true ↔
      ∃ left target, (.part :: left, target) ∈ routes ∨ (.rest :: left, target) ∈ routes := by
  -- behind a place holder for the rest there is nothing
  have hends : ∀ left target, (left, target) ∈ routes.after .rest → left = [] := by
    intro left target hmem
    have hroute := h _ (mem_after.1 hmem)
    cases left with
    | nil => rfl
    | cons first left => exact absurd List.mem_cons_self hroute
  unfold holder?
  split
  · rename_i target htarget
    have hsome : (routes.after .rest).target?.isSome = true := by rw [htarget]; rfl
    obtain ⟨target, hmem⟩ := target?_isSome_iff.1 hsome
    simp only [Option.isSome_some, true_iff]
    exact ⟨[], target, Or.inr (mem_after.1 hmem)⟩
  · rename_i hrest hpart
    simp only [Option.isSome_none, Bool.false_eq_true, false_iff]
    rintro ⟨left, target, hmem | hmem⟩
    · rw [← mem_after, hpart] at hmem
      cases hmem
    · have hleft := hends left target (mem_after.2 hmem)
      rw [hleft, ← mem_after] at hmem
      have hsome := target?_isSome_iff.2 ⟨target, hmem⟩
      rw [hrest] at hsome
      cases hsome
  · rename_i hpart
    simp only [Option.isSome_some, true_iff]
    obtain ⟨⟨left, target⟩, hmem⟩ := List.exists_mem_of_ne_nil _ hpart
    exact ⟨left, target, Or.inl (mem_after.1 hmem)⟩

/-- A pattern that begins with a character collides with routes that begin with it. -/
theorem exists_collide_char_iff {routes : Routes α} {c : Char} {left : Pattern} :
    (∃ other target, (other, target) ∈ routes ∧ Collide other (.char c :: left)) ↔
      ∃ other target, (other, target) ∈ routes.after (.char c) ∧ Collide other left := by
  simp only [mem_after, collide_char_iff]
  constructor
  · rintro ⟨_, target, hmem, other, rfl, hcollide⟩
    exact ⟨other, target, hmem, hcollide⟩
  · rintro ⟨other, target, hmem, hcollide⟩
    exact ⟨_, target, hmem, other, rfl, hcollide⟩

/-- Where no place holder for the rest stands, one for a part collides with routes that begin with one. -/
theorem exists_collide_part_iff {routes : Routes α} {left : Pattern}
    (hrest : routes.after .rest = []) :
    (∃ other target, (other, target) ∈ routes ∧ Collide other (.part :: left)) ↔
      ∃ other target, (other, target) ∈ routes.after .part ∧ Collide other left := by
  have hnone : ∀ other target, (.rest :: other, target) ∉ routes := by
    intro other target hmem
    rw [← mem_after, hrest] at hmem
    cases hmem
  simp only [mem_after, collide_part_iff]
  constructor
  · rintro ⟨_, target, hmem, other, rfl | ⟨rfl, hcollide⟩⟩
    · exact absurd hmem (hnone other target)
    · exact ⟨other, target, hmem, hcollide⟩
  · rintro ⟨other, target, hmem, hcollide⟩
    exact ⟨_, target, hmem, other, Or.inr ⟨rfl, hcollide⟩⟩

/-- A place holder for the rest collides with every route that goes on with a place holder. -/
theorem exists_collide_rest_iff {routes : Routes α} {left : Pattern} (h : routes.RestsLast) :
    (∃ other target, (other, target) ∈ routes ∧ Collide other (.rest :: left)) ↔
      routes.holder?.isSome = true := by
  rw [holder?_isSome_iff h]
  simp only [collide_rest_iff]
  constructor
  · rintro ⟨_, target, hmem, other, rfl | rfl⟩
    · exact ⟨other, target, Or.inl hmem⟩
    · exact ⟨other, target, Or.inr hmem⟩
  · rintro ⟨other, target, hmem | hmem⟩
    · exact ⟨_, target, hmem, other, Or.inl rfl⟩
    · exact ⟨_, target, hmem, other, Or.inr rfl⟩

/-- A route is refused as taken exactly if it collides with one that is there. -/
theorem clash?_eq_taken_iff {routes : Routes α} (h : routes.RestsLast) {pattern : Pattern}
    {afterSlash : Bool} :
    routes.clash? afterSlash pattern = some .taken ↔
      ∃ other target, (other, target) ∈ routes ∧ Collide other pattern := by
  induction pattern generalizing routes afterSlash with
  | nil =>
    rw [clash?, Option.ite_none_right_eq_some, target?_isSome_iff]
    simp [collide_nil_iff]
  | cons piece left ih =>
    cases piece with
    | char c => rw [clash?, ih (h.after _), exists_collide_char_iff]
    | part =>
      rw [clash?]
      -- where a place holder for the rest stands, there is no room for another one
      split
      · rename_i hrest
        rw [ih (h.after _), exists_collide_part_iff (List.isEmpty_iff.1 hrest)]
      · rename_i hrest
        obtain ⟨⟨other, target⟩, hmem⟩ := List.exists_mem_of_ne_nil _ (by simpa using hrest)
        simp only [collide_part_iff, true_iff]
        exact ⟨_, target, mem_after.1 hmem, other, Or.inl rfl⟩
    | rest =>
      rw [exists_collide_rest_iff h, clash?]
      split
      · rename_i hholder
        simp [hholder]
      · rename_i hholder
        simp only [hholder]
        split <;> simp

/-- A pattern whose place holders for the rest stand behind slashes is not refused for its form. -/
theorem clash?_ne_malformed {routes : Routes α} {pattern : Pattern} {afterSlash : Bool}
    (h : isTidy afterSlash pattern = true) : routes.clash? afterSlash pattern ≠ some .malformed := by
  induction pattern generalizing routes afterSlash with
  | nil =>
    rw [clash?]
    split <;> simp
  | cons piece left ih =>
    cases piece with
    | char c =>
      rw [clash?]
      exact ih h
    | part =>
      rw [clash?]
      split
      · exact ih h
      · simp
    | rest =>
      have hslash : afterSlash = true := h
      rw [clash?, hslash]
      split <;> simp

/-- A path is added if it means a pattern that does not clash. -/
theorem add_eq_ok_iff {routes table : Routes α} {text : String} {target : α} :
    routes.add text target = .ok table ↔
      ∃ pattern, ofText? text = some pattern ∧ routes.clash? false pattern = none ∧
        table = routes ++ [(pattern, target)] := by
  unfold add
  cases ofText? text with
  | none => simp
  | some pattern =>
    cases hclash : routes.clash? false pattern with
    | none => simp [hclash, eq_comm]
    | some error => simp [hclash]

/-- A path is refused if it means no pattern, or for the clash of its pattern. -/
theorem add_eq_error_iff {routes : Routes α} {text : String} {target : α} {error : PatternError} :
    routes.add text target = .error error ↔
      (ofText? text = none ∧ error = .malformed) ∨
        ∃ pattern, ofText? text = some pattern ∧ routes.clash? false pattern = some error := by
  unfold add
  cases ofText? text with
  | none => simp [eq_comm]
  | some pattern =>
    cases hclash : routes.clash? false pattern with
    | none => simp [hclash]
    | some other => simp [hclash]

/-! ## Building a table -/

/-- The table of some routes, by the texts of their patterns. -/
def build (entries : List (String × α)) : Except PatternError (Routes α) :=
  entries.foldlM (fun routes (text, target) => routes.add text target) []

/-- A table is built route by route. -/
theorem build_concat (entries : List (String × α)) (entry : String × α) :
    build (entries ++ [entry]) = build entries >>= fun routes => routes.add entry.1 entry.2 := by
  simp [build, List.foldlM_append]

/-- A table holds the patterns of its routes. -/
def Holds (table : Routes α) (entries : List (String × α)) : Prop :=
  ∀ pattern, (∃ target, (pattern, target) ∈ table) ↔ ∃ entry ∈ entries, ofText? entry.1 = some pattern

theorem Holds.restsLast {table : Routes α} {entries : List (String × α)} (h : table.Holds entries) :
    table.RestsLast := by
  rintro ⟨pattern, target⟩ hmem
  obtain ⟨entry, -, hentry⟩ := (h pattern).1 ⟨target, hmem⟩
  exact (ofText?_eq_some_iff.1 hentry).2.1

/-- A route collides with one in a table exactly if its text collides with one of those that the table was
made from. -/
theorem Holds.clash?_eq_taken_iff {table : Routes α} {entries : List (String × α)}
    (h : table.Holds entries) {text : String} {pattern : Pattern} (htext : ofText? text = some pattern) :
    table.clash? false pattern = some .taken ↔ ∃ entry ∈ entries, TextsCollide entry.1 text := by
  rw [Routes.clash?_eq_taken_iff h.restsLast]
  constructor
  · rintro ⟨other, target, hmem, hcollide⟩
    obtain ⟨entry, hentry, hother⟩ := (h other).1 ⟨target, hmem⟩
    exact ⟨entry, hentry, other, pattern, hother, htext, hcollide⟩
  · rintro ⟨entry, hentry, other, pattern', hother, htext', hcollide⟩
    obtain rfl : pattern = pattern' := Option.some.inj (htext.symm.trans htext')
    obtain ⟨target, hmem⟩ := (h other).2 ⟨entry, hentry, hother⟩
    exact ⟨other, target, hmem, hcollide⟩

/-- A table that can be built holds its routes, and no two of them collide. -/
theorem build_eq_ok {entries : List (String × α)} {table : Routes α} (h : build entries = .ok table) :
    table.Holds entries ∧ entries.Pairwise fun first second => ¬ TextsCollide first.1 second.1 := by
  induction entries using List.reverseRecOn generalizing table with
  | nil =>
    obtain rfl : [] = table := Except.ok.inj h
    exact ⟨fun pattern => by simp, List.Pairwise.nil⟩
  | append_singleton entries entry ih =>
    rw [build_concat] at h
    cases hbuild : build entries with
    | error e =>
      rw [hbuild] at h
      cases h
    | ok routes =>
      rw [hbuild] at h
      obtain ⟨hholds, hpairwise⟩ := ih hbuild
      -- the last route was added to the table of those before it
      obtain ⟨pattern, hpattern, hclash, rfl⟩ := add_eq_ok_iff.1 h
      constructor
      · intro other
        constructor
        · rintro ⟨target, hmem⟩
          rcases List.mem_append.1 hmem with hmem | hmem
          · obtain ⟨old, hold, hother⟩ := (hholds other).1 ⟨target, hmem⟩
            exact ⟨old, List.mem_append_left _ hold, hother⟩
          · cases List.mem_singleton.1 hmem
            exact ⟨entry, by simp, hpattern⟩
        · rintro ⟨old, hold, hother⟩
          rcases List.mem_append.1 hold with hold | hold
          · obtain ⟨target, hmem⟩ := (hholds other).2 ⟨old, hold, hother⟩
            exact ⟨target, List.mem_append_left _ hmem⟩
          · rw [List.mem_singleton.1 hold, hpattern, Option.some.injEq] at hother
            exact ⟨entry.2, by simp [hother]⟩
      · rw [List.pairwise_append]
        refine ⟨hpairwise, List.pairwise_singleton _ _, ?_⟩
        intro first hfirst second hsecond hcollide
        rw [List.mem_singleton.1 hsecond] at hcollide
        rw [(hholds.clash?_eq_taken_iff hpattern).2 ⟨first, hfirst, hcollide⟩] at hclash
        cases hclash

/-- If a path is taken while a table is built, two of the routes collide. -/
theorem not_pairwise_of_build_taken {entries : List (String × α)} (h : build entries = .error .taken) :
    ¬ entries.Pairwise fun first second => ¬ TextsCollide first.1 second.1 := by
  induction entries using List.reverseRecOn with
  | nil => cases h
  | append_singleton entries entry ih =>
    rw [build_concat] at h
    rw [List.pairwise_append]
    rintro ⟨hentries, -, hapart⟩
    cases hbuild : build entries with
    | error e =>
      rw [hbuild] at h
      obtain rfl : e = .taken := Except.error.inj h
      exact ih hbuild hentries
    | ok routes =>
      rw [hbuild] at h
      obtain ⟨-, hmalformed⟩ | ⟨pattern, hpattern, hclash⟩ := add_eq_error_iff.1 h
      · cases hmalformed
      obtain ⟨other, hother, hcollide⟩ :=
        ((build_eq_ok hbuild).1.clash?_eq_taken_iff hpattern).1 hclash
      exact hapart other hother entry (by simp) hcollide

/-- Texts of good form are not refused for their form. -/
theorem build_ne_malformed {entries : List (String × α)} (h : ∀ entry ∈ entries, WellFormed entry.1) :
    build entries ≠ .error .malformed := by
  induction entries using List.reverseRecOn with
  | nil => exact fun h => nomatch h
  | append_singleton entries entry ih =>
    have hentries := ih fun other hother => h other (by simp [hother])
    obtain ⟨pattern, hpattern, htidy⟩ := h entry (by simp)
    rw [build_concat]
    intro herror
    cases hbuild : build entries with
    | error e =>
      rw [hbuild] at herror hentries
      exact hentries herror
    | ok routes =>
      rw [hbuild] at herror
      obtain ⟨hnone, -⟩ | ⟨other, hother, hclash⟩ := add_eq_error_iff.1 herror
      · rw [hpattern] at hnone
        cases hnone
      · obtain rfl : pattern = other := Option.some.inj (hpattern.symm.trans hother)
        exact clash?_ne_malformed htidy hclash

end Routes

end Http

namespace Viewer

open Http Pattern

/-! ## The routes of the viewer and of the data root -/

/-- The routes of the viewer's own pages and documents and of its assets. -/
def viewerRoutes (settings : Settings) : List (String × Endpoint) :=
  ownRoutes ++ (assetMount settings).routes

/-- The routes of a local data root: its served folders, and the suite document in the root itself. -/
def dataRoutes (settings : Settings) : List (String × Endpoint) :=
  (dataMounts settings).flatMap Mount.routes ++ (bareRoute? settings).toList

theorem allRoutes_eq (settings : Settings) :
    allRoutes settings = viewerRoutes settings ++ dataRoutes settings := by
  simp only [allRoutes, viewerRoutes, dataRoutes, mounts, List.flatMap_cons, List.append_assoc]

/-- The texts of the viewer's routes. -/
def viewerTexts : List String :=
  ["/", "/all", "/api/suite", "/api/benchmarks/:key", "/static/*below", "/static", "/static/"]

/-- The paths of the viewer itself do not depend on the settings. -/
theorem map_fst_viewerRoutes (settings : Settings) :
    (viewerRoutes settings).map Prod.fst = viewerTexts := by
  have hlast : "/static".toList.getLast? ≠ some '/' := by decide +kernel
  have hpaths : (assetMount settings).paths = ["/static/*below", "/static", "/static/"] := by
    rw [Mount.paths, assetMount, if_neg hlast]
    dsimp only
    decide +kernel
  rw [viewerRoutes, Mount.routes, hpaths]
  rfl

/-- The viewer's routes do not collide with each other. -/
theorem viewerTexts_apart : viewerTexts.Pairwise fun first second => ¬ TextsCollide first second := by
  have hok : (Routes.build (viewerTexts.map fun text => (text, ()))).isOk = true := by decide +kernel
  cases htable : Routes.build (viewerTexts.map fun text => (text, ())) with
  | error e =>
    rw [htable] at hok
    cases hok
  | ok table =>
    have hapart := (Routes.build_eq_ok htable).2
    rwa [List.pairwise_map] at hapart

theorem wellFormed_viewerTexts : ∀ text ∈ viewerTexts, WellFormed text := by
  have htidy : ∀ text ∈ viewerTexts, (ofText? text).any (isTidy false) = true := by decide +kernel
  intro text htext
  exact (Option.any_eq_true _ _).1 (htidy text htext)

/-- What collides with a route of the viewer has its path, or lies below the documents for programs or the
assets. -/
theorem of_collide_viewerTexts {own text : String} (hown : own ∈ viewerTexts)
    (h : TextsCollide own text) :
    own = text ∨ '/' :: ("api".toList ++ ['/']) <+: text.toList ∨
      '/' :: ("static".toList ++ ['/']) <+: text.toList := by
  -- a route of the viewer is spelled by its characters alone, or starts with those of a folder
  have hstem : ∃ stem tail, ofText? own = some (stem.map Piece.char ++ tail) ∧
      ((tail = [] ∧ own.toList = stem) ∨ '/' :: ("api".toList ++ ['/']) <+: stem ∨
        '/' :: ("static".toList ++ ['/']) <+: stem) := by
    simp only [viewerTexts, List.mem_cons, List.not_mem_nil, or_false] at hown
    rcases hown with rfl | rfl | rfl | rfl | rfl | rfl | rfl
    · exact ⟨"/".toList, [], by decide +kernel, Or.inl ⟨rfl, rfl⟩⟩
    · exact ⟨"/all".toList, [], by decide +kernel, Or.inl ⟨rfl, rfl⟩⟩
    · exact ⟨"/api/suite".toList, [], by decide +kernel, Or.inl ⟨rfl, rfl⟩⟩
    · exact ⟨benchmarkPath, [.part], by decide +kernel, Or.inr (Or.inl (by decide +kernel))⟩
    · exact ⟨"/static/".toList, [.rest], by decide +kernel, Or.inr (Or.inr (by decide +kernel))⟩
    · exact ⟨"/static".toList, [], by decide +kernel, Or.inl ⟨rfl, rfl⟩⟩
    · exact ⟨"/static/".toList, [], by decide +kernel, Or.inl ⟨rfl, rfl⟩⟩
  obtain ⟨stem, tail, hpattern, hstem⟩ := hstem
  obtain ⟨pattern, other, hpattern', hother, hcollide⟩ := h
  obtain rfl := Option.some.inj (hpattern.symm.trans hpattern')
  obtain ⟨left, rfl, hleft⟩ := hcollide.exists_of_chars
  obtain ⟨suffix, htext, hsuffix⟩ := exists_of_read? (ofText?_eq_some_iff.1 hother).1
  rcases hstem with ⟨rfl, hown⟩ | hapi | hstatic
  · cases hleft
    rw [eq_nil_of_read? hsuffix, List.append_nil, ← hown] at htext
    exact Or.inl (String.toList_inj.1 htext.symm)
  · rw [htext]
    exact Or.inr (Or.inl (hapi.trans (List.prefix_append _ _)))
  · rw [htext]
    exact Or.inr (Or.inr (hstatic.trans (List.prefix_append _ _)))

/-- No folder of the data root takes a path of the viewer. -/
theorem not_collide_dataMounts {settings : Settings} {own text : String} {mount : Mount}
    (hown : own ∈ viewerTexts) (hmount : mount ∈ dataMounts settings) (htext : text ∈ mount.paths) :
    ¬ TextsCollide own text := by
  intro h
  obtain ⟨hnamed, hfree⟩ := firstPart_of_mem_dataMounts hmount htext
  rcases of_collide_viewerTexts hown h with rfl | hapi | hstatic
  · have htable : ∀ own ∈ viewerTexts, firstPart own.toList = [] ∨
        ∃ name ∈ ["static", "api", "all"], firstPart own.toList = name.toList := by decide +kernel
    rcases htable own hown with hfirst | ⟨name, hname, hfirst⟩
    · exact hnamed hfirst
    · exact hfree name hname hfirst
  · exact hfree "api" (by simp) (firstPart_of_below (by decide +kernel) hapi)
  · exact hfree "static" (by simp) (firstPart_of_below (by decide +kernel) hstatic)

/-- A suite document in the data root itself takes a path of the viewer only if it has one of two names. -/
theorem eq_of_collide_viewerTexts {own name : String} (hown : own ∈ viewerTexts) (hname : name ≠ "")
    (hslash : '/' ∉ name.toList) (h : TextsCollide own ("/" ++ name)) :
    own = "/" ++ name ∧ (name = "all" ∨ name = "static") := by
  rcases of_collide_viewerTexts hown h with rfl | hapi | hstatic
  · refine ⟨rfl, ?_⟩
    have htable : ∀ own ∈ viewerTexts, '/' ∈ own.toList.drop 1 ∨ own.toList.drop 1 = [] ∨
        own.toList.drop 1 = "all".toList ∨ own.toList.drop 1 = "static".toList := by decide +kernel
    have hcases := htable _ hown
    rw [toList_path, List.drop_one, List.tail_cons, String.toList_inj, String.toList_inj] at hcases
    rcases hcases with hmem | hnil | hname'
    · exact absurd hmem hslash
    · exact absurd (String.toList_inj.1 hnil) hname
    · exact hname'
  · exact absurd hapi (not_prefix_of_bare hslash)
  · exact absurd hstatic (not_prefix_of_bare hslash)

/-- A route of the data root collides with one of the viewer only if it is that of a suite document in the
root itself, and of one of two names. -/
theorem collide_dataRoutes_iff {settings : Settings} {own : String} {other : String × Endpoint}
    (hown : own ∈ viewerTexts) (hother : other ∈ dataRoutes settings) :
    TextsCollide own other.1 ↔
      bareRoute? settings = some other ∧ own = other.1 ∧ (own = "/all" ∨ own = "/static") := by
  constructor
  · intro h
    rw [dataRoutes, List.mem_append, List.mem_flatMap] at hother
    rcases hother with ⟨mount, hmount, hroute⟩ | hbare
    · obtain ⟨text, htext, rfl⟩ := List.mem_map.1 hroute
      exact absurd h (not_collide_dataMounts hown hmount htext)
    · have hbare := Option.mem_toList.1 hbare
      obtain ⟨-, name, -, hpath, hname, hslash⟩ := bareRoute?_eq_some hbare
      rw [hpath] at h ⊢
      obtain ⟨rfl, hname⟩ := eq_of_collide_viewerTexts hown hname hslash h
      refine ⟨hbare, rfl, ?_⟩
      rcases hname with rfl | rfl
      · exact Or.inl (by decide +kernel)
      · exact Or.inr (by decide +kernel)
  · rintro ⟨-, rfl, -⟩
    exact (wellFormed_viewerTexts _ hown).collide_self

/-! ## The paths of the data root -/

/-- The paths of the data are those of the served folders, and that of a suite in no folder. -/
theorem map_fst_dataRoutes (settings : Settings) :
    (dataRoutes settings).map Prod.fst =
      (dataMounts settings).flatMap Mount.paths ++ (bareRoute? settings).toList.map Prod.fst := by
  have hroutes : ∀ mount : Mount, mount.routes.map Prod.fst = mount.paths := by
    intro mount
    rw [Mount.routes, List.map_map]
    exact List.map_id _
  rw [dataRoutes, List.map_append, List.map_flatMap]
  simp only [hroutes]

theorem Mount.path_mem_paths (mount : Mount) : mount.path ∈ mount.paths := by
  unfold Mount.paths
  split <;> simp

/-- The paths of a mount are spelled by its own, with or without a slash. -/
theorem Mount.spelled_of_mem_paths {mount : Mount} {text : String} (h : text ∈ mount.paths) :
    ∃ stem, Spelled text stem ∧ (stem = mount.path.toList ∨ stem = mount.path.toList ++ ['/']) := by
  unfold Mount.paths at h
  split at h
  · rename_i hlast
    rw [List.mem_pair] at h
    rcases h with rfl | rfl
    · exact ⟨_, Or.inr ⟨String.toList_append, hlast⟩, Or.inl rfl⟩
    · exact ⟨_, Or.inl rfl, Or.inl rfl⟩
  · simp only [List.mem_cons, List.not_mem_nil, or_false] at h
    rcases h with rfl | rfl | rfl
    · refine ⟨_, Or.inr ⟨?_, by simp⟩, Or.inr rfl⟩
      rw [String.toList_append, List.append_assoc]
      rfl
    · exact ⟨_, Or.inl rfl, Or.inl rfl⟩
    · exact ⟨_, Or.inl String.toList_append, Or.inr rfl⟩

theorem Mount.nodup_paths (mount : Mount) : mount.paths.Nodup := by
  have hslash : mount.path ≠ mount.path ++ "/" := by
    intro heq
    have hlength := congrArg String.length heq
    simp at hlength
  unfold Mount.paths
  split
  · simp
  · simp [hslash]

/-- What is mounted is a served folder, at the path with its name. -/
theorem exists_folder {settings : Settings} {mount : Mount} (h : mount ∈ dataMounts settings) :
    ∃ folder ∈ settings.servedFolders, folder.toList ≠ [] ∧ mount.path.toList = '/' :: folder.toList := by
  unfold dataMounts at h
  split at h
  · cases h
  · obtain ⟨folder, hfolder, rfl⟩ := List.mem_map.1 h
    obtain ⟨-, -, hadmissible⟩ := Settings.of_mem_servedFolders hfolder
    exact ⟨folder, hfolder, hadmissible.toList_ne_nil, toList_path folder⟩

/-- No served folder has a place holder for the rest of a path in its name. -/
def StarFree (settings : Settings) : Prop := ∀ mount ∈ mounts settings, '*' ∉ mount.path.toList

instance (settings : Settings) : Decidable (StarFree settings) := List.decidableBAll _ (mounts settings)

/-- The paths of folders that are apart differ. -/
theorem paths_disjoint_of_apart {mount other : Mount} {folder folder' : String}
    (hmount : mount.path.toList = '/' :: folder.toList) (hother : other.path.toList = '/' :: folder'.toList)
    (hstar : '*' ∉ mount.path.toList) (hstar' : '*' ∉ other.path.toList)
    (hapart : Settings.Apart folder folder') : mount.paths.Disjoint other.paths := by
  intro text htext htext'
  obtain ⟨stem, hspelled, hstem⟩ := Mount.spelled_of_mem_paths htext
  obtain ⟨stem', hspelled', hstem'⟩ := Mount.spelled_of_mem_paths htext'
  have hfree : '*' ∉ stem := by rcases hstem with rfl | rfl <;> simpa using hstar
  have hfree' : '*' ∉ stem' := by rcases hstem' with rfl | rfl <;> simpa using hstar'
  have heq : stem = stem' := (hspelled.eq_takeWhile hfree).symm.trans (hspelled'.eq_takeWhile hfree')
  obtain ⟨hne, hnot, hnot'⟩ := hapart
  rw [hmount] at hstem
  rw [hother] at hstem'
  rw [Settings.toList_folder_slash] at hnot hnot'
  -- equal paths would put one folder inside of the other
  rcases hstem with rfl | rfl <;> rcases hstem' with rfl | rfl
  · exact hne (String.toList_inj.1 (List.cons.inj heq).2)
  · exact hnot' ((List.cons.inj heq).2 ▸ List.prefix_rfl)
  · exact hnot ((List.cons.inj heq).2 ▸ List.prefix_rfl)
  · exact hne (String.toList_inj.1 (List.append_cancel_right (List.cons.inj heq).2))

/-- The path of a suite document in the data root is one of a folder only if both have one name. -/
theorem eq_of_bare_mem_paths {mount : Mount} {folder name : String}
    (hmount : mount.path.toList = '/' :: folder.toList) (hfolder : folder.toList ≠ [])
    (hslash : '/' ∉ name.toList) (h : "/" ++ name ∈ mount.paths) : name = folder := by
  obtain ⟨stem, hspelled, hstem⟩ := Mount.spelled_of_mem_paths h
  obtain ⟨rest, rfl, hrest⟩ : ∃ rest, stem = '/' :: rest ∧
      (rest = folder.toList ∨ rest = folder.toList ++ ['/']) := by
    rw [hmount] at hstem
    rcases hstem with rfl | rfl
    · exact ⟨_, rfl, Or.inl rfl⟩
    · exact ⟨_, rfl, Or.inr rfl⟩
  rcases hspelled with htext | ⟨htext, hlast⟩
  · obtain ⟨-, hname⟩ := List.cons.inj ((toList_path name).symm.trans htext)
    rcases hrest with rfl | rfl
    · exact String.toList_inj.1 hname
    · exact absurd (hname ▸ by simp) hslash
  · -- the slash in front of the place holder would be in the name
    obtain ⟨-, hname⟩ := List.cons.inj ((toList_path name).symm.trans htext)
    have hne : rest ≠ [] := by rcases hrest with rfl | rfl <;> simp [hfolder]
    rw [← List.singleton_append, List.getLast?_append_of_ne_nil _ hne] at hlast
    exact absurd (hname ▸ List.mem_append_left _ (List.mem_of_getLast? hlast)) hslash

/-- The suite document lies in a local data root itself and has the name of a page of the viewer, of the
assets or of a served folder. -/
def SuiteTakesPath (settings : Settings) : Prop :=
  Settings.isRemote settings.dataRoot = false ∧
    ∃ name ∈ settings.bareSuite?, name = "all" ∨ name = "static" ∨ name ∈ settings.servedFolders

instance (settings : Settings) : Decidable (SuiteTakesPath settings) :=
  inferInstanceAs (Decidable (_ ∧ _))

/-- The path of such a suite document is in the table already. -/
theorem not_nodup_of_suiteTakesPath {settings : Settings} (h : SuiteTakesPath settings) :
    ¬ ((allRoutes settings).map Prod.fst).Nodup := by
  obtain ⟨hlocal, name, hname, htaken⟩ := h
  have hbare : bareRoute? settings = some ("/" ++ name, .file (Path.join settings.dataRoot name)) := by
    rw [bareRoute?, hlocal, hname]
    rfl
  have hmounts : dataMounts settings = settings.servedFolders.map fun folder =>
      ⟨"/" ++ folder, Path.join settings.dataRoot folder⟩ := by
    rw [dataMounts, hlocal]
    rfl
  have hfront : "/" ++ name ∈ viewerTexts ++ (dataMounts settings).flatMap Mount.paths := by
    rcases htaken with rfl | rfl | hfolder
    · exact List.mem_append_left _ (by decide +kernel)
    · exact List.mem_append_left _ (by decide +kernel)
    · refine List.mem_append_right _ (List.mem_flatMap.2 ?_)
      rw [hmounts]
      exact ⟨_, List.mem_map_of_mem hfolder, Mount.path_mem_paths _⟩
  rw [allRoutes_eq, List.map_append, map_fst_viewerRoutes, map_fst_dataRoutes, ← List.append_assoc,
    hbare]
  intro hnodup
  exact List.disjoint_of_nodup_append hnodup hfront (by simp)

/-- A route of the data root has the path of one of the viewer only by the name of the suite document. -/
theorem suiteTakesPath_of_collide {settings : Settings} {own : String} {other : String × Endpoint}
    (hown : own ∈ viewerTexts) (hother : other ∈ dataRoutes settings) (h : TextsCollide own other.1) :
    SuiteTakesPath settings := by
  obtain ⟨hbare, rfl, hname⟩ := (collide_dataRoutes_iff hown hother).1 h
  obtain ⟨hlocal, name, hsuite, hpath, -, -⟩ := bareRoute?_eq_some hbare
  have hall : "/all" = "/" ++ "all" := by decide +kernel
  have hstatic : "/static" = "/" ++ "static" := by decide +kernel
  rw [hpath, hall, hstatic, String.append_right_inj, String.append_right_inj] at hname
  exact ⟨hlocal, name, hsuite, hname.imp_right Or.inl⟩

/-- The served folders are mounted at paths of which none lies below another. -/
theorem dataMounts_apart (settings : Settings) :
    (dataMounts settings).Pairwise fun mount other => ∃ folder folder',
      mount.path.toList = '/' :: folder.toList ∧ other.path.toList = '/' :: folder'.toList ∧
        Settings.Apart folder folder' := by
  unfold dataMounts
  split
  · exact List.Pairwise.nil
  · rw [List.pairwise_map]
    refine (Settings.chosen_servedFolders settings).apart.imp ?_
    intro folder folder' hapart
    exact ⟨folder, folder', toList_path folder, toList_path folder', hapart⟩

/-- The routes of the data root take no path twice, unless the suite document does. -/
theorem nodup_dataRoutes {settings : Settings} (hstar : StarFree settings)
    (hfree : ¬ SuiteTakesPath settings) : ((dataRoutes settings).map Prod.fst).Nodup := by
  have hstar' : ∀ mount ∈ dataMounts settings, '*' ∉ mount.path.toList :=
    fun mount hmount => hstar mount (List.mem_cons_of_mem _ hmount)
  rw [map_fst_dataRoutes, List.nodup_append', List.nodup_flatMap]
  refine ⟨⟨fun mount _ => mount.nodup_paths, ?_⟩, ?_, ?_⟩
  · refine (dataMounts_apart settings).imp_of_mem ?_
    rintro mount other hmount hother ⟨folder, folder', hpath, hpath', hapart⟩
    exact paths_disjoint_of_apart hpath hpath' (hstar' mount hmount) (hstar' other hother) hapart
  · cases bareRoute? settings with
    | none => exact List.nodup_nil
    | some route => exact List.nodup_singleton _
  · -- the suite document has the path of a folder only if it has its name
    intro text htext hbare
    obtain ⟨mount, hmount, htext⟩ := List.mem_flatMap.1 htext
    obtain ⟨route, hroute, rfl⟩ := List.mem_map.1 hbare
    obtain ⟨hlocal, name, hname, hpath, -, hslash⟩ := bareRoute?_eq_some (Option.mem_toList.1 hroute)
    obtain ⟨folder, hfolder, hne, hmountPath⟩ := exists_folder hmount
    rw [hpath] at htext
    obtain rfl := eq_of_bare_mem_paths hmountPath hne hslash htext
    exact hfree ⟨hlocal, name, hname, Or.inr (Or.inr hfolder)⟩

/-- A path is taken twice exactly by a suite document. -/
theorem nodup_allRoutes_iff {settings : Settings} (hstar : StarFree settings) :
    ((allRoutes settings).map Prod.fst).Nodup ↔ ¬ SuiteTakesPath settings := by
  constructor
  · exact fun hnodup htakes => not_nodup_of_suiteTakesPath htakes hnodup
  · intro hfree
    have hviewer : viewerTexts.Nodup := by decide +kernel
    rw [allRoutes_eq, List.map_append, map_fst_viewerRoutes, List.nodup_append']
    refine ⟨hviewer, nodup_dataRoutes hstar hfree, ?_⟩
    intro text hown hdata
    obtain ⟨other, hother, rfl⟩ := List.mem_map.1 hdata
    exact hfree (suiteTakesPath_of_collide hown hother (wellFormed_viewerTexts _ hown).collide_self)

/-! ## Names without place holders -/

/-- No path of a served folder or of a suite document in the data root has a place holder. -/
def PlainPaths (settings : Settings) : Prop :=
  (∀ mount ∈ dataMounts settings, IsPlain mount.path.toList) ∧
    ∀ route ∈ bareRoute? settings, IsPlain route.1.toList

instance (settings : Settings) : Decidable (PlainPaths settings) :=
  inferInstanceAs (Decidable (_ ∧ _))

theorem PlainPaths.starFree {settings : Settings} (h : PlainPaths settings) : StarFree settings := by
  have hassets : '*' ∉ (assetMount settings).path.toList := by
    show '*' ∉ "/static".toList
    decide +kernel
  refine List.forall_mem_cons.2 ⟨hassets, ?_⟩
  intro mount hmount hstar
  exact absurd (h.1 mount hmount '*' hstar) (by decide)

/-- The routes of the data root are spelled by plain characters then. -/
theorem PlainPaths.spelled {settings : Settings} (h : PlainPaths settings) {route : String × Endpoint}
    (hroute : route ∈ dataRoutes settings) : ∃ stem, Spelled route.1 stem ∧ IsPlain stem := by
  rw [dataRoutes, List.mem_append, List.mem_flatMap] at hroute
  rcases hroute with ⟨mount, hmount, hroute⟩ | hbare
  · obtain ⟨text, htext, rfl⟩ := List.mem_map.1 hroute
    obtain ⟨stem, hspelled, hstem⟩ := Mount.spelled_of_mem_paths htext
    refine ⟨stem, hspelled, ?_⟩
    rcases hstem with rfl | rfl
    · exact h.1 mount hmount
    · exact List.forall_mem_append.2 ⟨h.1 mount hmount, List.forall_mem_singleton.2 rfl⟩
  · exact ⟨_, Or.inl rfl, h.2 route (Option.mem_toList.1 hbare)⟩

theorem PlainPaths.wellFormed {settings : Settings} (h : PlainPaths settings) :
    ∀ route ∈ allRoutes settings, WellFormed route.1 := by
  intro route hroute
  rw [allRoutes_eq, List.mem_append] at hroute
  rcases hroute with hown | hdata
  · exact wellFormed_viewerTexts _ (map_fst_viewerRoutes settings ▸ List.mem_map_of_mem hown)
  · obtain ⟨stem, hspelled, hplain⟩ := h.spelled hdata
    exact hspelled.wellFormed hplain

/-- No two routes collide. -/
def RoutesApart (settings : Settings) : Prop :=
  (allRoutes settings).Pairwise fun first second => ¬ TextsCollide first.1 second.1

/-- Equal texts of good form collide. -/
theorem RoutesApart.nodup {settings : Settings} (h : RoutesApart settings)
    (hform : ∀ route ∈ allRoutes settings, WellFormed route.1) :
    ((allRoutes settings).map Prod.fst).Nodup := by
  rw [List.Nodup, List.pairwise_map]
  refine List.Pairwise.imp_of_mem ?_ h
  intro first second hfirst _ hcollide heq
  exact hcollide (heq ▸ (hform first hfirst).collide_self)

/-- Then routes collide only if one of them takes the path of the other. -/
theorem PlainPaths.apart {settings : Settings} (h : PlainPaths settings)
    (hfree : ¬ SuiteTakesPath settings) : RoutesApart settings := by
  rw [RoutesApart, allRoutes_eq, List.pairwise_append]
  refine ⟨?_, ?_, ?_⟩
  · have hviewer := viewerTexts_apart
    rwa [← map_fst_viewerRoutes settings, List.pairwise_map] at hviewer
  · -- plain routes collide only if they are equal, and those of the data root are all different
    have hnodup := nodup_dataRoutes h.starFree hfree
    rw [List.Nodup, List.pairwise_map] at hnodup
    refine hnodup.imp_of_mem ?_
    intro first second hfirst hsecond hne hcollide
    obtain ⟨stem, hspelled, hplain⟩ := h.spelled hfirst
    obtain ⟨stem', hspelled', hplain'⟩ := h.spelled hsecond
    exact hne (hspelled.eq_of_collide hspelled' hplain hplain' hcollide)
  · intro own hown other hother hcollide
    have hmem : own.1 ∈ viewerTexts := map_fst_viewerRoutes settings ▸ List.mem_map_of_mem hown
    exact hfree (suiteTakesPath_of_collide hmem hother hcollide)

/-! ## Building the viewer -/

/-- The table is built from all routes, unless a served folder has a star in its name. -/
theorem routes_eq (settings : Settings) :
    routes settings =
      if StarFree settings then Routes.build (allRoutes settings) else .error .malformed := by
  have hiff : ((mounts settings).any fun mount => mount.path.toList.contains '*') = true ↔
      ¬ StarFree settings := by
    simp [StarFree]
  by_cases hstar : StarFree settings
  · rw [if_pos hstar, routes, if_neg (fun hany => hiff.1 hany hstar)]
    rfl
  · rw [if_neg hstar, routes, if_pos (hiff.2 hstar)]

theorem routeError?_eq_some_iff {settings : Settings} {error : PatternError} :
    routeError? settings = some error ↔ routes settings = .error error := by
  unfold routeError?
  cases routes settings with
  | ok table => simp
  | error other => simp

/-- The viewer cannot be built for a path that is taken only if two routes collide. -/
theorem not_routesApart_of_taken {settings : Settings} (h : routeError? settings = some .taken) :
    ¬ RoutesApart settings := by
  rw [routeError?_eq_some_iff, routes_eq] at h
  split at h
  · exact Routes.not_pairwise_of_build_taken h
  · cases h

/-- If the viewer can be built, no routes collide. -/
theorem routesApart_of_built {settings : Settings} (h : routeError? settings = none) :
    RoutesApart settings := by
  unfold routeError? at h
  split at h
  · rename_i table htable
    rw [routes_eq] at htable
    split at htable
    · exact (Routes.build_eq_ok htable).2
    · cases htable
  · cases h

/-- If no name has a place holder, the viewer can be built exactly if the suite document takes no path that
is taken. -/
theorem PlainPaths.routeError?_iff {settings : Settings} (h : PlainPaths settings) :
    (routeError? settings = some .taken ↔ SuiteTakesPath settings) ∧
      (routeError? settings = none ↔ ¬ SuiteTakesPath settings) := by
  have hform : routeError? settings ≠ some .malformed := by
    rw [ne_eq, routeError?_eq_some_iff, routes_eq, if_pos h.starFree]
    exact Routes.build_ne_malformed h.wellFormed
  have htaken : routeError? settings = some .taken → SuiteTakesPath settings := by
    intro herror
    by_contra hfree
    exact not_routesApart_of_taken herror (h.apart hfree)
  have hbuilt : routeError? settings = none → ¬ SuiteTakesPath settings := by
    intro hnone htakes
    exact not_nodup_of_suiteTakesPath htakes ((routesApart_of_built hnone).nodup h.wellFormed)
  cases herror : routeError? settings with
  | none => simpa using hbuilt herror
  | some error =>
    cases error with
    | malformed => exact absurd herror hform
    | taken => simpa using htaken herror

/-- Which routes share a path. A route of the data root shares one with the viewer or its assets only if it
is that of a suite document named `all` or `static` in the data root itself. All paths differ exactly if no
such document has one of these names or that of a served folder. Without place holders in names, that is
also when the viewer can be built, and otherwise it fails for a path that is taken. A viewer that can be
built has no routes that collide, and its own pages and documents are found under their paths. -/
theorem route_conflicts_exact (settings : Settings) :
    (∀ own ∈ viewerRoutes settings, ∀ other ∈ dataRoutes settings,
      TextsCollide own.1 other.1 ↔
        bareRoute? settings = some other ∧ own.1 = other.1 ∧ (own.1 = "/all" ∨ own.1 = "/static")) ∧
      (StarFree settings →
        (((allRoutes settings).map Prod.fst).Nodup ↔ ¬ SuiteTakesPath settings)) ∧
      (PlainPaths settings → (routeError? settings = some .taken ↔ SuiteTakesPath settings) ∧
        (routeError? settings = none ↔ ¬ SuiteTakesPath settings)) ∧
      (routeError? settings = some .taken → ¬ RoutesApart settings) ∧
      (routeError? settings = none → RoutesApart settings ∧
        route? settings "/".toList = some (.index, []) ∧ route? settings "/all".toList = some (.all, []) ∧
        route? settings "/api/suite".toList = some (.suite, []) ∧
        ∀ part : List Char, part ≠ [] → '/' ∉ part →
          route? settings (benchmarkPath ++ part) = some (.benchmark, [part])) := by
  refine ⟨?_, nodup_allRoutes_iff, PlainPaths.routeError?_iff, not_routesApart_of_taken, ?_⟩
  · intro own hown other hother
    exact collide_dataRoutes_iff (map_fst_viewerRoutes settings ▸ List.mem_map_of_mem hown) hother
  · exact fun hbuilt => ⟨routesApart_of_built hbuilt, route?_own hbuilt⟩

/-- A suite document in the data root itself, beside a folder of results. -/
def besideResults (name : String) : Settings :=
  { Settings.default with specPath := name, resultsFolder := "runs/" }

/-- Beside results in `runs`, a suite document `suite.json` has a path of its own, and `runs` has not. -/
theorem route_conflicts_exact_bareSuite :
    (((allRoutes (besideResults "suite.json")).map Prod.fst).Nodup ∧
        RoutesApart (besideResults "suite.json") ∧
        route? (besideResults "suite.json") "/all".toList = some (.all, [])) ∧
      (routeError? (besideResults "runs") = some .taken ∧ ¬ RoutesApart (besideResults "runs")) := by
  have hfree : ¬ SuiteTakesPath (besideResults "suite.json") := by decide +kernel
  have htakes : SuiteTakesPath (besideResults "runs") := by decide +kernel
  obtain ⟨-, hpaths, hbuilt, -, hpages⟩ := route_conflicts_exact (besideResults "suite.json")
  obtain ⟨-, -, hrefused, hcollide, -⟩ := route_conflicts_exact (besideResults "runs")
  have hnone := (hbuilt (by decide +kernel)).2.2 hfree
  have htaken := (hrefused (by decide +kernel)).1.2 htakes
  exact ⟨⟨(hpaths (by decide +kernel)).2 hfree, (hpages hnone).1, (hpages hnone).2.2.1⟩, htaken,
    hcollide htaken⟩

/-- A suite document `all` in the data root takes the path of the page with all benchmarks, and the viewer
cannot be built. -/
theorem suite_takes_page :
    ¬ ((allRoutes { Settings.default with specPath := "all" }).map Prod.fst).Nodup ∧
      routeError? { Settings.default with specPath := "all" } = some .taken := by
  decide +kernel

end Viewer

end BenchScope
