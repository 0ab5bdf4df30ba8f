import BenchScope.Proofs.ServedFolders
import BenchScope.Viewer.Site

/-!
# Routing

A path that is spelled by the characters of a pattern leads to the route of that pattern, whatever place
holders other routes have. Hence the viewer's own pages and documents are found under their paths, and a
benchmark under any name of one part, as long as the table of routes can be built at all.
-/

namespace BenchScope

namespace Http

namespace Pattern

/-! ## Reading patterns -/

/-- The pieces of a text, part by part. -/
def read? (text : List Char) : Option Pattern :=
  ((Path.parts text).mapM ofPart?).map (List.intercalate [.char '/'])

/-- The pattern of a text holds its pieces. A place holder for the rest comes last, and there are not too
many others. -/
theorem ofText?_eq_some_iff {text : String} {pattern : Pattern} :
    ofText? text = some pattern ↔ read? text.toList = some pattern ∧ .rest ∉ pattern.dropLast ∧
      pattern.count .part ≤ mostHolders := by
  rw [read?, ofText?]
  cases (Path.parts text.toList).mapM ofPart? with
  | none => simp
  | some patterns =>
    rw [Option.bind_some, Option.map_some, Option.ite_none_left_eq_some, not_or, Nat.not_lt,
      Option.some.injEq]
    constructor
    · rintro ⟨h, rfl⟩
      exact ⟨rfl, h⟩
    · rintro ⟨rfl, h⟩
      exact ⟨h, rfl⟩

theorem intercalate_cons_head (piece : Piece) (pattern : Pattern) (patterns : List Pattern) :
    List.intercalate [.char '/'] ((piece :: pattern) :: patterns) =
      piece :: List.intercalate [.char '/'] (pattern :: patterns) := by
  cases patterns with
  | nil => simp
  | cons second patterns => simp

/-- The first character of a text is the first piece of its pattern, unless it starts a place holder. -/
theorem read?_cons {c : Char} (h : startsHolder c = false) (rest : List Char) :
    read? (c :: rest) = (read? rest).map (.char c :: ·) := by
  obtain ⟨part, more, hrest⟩ := List.exists_cons_of_ne_nil (Path.parts_ne_nil rest)
  rw [read?, read?, Path.parts, hrest]
  dsimp only
  by_cases hslash : c = '/'
  · rw [if_pos hslash, hslash, List.mapM_cons, List.mapM_cons]
    cases ofPart? part with
    | none => rfl
    | some first =>
      cases more.mapM ofPart? with
      | none => rfl
      | some others => simp [ofPart?]
  · rw [if_neg hslash, List.mapM_cons, List.mapM_cons, ofPart?, if_neg (by simp [h])]
    cases ofPart? part with
    | none => rfl
    | some first =>
      cases more.mapM ofPart? with
      | none => rfl
      | some others => exact congrArg some (intercalate_cons_head (.char c) first others)

/-- A text that starts with a place holder has a pattern that does. -/
theorem head_of_read? {c : Char} (h : startsHolder c = true) {rest : List Char} {pattern : Pattern}
    (hread : read? (c :: rest) = some pattern) :
    pattern.head? = some .part ∨ pattern.head? = some .rest := by
  obtain ⟨part, more, hrest⟩ := List.exists_cons_of_ne_nil (Path.parts_ne_nil rest)
  have hslash : c ≠ '/' := by
    rintro rfl
    exact absurd h (by decide)
  rw [read?, Path.parts, hrest] at hread
  dsimp only at hread
  rw [if_neg hslash, List.mapM_cons, ofPart?, if_pos h] at hread
  obtain ⟨patterns, hpatterns, rfl⟩ := Option.map_eq_some_iff.1 hread
  obtain ⟨first, hfirst, hpatterns⟩ := Option.bind_eq_some_iff.1 hpatterns
  obtain ⟨others, -, hpatterns⟩ := Option.bind_eq_some_iff.1 hpatterns
  obtain rfl : first :: others = patterns := Option.some.inj hpatterns
  obtain ⟨-, hfirst⟩ := Option.ite_none_left_eq_some.1 hfirst
  obtain rfl := Option.some.inj hfirst
  rw [intercalate_cons_head, List.head?_cons]
  split
  · exact Or.inl rfl
  · exact Or.inr rfl

/-- A pattern that starts with a character is that of a text that does. -/
theorem exists_of_read?_char {text : List Char} {c : Char} {left : Pattern}
    (h : read? text = some (.char c :: left)) : ∃ rest, text = c :: rest ∧ read? rest = some left := by
  cases text with
  | nil => cases h
  | cons d rest =>
    by_cases hholder : startsHolder d = true
    · rcases head_of_read? hholder h with hhead | hhead <;> cases hhead
    · rw [read?_cons (by simpa using hholder)] at h
      obtain ⟨pattern, hrest, heq⟩ := Option.map_eq_some_iff.1 h
      obtain ⟨hd, rfl⟩ := List.cons.inj heq
      exact ⟨rest, by rw [Piece.char.inj hd], hrest⟩

/-- Only the empty text has the empty pattern. -/
theorem eq_nil_of_read? {text : List Char} (h : read? text = some []) : text = [] := by
  cases text with
  | nil => rfl
  | cons c rest =>
    by_cases hholder : startsHolder c = true
    · rcases head_of_read? hholder h with hhead | hhead <;> cases hhead
    · rw [read?_cons (by simpa using hholder)] at h
      obtain ⟨pattern, -, heq⟩ := Option.map_eq_some_iff.1 h
      cases heq

/-- A pattern that starts with characters is that of a text that does. -/
theorem exists_of_read? {text chars : List Char} {left : Pattern}
    (h : read? text = some (chars.map Piece.char ++ left)) :
    ∃ suffix, text = chars ++ suffix ∧ read? suffix = some left := by
  induction chars generalizing text with
  | nil => exact ⟨text, rfl, h⟩
  | cons c chars ih =>
    obtain ⟨rest, rfl, hrest⟩ := exists_of_read?_char h
    obtain ⟨suffix, rfl, hsuffix⟩ := ih hrest
    exact ⟨suffix, rfl, hsuffix⟩

/-- The characters that a pattern starts with are those that its text starts with. -/
theorem prefix_of_ofText? {chars : List Char} {text : String} {pattern : Pattern}
    (hpattern : ofText? text = some pattern) (hchars : chars.map Piece.char <+: pattern) :
    chars <+: text.toList := by
  obtain ⟨left, rfl⟩ := hchars
  obtain ⟨suffix, hsuffix, -⟩ := exists_of_read? (ofText?_eq_some_iff.1 hpattern).1
  exact ⟨suffix, hsuffix.symm⟩

end Pattern

namespace Routes

variable {α : Type}

/-! ## Following characters -/

/-- The routes that go on with the characters of a text, behind them. -/
def afterChars (routes : Routes α) (text : List Char) : Routes α :=
  text.foldl (fun routes c => routes.after (.char c)) routes

theorem afterChars_cons (routes : Routes α) (c : Char) (text : List Char) :
    routes.afterChars (c :: text) = (routes.after (.char c)).afterChars text := rfl

theorem afterChars_append (first second : Routes α) (text : List Char) :
    afterChars (first ++ second) text = afterChars first text ++ afterChars second text := by
  induction text generalizing first second with
  | nil => rfl
  | cons c text ih =>
    have hafter : after (first ++ second) (.char c) = after first (.char c) ++ after second (.char c) :=
      List.filterMap_append
    rw [afterChars_cons, hafter, ih]
    rfl

/-- Behind a text are exactly the routes whose patterns start with it. -/
theorem mem_afterChars {routes : Routes α} {text : List Char} {left : Pattern} {target : α} :
    (left, target) ∈ routes.afterChars text ↔ (text.map Piece.char ++ left, target) ∈ routes := by
  induction text generalizing routes with
  | nil => rfl
  | cons c text ih =>
    rw [afterChars_cons, ih, mem_after]
    rfl

theorem follow_nil (held : List Char) (parts : List (List Char)) (path : List Char) (target : α)
    (found : List (List Char)) : follow [] held parts path ≠ .found target found := by
  have hgiveUp : ∀ held, Search.giveUp (α := α) held ≠ .found target found := by
    intro held
    unfold Search.giveUp
    split <;> simp
  cases path with
  | nil => exact hgiveUp held
  | cons c path =>
    rw [follow]
    exact hgiveUp (c :: path)

/-- At every point of a path its next character is tried first: what is found behind it is found. -/
theorem follow_cons {routes : Routes α} {c : Char} {path : List Char} {parts found : List (List Char)}
    {target : α}
    (h : ∀ held, (routes.after (.char c)).follow held parts path = .found target found)
    (held : List Char) : routes.follow held parts (c :: path) = .found target found := by
  have hahead : (routes.after (.char c)).isEmpty = false := by
    rw [List.isEmpty_eq_false_iff]
    intro hnil
    have hfound := h held
    rw [hnil] at hfound
    exact follow_nil held parts path target found hfound
  rw [follow]
  simp only [hahead, h, Search.orElse]
  split
  · simp
  · split <;> simp

theorem follow_chars {routes : Routes α} {text path : List Char} {parts found : List (List Char)}
    {target : α}
    (h : ∀ held, (routes.afterChars text).follow held parts path = .found target found)
    (held : List Char) : routes.follow held parts (text ++ path) = .found target found := by
  induction text generalizing routes held with
  | nil => exact h held
  | cons c text ih => exact follow_cons (fun held => ih h held) held

/-- A path that is spelled by a pattern leads to the first route with that pattern. -/
theorem find?_chars {routes : Routes α} {path : List Char} {target : α}
    (h : (routes.afterChars path).target? = some target) : routes.find? path = some (target, []) := by
  have hend : ∀ held, (routes.afterChars path).follow held [] [] = .found target [] := by
    intro held
    rw [follow, h]
  have hfound := follow_chars hend path
  rw [List.append_nil] at hfound
  rw [find?, hfound]

/-- A place holder takes the characters up to the end of a path without another slash. -/
theorem followPart_end {inner : Routes α} {target : α} (h : inner.target? = some target)
    {path : List Char} (hslash : '/' ∉ path) (parts : List (List Char)) (part : List Char) :
    inner.followPart parts part path = .found target (parts ++ [part ++ path]) := by
  induction path generalizing part with
  | nil => rw [followPart, h, List.append_nil]
  | cons c path ih =>
    rw [List.mem_cons, not_or] at hslash
    rw [followPart, if_neg (Ne.symm hslash.1), ih hslash.2, List.append_assoc, List.singleton_append]

/-- A path that is spelled by a pattern up to a place holder for its last part leads to the route of the
pattern, if no other route goes on there. -/
theorem find?_part {routes : Routes α} {text part : List Char} {target : α}
    (h : routes.afterChars text = [([.part], target)]) (hpart : part ≠ []) (hslash : '/' ∉ part) :
    routes.find? (text ++ part) = some (target, [part]) := by
  obtain ⟨c, rest, rfl⟩ := List.exists_cons_of_ne_nil hpart
  rw [List.mem_cons, not_or] at hslash
  have hend : ∀ held,
      (routes.afterChars text).follow held [] (c :: rest) = .found target [c :: rest] := by
    intro held
    have htarget : target? [(([] : Pattern), target)] = some target := rfl
    rw [h, follow]
    simp [isFork, after, holder?, target?, Search.orElse, Ne.symm hslash.1,
      followPart_end htarget hslash.2]
  rw [find?, follow_chars hend]

/-! ## Tables -/

/-- A table holds what it held before, and patterns of the routes that were added. -/
theorem exists_of_foldlM_add {texts : List (String × α)} {routes table : Routes α}
    (h : texts.foldlM (fun routes (text, target) => routes.add text target) routes = .ok table) :
    ∃ more, table = routes ++ more ∧
      ∀ route ∈ more, ∃ text, (text, route.2) ∈ texts ∧ Pattern.ofText? text = some route.1 := by
  induction texts generalizing routes with
  | nil =>
    obtain rfl : routes = table := Except.ok.inj h
    exact ⟨[], by simp, by simp⟩
  | cons entry texts ih =>
    obtain ⟨text, target⟩ := entry
    rw [List.foldlM_cons] at h
    dsimp only at h
    cases hadd : routes.add text target with
    | error e =>
      rw [hadd] at h
      cases h
    | ok next =>
      rw [hadd] at h
      obtain ⟨more, rfl, hmore⟩ := ih h
      -- what is added is one route, with the pattern of its path
      unfold add at hadd
      split at hadd
      · cases hadd
      · rename_i pattern hpattern
        split at hadd
        · cases hadd
        · obtain rfl : routes ++ [(pattern, target)] = next := Except.ok.inj hadd
          refine ⟨(pattern, target) :: more, by simp, ?_⟩
          intro route hroute
          rcases List.mem_cons.1 hroute with rfl | hroute
          · exact ⟨text, List.mem_cons_self .., hpattern⟩
          · obtain ⟨other, hother, hpattern⟩ := hmore route hroute
            exact ⟨other, List.mem_cons_of_mem _ hother, hpattern⟩

end Routes

end Http

namespace Viewer

open Http

/-! ## The viewer's own routes -/

/-- The characters of the path of a benchmark, without its key. -/
def benchmarkPath : List Char := "/api/benchmarks/".toList

/-- The routes that are not the viewer's own. -/
def otherRoutes (settings : Settings) : List (String × Endpoint) :=
  (mounts settings).flatMap Mount.routes ++ (bareRoute? settings).toList

/-- What follows a slash, or opens a new part, leaves the first part of a path. -/
theorem takeWhile_append_suffix {text suffix : List Char}
    (h : '/' ∈ text ∨ suffix = [] ∨ suffix.head? = some '/') :
    (text ++ suffix).takeWhile (· ≠ '/') = text.takeWhile (· ≠ '/') := by
  induction text with
  | nil =>
    rcases h with hmem | rfl | hhead
    · cases hmem
    · rfl
    · cases suffix with
      | nil => cases hhead
      | cons c suffix =>
        obtain rfl : c = '/' := Option.some.inj hhead
        rfl
  | cons c text ih =>
    by_cases hc : c = '/'
    · simp [hc]
    · rw [List.mem_cons, or_assoc] at h
      rw [List.cons_append, List.takeWhile_cons_of_pos (by simpa using hc),
        List.takeWhile_cons_of_pos (by simpa using hc), ih (h.resolve_left (Ne.symm hc))]

/-- The first part of a path behind its slash. -/
def firstPart (path : List Char) : List Char := (path.drop 1).takeWhile (· ≠ '/')

theorem firstPart_of_below {name path : List Char} (hname : '/' ∉ name)
    (h : '/' :: (name ++ ['/']) <+: path) : firstPart path = name := by
  obtain ⟨rest, rfl⟩ := h
  have hpos : ∀ c ∈ name, decide (c ≠ '/') = true := by
    intro c hc
    simpa using ne_of_mem_of_not_mem hc hname
  rw [firstPart, List.cons_append, List.drop_one, List.tail_cons, List.append_assoc,
    List.takeWhile_append_of_pos hpos]
  simp

/-- All paths of a mount start with the first part of its folder. -/
theorem Mount.firstPart_of_mem_paths {mount : Mount} {folder : List Char} {path : String}
    (hmount : mount.path.toList = '/' :: folder) (hfolder : folder ≠ []) (hpath : path ∈ mount.paths) :
    firstPart path.toList = folder.takeWhile (· ≠ '/') := by
  have hsuffix : ∃ suffix, path.toList = '/' :: (folder ++ suffix) ∧
      ('/' ∈ folder ∨ suffix = [] ∨ suffix.head? = some '/') := by
    unfold Mount.paths at hpath
    rw [hmount] at hpath
    split at hpath
    · rename_i hlast
      have hslash : '/' ∈ folder := by
        rw [List.getLast?_cons, Option.some.injEq] at hlast
        rw [← hlast, List.getLast?_eq_some_getLast hfolder]
        exact List.getLast_mem hfolder
      rcases List.mem_cons.1 hpath with rfl | hpath
      · exact ⟨_, by rw [String.toList_append, hmount, List.cons_append], Or.inl hslash⟩
      · obtain rfl := List.mem_singleton.1 hpath
        exact ⟨[], by rw [hmount, List.append_nil], Or.inl hslash⟩
    · simp only [List.mem_cons, List.not_mem_nil, or_false] at hpath
      rcases hpath with rfl | rfl | rfl
      · exact ⟨_, by rw [String.toList_append, hmount, List.cons_append], Or.inr (Or.inr rfl)⟩
      · exact ⟨[], by rw [hmount, List.append_nil], Or.inr (Or.inl rfl)⟩
      · exact ⟨_, by rw [String.toList_append, hmount, List.cons_append], Or.inr (Or.inr rfl)⟩
  obtain ⟨suffix, hpath, hsuffix⟩ := hsuffix
  rw [firstPart, hpath, List.drop_one, List.tail_cons, takeWhile_append_suffix hsuffix]

theorem toList_path (name : String) : ("/" ++ name).toList = '/' :: name.toList := String.toList_append

/-- The paths of a served folder start with a name that is not the viewer's. -/
theorem firstPart_of_mem_dataMounts {settings : Settings} {mount : Mount} {path : String}
    (hmount : mount ∈ dataMounts settings) (hpath : path ∈ mount.paths) :
    firstPart path.toList ≠ [] ∧
      ∀ name ∈ ["static", "api", "all"], firstPart path.toList ≠ name.toList := by
  unfold dataMounts at hmount
  split at hmount
  · cases hmount
  · obtain ⟨folder, hfolder, rfl⟩ := List.mem_map.1 hmount
    obtain ⟨-, -, hadmissible⟩ := Settings.of_mem_servedFolders hfolder
    rw [Mount.firstPart_of_mem_paths (toList_path folder) hadmissible.toList_ne_nil hpath, ← Path.headD_parts]
    exact ⟨hadmissible.named, hadmissible.free⟩

/-- The path of a suite document in the data root itself has one part. -/
theorem bareRoute?_eq_some {settings : Settings} {route : String × Endpoint}
    (h : bareRoute? settings = some route) :
    Settings.isRemote settings.dataRoot = false ∧
      ∃ name, settings.bareSuite? = some name ∧ route.1 = "/" ++ name ∧ name ≠ "" ∧ '/' ∉ name.toList := by
  unfold bareRoute? at h
  split at h
  · cases h
  · rename_i hlocal
    obtain ⟨name, hname, rfl⟩ := Option.map_eq_some_iff.1 h
    refine ⟨by simpa using hlocal, name, hname, rfl, ?_⟩
    obtain ⟨hplain, hname⟩ := Option.ite_none_left_eq_some.1 hname
    obtain rfl := Option.some.inj hname
    rw [not_or, not_or] at hplain
    exact ⟨hplain.1, hplain.2.1⟩

/-- Nothing lies below a path of one part. -/
theorem not_prefix_of_bare {name : String} (h : '/' ∉ name.toList) {first : List Char} :
    ¬ '/' :: (first ++ ['/']) <+: ("/" ++ name).toList := by
  intro hbegin
  rw [toList_path, List.cons_prefix_cons] at hbegin
  exact h (hbegin.2.subset (by simp))

/-- None of the other routes lies among the documents for programs. -/
theorem not_api_of_mem_otherRoutes {settings : Settings} {route : String × Endpoint}
    (h : route ∈ otherRoutes settings) : ¬ "/api/".toList <+: route.1.toList := by
  have hsplit : "/api/".toList = '/' :: ("api".toList ++ ['/']) := by decide +kernel
  rw [hsplit]
  rw [otherRoutes, List.mem_append, List.mem_flatMap] at h
  rcases h with ⟨mount, hmount, hroute⟩ | hbare
  · intro hapi
    have hfirst := firstPart_of_below (by decide +kernel) hapi
    obtain ⟨path, hpath, rfl⟩ := List.mem_map.1 hroute
    rcases List.mem_cons.1 hmount with rfl | hmount
    · have hstatic : "/static".toList = '/' :: "static".toList := by decide +kernel
      rw [Mount.firstPart_of_mem_paths hstatic (by decide +kernel) hpath] at hfirst
      exact absurd hfirst (by decide +kernel)
    · exact (firstPart_of_mem_dataMounts hmount hpath).2 "api" (by simp) hfirst
  · obtain ⟨-, name, -, hroute, -, hslash⟩ := bareRoute?_eq_some (Option.mem_toList.1 hbare)
    rw [hroute]
    exact not_prefix_of_bare hslash

/-- The patterns of the viewer's own routes. -/
def ownTable : Routes Endpoint :=
  [("/".toList.map .char, .index), ("/all".toList.map .char, .all),
    ("/api/suite".toList.map .char, .suite), (benchmarkPath.map .char ++ [.part], .benchmark)]

/-- A table starts with the viewer's own routes, and nothing else in it lies among the documents for
programs. -/
theorem routes_eq_ok {settings : Settings} {table : Routes Endpoint}
    (h : routes settings = .ok table) :
    ∃ more, table = ownTable ++ more ∧ more.afterChars "/api/".toList = [] := by
  unfold routes at h
  split at h
  · cases h
  · rw [allRoutes, List.append_assoc, List.foldlM_append] at h
    -- the viewer's own routes come first, and none of them is refused
    change (Except.ok ownTable >>= _) = _ at h
    obtain ⟨more, rfl, hmore⟩ := Routes.exists_of_foldlM_add h
    refine ⟨more, rfl, List.eq_nil_iff_forall_not_mem.2 ?_⟩
    rintro ⟨left, target⟩ hroute
    obtain ⟨text, htext, hpattern⟩ := hmore _ (Routes.mem_afterChars.1 hroute)
    exact not_api_of_mem_otherRoutes htext
      (Pattern.prefix_of_ofText? hpattern (List.prefix_append _ _))

/-- What the viewer's own routes lead to first, all routes lead to. -/
theorem find?_ownTable_append {path : List Char} {endpoint : Endpoint} (more : Routes Endpoint)
    (h : (ownTable.afterChars path).target? = some endpoint) :
    Routes.find? (ownTable ++ more) path = some (endpoint, []) := by
  apply Routes.find?_chars
  obtain ⟨route, hroute, rfl⟩ := Option.map_eq_some_iff.1 h
  rw [Routes.afterChars_append, Routes.target?, List.find?_append, hroute]
  rfl

theorem find?_benchmark {more : Routes Endpoint} (hmore : more.afterChars "/api/".toList = [])
    {part : List Char} (hpart : part ≠ []) (hslash : '/' ∉ part) :
    Routes.find? (ownTable ++ more) (benchmarkPath ++ part) = some (.benchmark, [part]) := by
  refine Routes.find?_part ?_ hpart hslash
  have hpath : benchmarkPath = "/api/".toList ++ "benchmarks/".toList := by decide +kernel
  have hnone : more.afterChars benchmarkPath = [] := by
    refine List.eq_nil_iff_forall_not_mem.2 ?_
    rintro ⟨left, endpoint⟩ hroute
    rw [Routes.mem_afterChars, hpath, List.map_append, List.append_assoc, ← Routes.mem_afterChars,
      hmore] at hroute
    cases hroute
  rw [Routes.afterChars_append, hnone]
  rfl

/-- The viewer's own pages and documents are found under their paths. -/
theorem route?_own {settings : Settings} (h : routeError? settings = none) :
    route? settings "/".toList = some (.index, []) ∧ route? settings "/all".toList = some (.all, []) ∧
      route? settings "/api/suite".toList = some (.suite, []) ∧
      ∀ part : List Char, part ≠ [] → '/' ∉ part →
        route? settings (benchmarkPath ++ part) = some (.benchmark, [part]) := by
  unfold routeError? at h
  split at h
  · rename_i table htable
    obtain ⟨more, rfl, hmore⟩ := routes_eq_ok htable
    unfold route?
    rw [htable]
    exact ⟨find?_ownTable_append more rfl, find?_ownTable_append more rfl,
      find?_ownTable_append more rfl, fun part hpart hslash => find?_benchmark hmore hpart hslash⟩
  · cases h

end Viewer

end BenchScope
