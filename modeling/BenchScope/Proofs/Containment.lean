import BenchScope.Proofs.Delivery
import BenchScope.Proofs.ServedFolders
import BenchScope.Session.Root

/-!
# Documents below a folder

A path names a place without a look at any file: its names lead down, and each `..` takes the last name back or
leads up. The documents of a suite on the own machine are read from places below a folder as long as no
beginning of their paths goes up more often than down; slashes and dots do no harm. Nothing refuses a path that
does go up, so such a path is read from outside the folder.
-/

namespace BenchScope

/-! ## Places -/

namespace Path

/-- A place that a path names: whether the path starts at the root of all files, how often it goes up beyond
its start, and the names that lead down from there. -/
structure Location where
  absolute : Bool
  above : Nat
  names : List String
  deriving DecidableEq, Repr

namespace Location

/-- Follows a name. There is nothing above the root of all files. -/
def step (place : Location) (name : String) : Location :=
  if name = ".." then
    if place.names ≠ [] then { place with names := place.names.dropLast }
    else if place.absolute then place
    else { place with above := place.above + 1 }
  else { place with names := place.names ++ [name] }

/-- Follows names, one after the other. -/
def follow (place : Location) (names : List String) : Location := names.foldl step place

/-- A place is a directory or lies below it. -/
structure Within (directory place : Location) : Prop where
  absolute : place.absolute = directory.absolute
  above : place.above = directory.above
  names : directory.names <+: place.names

/-- The root of all files. -/
def IsTop (place : Location) : Prop := place.absolute = true ∧ place.names = []

theorem follow_append (place : Location) (first second : List String) :
    place.follow (first ++ second) = (place.follow first).follow second :=
  List.foldl_append

theorem step_down (place : Location) {name : String} (h : name ≠ "..") :
    place.step name = { place with names := place.names ++ [name] } := if_neg h

theorem step_back (place : Location) (h : place.names ≠ []) :
    place.step ".." = { place with names := place.names.dropLast } := by
  rw [step, if_pos rfl, if_pos h]

theorem step_up {place : Location} (habsolute : place.absolute = false) (h : place.names = []) :
    place.step ".." = { place with above := place.above + 1 } := by
  rw [step, if_pos rfl, if_neg (not_not_intro h), habsolute]
  rfl

/-- Nothing leads out of the root of all files. -/
theorem within_follow_of_isTop {directory place : Location} (htop : directory.IsTop)
    (h : directory.Within place) (names : List String) : directory.Within (place.follow names) := by
  induction names generalizing place with
  | nil => exact h
  | cons name rest ih =>
    refine ih ⟨?_, ?_, htop.2 ▸ List.nil_prefix⟩
    · unfold step
      split_ifs <;> exact h.absolute
    · unfold step
      split_ifs with hup hnames habsolute
      · exact h.above
      · exact h.above
      · exact absurd (h.absolute.trans htop.1) habsolute
      · exact h.above

/-- The step that leaves a directory is the one that goes up from it. -/
theorem not_within_step_up {directory : Location} (htop : ¬ directory.IsTop) :
    ¬ directory.Within (directory.step "..") := by
  intro hwithin
  by_cases hnames : directory.names = []
  · have habsolute : directory.absolute = false := by
      rw [Bool.eq_false_iff]
      exact fun h => htop ⟨h, hnames⟩
    have habove := hwithin.above
    rw [step_up habsolute hnames] at habove
    exact absurd habove (Nat.succ_ne_self _)
  · have hprefix := hwithin.names.length_le
    rw [step_back directory hnames, List.length_dropLast] at hprefix
    have hpos := List.length_pos_of_ne_nil hnames
    omega

theorem forall_prefix_cons {P : List String → Prop} {name : String} {rest : List String} :
    (∀ beginning, beginning <+: name :: rest → P beginning) ↔
      P [] ∧ ∀ beginning, beginning <+: rest → P (name :: beginning) := by
  constructor
  · intro h
    exact ⟨h [] List.nil_prefix, fun beginning hb => h _ (List.cons_prefix_cons.2 ⟨rfl, hb⟩)⟩
  · rintro ⟨hnil, hcons⟩ beginning hb
    rcases List.prefix_cons_iff.1 hb with rfl | ⟨tail, rfl, htail⟩
    · exact hnil
    · exact hcons tail htail

/-- Going up from below a directory takes back a name that led down from it. -/
theorem follow_up (directory : Location) {down : List String} (hdown : down ≠ []) (rest : List String) :
    follow { directory with names := directory.names ++ down } (".." :: rest) =
      follow { directory with names := directory.names ++ down.dropLast } rest := by
  have hne : directory.names ++ down ≠ [] := by simp [hdown]
  rw [← List.dropLast_append_of_ne_nil hdown]
  exact congrArg (follow · rest) (step_back _ hne)

/-- Any other name leads one step further down. -/
theorem follow_down (directory : Location) (down : List String) {name : String} (hname : name ≠ "..")
    (rest : List String) :
    follow { directory with names := directory.names ++ down } (name :: rest) =
      follow { directory with names := directory.names ++ (down ++ [name]) } rest := by
  rw [← List.append_assoc]
  exact congrArg (follow · rest) (step_down _ hname)

/-- From a place below a directory, the names stay in the directory exactly if no beginning of them goes up more
often than it leads down together with the names before it. -/
theorem within_follow_iff {directory : Location} (htop : ¬ directory.IsTop) (down names : List String) :
    (∀ beginning, beginning <+: names → directory.Within
      (follow { directory with names := directory.names ++ down } beginning)) ↔
    ∀ beginning, beginning <+: names → 2 * beginning.count ".." ≤ beginning.length + down.length := by
  have hstart (down : List String) :
      directory.Within (follow { directory with names := directory.names ++ down } []) :=
    ⟨rfl, rfl, List.prefix_append _ _⟩
  -- `down` is how far the path has led down from the directory so far
  induction names generalizing down with
  | nil =>
    refine iff_of_true ?_ ?_
    · intro beginning hb
      rw [List.prefix_nil.1 hb]
      exact hstart down
    · intro beginning hb
      rw [List.prefix_nil.1 hb]
      exact Nat.zero_le _
  | cons name rest ih =>
    have hnone : 2 * List.count ".." ([] : List String) ≤ ([] : List String).length + down.length :=
      Nat.zero_le _
    rw [forall_prefix_cons, forall_prefix_cons, and_iff_right (hstart down), and_iff_right hnone]
    by_cases hname : name = ".."
    · subst hname
      by_cases hdown : down = []
      · -- going up from the directory itself leaves it
        subst hdown
        refine iff_of_false ?_ ?_
        · intro hall
          have hleft := hall [] List.nil_prefix
          rw [List.append_nil] at hleft
          exact not_within_step_up htop hleft
        · intro hall
          exact absurd (hall [] List.nil_prefix) (by decide)
      · -- going up from below it stays inside
        have hpos := List.length_pos_of_ne_nil hdown
        simp only [follow_up directory hdown]
        refine (ih down.dropLast).trans (forall₂_congr fun beginning _ => ?_)
        rw [List.count_cons_self, List.length_cons, List.length_dropLast]
        omega
    · simp only [follow_down directory down hname]
      refine (ih (down ++ [name])).trans (forall₂_congr fun beginning _ => ?_)
      rw [List.count_cons_of_ne hname, List.length_cons, List.length_append, List.length_singleton]
      omega

end Location

/-- Some beginning of the names goes up more often than down. -/
def Climbs (names : List String) : Prop :=
  ∃ beginning, beginning <+: names ∧ beginning.length < 2 * beginning.count ".."

theorem not_climbs_iff {names : List String} :
    ¬ Climbs names ↔ ∀ beginning, beginning <+: names → 2 * beginning.count ".." ≤ beginning.length := by
  simp only [Climbs, not_exists, not_and, Nat.not_lt]

/-- Names that never go up do not climb. -/
theorem not_climbs_of_not_mem {names : List String} (h : ".." ∉ names) : ¬ Climbs names := by
  rw [not_climbs_iff]
  intro beginning hb
  rw [List.count_eq_zero_of_not_mem fun hmem => h (hb.subset hmem)]
  exact Nat.zero_le _

/-- Followed from a directory, names stay in it at every stage exactly if they do not climb, or if nothing lies
above the directory. -/
theorem Location.stays_iff (directory : Location) (names : List String) :
    (∀ beginning, beginning <+: names → directory.Within (directory.follow beginning)) ↔
      directory.IsTop ∨ ¬ Climbs names := by
  by_cases htop : directory.IsTop
  · refine iff_of_true (fun beginning _ => ?_) (Or.inl htop)
    exact within_follow_of_isTop htop ⟨rfl, rfl, List.prefix_rfl⟩ beginning
  · have hstays := within_follow_iff htop [] names
    rw [List.append_nil] at hstays
    rw [or_iff_right htop, not_climbs_iff]
    exact hstays

/-- Where a path starts. -/
def start (path : String) : Location := ⟨path.toList.head? = some '/', 0, []⟩

/-- The place that a path names. -/
def resolve (path : String) : Location := (start path).follow (FileTree.namesOf path)

end Path

/-! ## Names of documents -/

namespace FileTree

theorem namesOf_replicate_append (n : Nat) (rest : List Char) :
    namesOf (String.ofList (List.replicate n '/' ++ rest)) = namesOf (String.ofList rest) := by
  induction n with
  | zero => rfl
  | succ n ih =>
    rw [List.replicate_succ, List.cons_append, ← List.nil_append ('/' :: (List.replicate n '/' ++ rest)),
      namesOf_slash, ih]
    rfl

/-- Slashes at the start of a path do not count. -/
theorem namesOf_withoutLeadingSlashes (path : String) :
    namesOf (Path.withoutLeadingSlashes path) = namesOf path := by
  obtain ⟨⟨m, hm⟩, -⟩ := Path.exists_leading path.toList
  rw [Path.withoutLeadingSlashes, ← namesOf_replicate_append m, ← hm, String.ofList_toList]

/-- Slashes at the end of a path do not count. -/
theorem namesOf_withoutTrailingSlashes (path : String) :
    namesOf (Path.withoutTrailingSlashes path) = namesOf path := by
  obtain ⟨⟨n, hn⟩, -⟩ := Path.exists_trailing path.toList
  have hdrop : namesOf (String.ofList (Text.dropEnd Path.isSlash path.toList ++ List.replicate n '/')) =
      namesOf (String.ofList (Text.dropEnd Path.isSlash path.toList)) := by
    cases n with
    | zero => rw [List.replicate_zero, List.append_nil]
    | succ n =>
      have hslashes := namesOf_replicate_append n []
      rw [List.append_nil] at hslashes
      rw [List.replicate_succ, namesOf_slash, hslashes]
      exact List.append_nil _
  rw [Path.withoutTrailingSlashes, ← hdrop, ← hn, String.ofList_toList]

end FileTree

/-- A document below a folder is at the place that its names lead to from the folder. -/
theorem Folder.resolve_fileOf (folder path : String) :
    Path.resolve (fileOf folder path) = (Path.resolve folder).follow (FileTree.namesOf path) := by
  have hhead : (Path.withoutLeadingSlashes path).toList.head? ≠ some '/' := by
    rw [Path.withoutLeadingSlashes, String.toList_ofList]
    exact (Path.exists_leading path.toList).2
  have hstart : Path.start (fileOf folder path) = Path.start folder := by
    unfold Path.start fileOf
    rw [decide_eq_decide.2 (FileTree.head_join folder hhead)]
  have hnames : FileTree.namesOf (fileOf folder path) = FileTree.namesOf folder ++ FileTree.namesOf path := by
    rw [fileOf, FileTree.namesOf_join folder hhead, FileTree.namesOf_withoutLeadingSlashes]
  rw [Path.resolve, hstart, hnames, Path.Location.follow_append, ← Path.resolve]

/-- The names on the way to a document of a benchmark: those of its path in the suite, for results behind those
of the results folder unless the path is an address. -/
def Settings.documentNames (settings : Settings) (spec : Spec) : Role → List String
  | .source => FileTree.namesOf spec.source
  | .results => (if isRemote spec.results then [] else FileTree.namesOf settings.resultsFolder) ++
      FileTree.namesOf spec.results

theorem Settings.namesOf_resultsPath (settings : Settings) (spec : Spec) :
    FileTree.namesOf (settings.resultsPath spec.results) = settings.documentNames spec .results := by
  unfold resultsPath documentNames
  cases isRemote spec.results with
  | true => rfl
  | false =>
    by_cases hempty : settings.resultsFolder = ""
    · rw [hempty]
      rfl
    · have hpath : (Path.withoutTrailingSlashes settings.resultsFolder ++ "/" ++
          Path.withoutLeadingSlashes spec.results) =
          String.ofList ((Path.withoutTrailingSlashes settings.resultsFolder).toList ++
            '/' :: (Path.withoutLeadingSlashes spec.results).toList) := by
        rw [← String.toList_inj]
        simp
      rw [if_neg (by simpa using hempty), hpath, FileTree.namesOf_slash, String.ofList_toList,
        String.ofList_toList, FileTree.namesOf_withoutTrailingSlashes, FileTree.namesOf_withoutLeadingSlashes]
      rfl

/-! ## Files that are read -/

namespace FileTree

/-- The steps along a path are its names, with dots between them. -/
theorem filter_stepsOf (path : String) : (stepsOf path.toList).filter (· ≠ ".") = namesOf path := by
  have hparts (parts : List (List Char)) :
      ((parts.filter (!·.isEmpty)).map String.ofList).filter (· ≠ ".") =
        (parts.map String.ofList).filter fun name => name ≠ "" ∧ name ≠ "." := by
    rw [List.filter_map, List.filter_map, List.filter_filter]
    congr 1
    refine List.filter_congr fun part _ => ?_
    cases part with
    | nil => rfl
    | cons c rest => simp
  have hdots : ((if path.toList.getLast? = some '/' then [['.']] else []).map String.ofList).filter
      (· ≠ ".") = [] := by
    split_ifs <;> rfl
  unfold stepsOf namesOf
  dsimp only
  rw [List.map_append, List.filter_append, hparts, hdots, List.append_nil]

/-- A walk that gets to its end takes one step after the other. -/
theorem exists_step_of_walk {tree : FileTree} {place last : Place} {name : String} {rest : List String}
    (h : tree.walk place (name :: rest) = .ok last) :
    ∃ next, step place name = .ok next ∧ tree.walk next rest = .ok last := by
  rw [walk] at h
  split at h
  · cases h
  · cases h
  · split at h
    · cases h
    · rename_i next hstep
      exact ⟨next, hstep, h⟩

/-- All that a step from below the working directory can do. -/
theorem step_inside_cases {names : List String} {name : String} {next : Place}
    (h : step (.inside names) name = .ok next) :
    (name = "." ∧ next = .inside names) ∨
    (name = ".." ∧ ((names = [] ∧ next = .outside) ∨ (names ≠ [] ∧ next = .inside names.dropLast))) ∨
    (name ≠ "." ∧ name ≠ ".." ∧ next = .inside (names ++ [name])) := by
  unfold step at h
  by_cases hlong : maxName < name.utf8ByteSize
  · rw [if_pos hlong] at h
    cases h
  · rw [if_neg hlong] at h
    dsimp only at h
    by_cases hdot : name = "."
    · rw [if_pos hdot] at h
      exact Or.inl ⟨hdot, (Except.ok.inj h).symm⟩
    · rw [if_neg hdot] at h
      by_cases hup : name = ".."
      · rw [if_pos hup] at h
        refine Or.inr (Or.inl ⟨hup, ?_⟩)
        by_cases hnames : names = []
        · rw [if_pos hnames] at h
          exact Or.inl ⟨hnames, (Except.ok.inj h).symm⟩
        · rw [if_neg hnames] at h
          exact Or.inr ⟨hnames, (Except.ok.inj h).symm⟩
      · rw [if_neg hup] at h
        exact Or.inr (Or.inr ⟨hdot, hup, (Except.ok.inj h).symm⟩)

theorem step_outside {name : String} {next : Place} (h : step .outside name = .ok next) : next = .outside := by
  unfold step at h
  dsimp only at h
  split_ifs at h
  exact (Except.ok.inj h).symm

/-- Nothing leads back from outside the working directory. -/
theorem walk_outside {tree : FileTree} {steps : List String} {last : Place}
    (h : tree.walk .outside steps = .ok last) : last = .outside := by
  induction steps with
  | nil => exact (Except.ok.inj h).symm
  | cons name rest ih =>
    obtain ⟨next, hstep, hrest⟩ := exists_step_of_walk h
    rw [step_outside hstep] at hrest
    exact ih hrest

/-- Names that are followed to a place below the working directory name this place. -/
theorem follow_of_walk {tree : FileTree} {start names steps : List String}
    (h : tree.walk (.inside start) steps = .ok (.inside names)) :
    Path.Location.follow ⟨false, 0, start⟩ (steps.filter (· ≠ ".")) = ⟨false, 0, names⟩ := by
  induction steps generalizing start with
  | nil =>
    obtain rfl := Place.inside.inj (Except.ok.inj h)
    rfl
  | cons name rest ih =>
    obtain ⟨next, hstep, hrest⟩ := exists_step_of_walk h
    have hcounted (hdot : name ≠ ".") : (name :: rest).filter (· ≠ ".") = name :: rest.filter (· ≠ ".") :=
      List.filter_cons_of_pos (by simpa using hdot)
    rcases step_inside_cases hstep with ⟨rfl, rfl⟩ | ⟨rfl, ⟨-, rfl⟩ | ⟨hstart, rfl⟩⟩ | ⟨hdot, hup, rfl⟩
    · exact ih hrest
    · cases walk_outside hrest
    · rw [hcounted (by decide), ← ih hrest]
      exact congrArg (Path.Location.follow · _) (Path.Location.step_back _ hstart)
    · rw [hcounted hdot, ← ih hrest]
      exact congrArg (Path.Location.follow · _) (Path.Location.step_down _ hup)

theorem resolve_of_locate {tree : FileTree} {path : String} {names : List String}
    (h : tree.locate path = .ok (.inside names)) : Path.resolve path = ⟨false, 0, names⟩ := by
  unfold locate at h
  dsimp only at h
  split_ifs at h with hnul hempty hlong habsolute
  · cases walk_outside h
  · have hfollow := follow_of_walk h
    rw [filter_stepsOf] at hfollow
    rw [Path.resolve, Path.start, decide_eq_false habsolute]
    exact hfollow

/-- Bytes that are read are those of a file below the working directory. -/
theorem exists_file_of_read {tree : FileTree} {path : String} {bytes : List UInt8}
    (h : tree.read path = .ok bytes) :
    ∃ names, (names, bytes) ∈ tree.files ∧ tree.locate path = .ok (.inside names) := by
  unfold read nodeAt at h
  cases hlocate : tree.locate path with
  | error e =>
    rw [hlocate] at h
    cases h
  | ok place =>
    rw [hlocate] at h
    dsimp only [Except.map] at h
    cases place with
    | outside => cases h
    | inside names =>
      unfold node at h
      dsimp only at h
      cases hfind : tree.files.find? fun file => file.1 = names with
      -- a place without a file is a folder or nothing, and neither is read
      | none =>
        rw [hfind] at h
        dsimp only at h
        split_ifs at h
      | some file =>
        rw [hfind] at h
        obtain rfl := Except.ok.inj h
        have hname : file.1 = names := by simpa using List.find?_some hfind
        refine ⟨names, ?_, rfl⟩
        rw [← hname]
        exact List.mem_of_find?_eq_some hfind

/-- A text that is read is that of a file at the place that the path names. -/
theorem exists_file_of_readText {tree : FileTree} {path text : String} (h : tree.readText path = .ok text) :
    ∃ names bytes, (names, bytes) ∈ tree.files ∧ Text.Utf8.decode? bytes = some text.toList ∧
      Path.resolve path = ⟨false, 0, names⟩ := by
  unfold readText at h
  cases hread : tree.read path with
  | error e =>
    rw [hread] at h
    cases h
  | ok bytes =>
    rw [hread] at h
    dsimp only at h
    cases hdecode : Text.Utf8.decode? bytes with
    | none =>
      rw [hdecode] at h
      cases h
    | some chars =>
      rw [hdecode] at h
      obtain rfl := Except.ok.inj h
      obtain ⟨names, hfile, hlocate⟩ := exists_file_of_read hread
      exact ⟨names, bytes, hfile, by rw [String.toList_ofList, hdecode], resolve_of_locate hlocate⟩

end FileTree

/-! ## Documents of a suite -/

namespace Folder

/-- A document that is found is the text of a file at the place that the path names. -/
theorem exists_file_of_fetch {tree : FileTree} {folder path text : String} (h : fetch tree folder path = .ok text) :
    ∃ names bytes, (names, bytes) ∈ tree.files ∧ Text.Utf8.decode? bytes = some text.toList ∧
      Path.resolve (fileOf folder path) = ⟨false, 0, names⟩ := by
  unfold fetch at h
  cases hread : tree.readText (fileOf folder path) with
  | error e =>
    rw [hread] at h
    cases h
  | ok read =>
    rw [hread] at h
    obtain rfl := Except.ok.inj h
    exact FileTree.exists_file_of_readText hread

/-- A fetch of a session asks for the source or the results of a benchmark of its suite. -/
theorem exists_spec_of_started {settings : Settings} {query : String} {suite : Outcome} {ledger : Ledger}
    (hreachable : Ledger.Reachable settings query suite ledger) {fetch : Fetch}
    (hfetch : fetch ∈ ledger.started) :
    ∃ spec, ledger.session.suite.get fetch.key = .ok spec ∧
      FileTree.namesOf fetch.path = settings.documentNames spec fetch.role := by
  obtain ⟨-, hmem⟩ := hreachable.consistent.mem_fetchesOf hfetch
  obtain ⟨hsettings, -⟩ := hreachable.origin
  unfold Session.fetchesOf at hmem
  cases hspec : ledger.session.suite.get fetch.key with
  | error e =>
    rw [hspec] at hmem
    cases hmem
  | ok spec =>
    rw [hspec, hsettings] at hmem
    refine ⟨spec, rfl, ?_⟩
    rcases Session.mem_fetches.1 hmem with ⟨-, hsource⟩ | hresults
    · rw [hsource]
      rfl
    · rw [hresults]
      exact settings.namesOf_resultsPath spec

/-- **Documents are read below the folder exactly as far as their paths do not climb.** Every fetch of a session
on a folder asks for a document of a benchmark, by the names that the suite gives for it, whatever slashes and
dots stand between them. It is looked for at the place that these names lead to from the folder. On the way the
folder is never left if and only if no beginning of the names goes up more often than down, or if nothing lies
above the folder; so it is never left without a `..`. Whatever text is read is that of a file at this place,
which then has the names of the folder in front of its own. -/
theorem documents_within_iff {settings : Settings} {query : String} {suite : Outcome} {ledger : Ledger}
    (hreachable : Ledger.Reachable settings query suite ledger) {asked : Fetch}
    (hasked : asked ∈ ledger.started) (tree : FileTree) (folder : String) :
    let root := Path.resolve folder
    let names := FileTree.namesOf asked.path
    (∃ spec, ledger.session.suite.get asked.key = .ok spec ∧ names = settings.documentNames spec asked.role) ∧
    Path.resolve (fileOf folder asked.path) = root.follow names ∧
    ((∀ beginning, beginning <+: names → root.Within (root.follow beginning)) ↔
      root.IsTop ∨ ¬ Path.Climbs names) ∧
    (".." ∉ names → ¬ Path.Climbs names) ∧
    ∀ text, fetch tree folder asked.path = .ok text → ∃ place bytes, (place, bytes) ∈ tree.files ∧
      Text.Utf8.decode? bytes = some text.toList ∧ root.follow names = ⟨false, 0, place⟩ ∧
      (¬ Path.Climbs names → root = ⟨false, 0, root.names⟩ ∧ root.names <+: place) := by
  intro root names
  have hstays := root.stays_iff names
  refine ⟨exists_spec_of_started hreachable hasked, resolve_fileOf folder asked.path, hstays,
    Path.not_climbs_of_not_mem, ?_⟩
  intro text htext
  -- files are known below the working directory only, so the folder is there too if it is not left
  obtain ⟨place, bytes, hfile, hdecode, hfound⟩ := exists_file_of_fetch htext
  rw [resolve_fileOf] at hfound
  refine ⟨place, bytes, hfile, hdecode, hfound, fun hclimbs => ?_⟩
  have hwithin : root.Within (root.follow names) := hstays.2 (Or.inr hclimbs) names List.prefix_rfl
  rw [hfound] at hwithin
  refine ⟨?_, hwithin.names⟩
  calc root = ⟨root.absolute, root.above, root.names⟩ := rfl
    _ = ⟨false, 0, root.names⟩ := by rw [← hwithin.absolute, ← hwithin.above]

/-- The results of a benchmark of the sample suite, in a folder: they are found, and the folder is not left on
the way. -/
theorem documents_within_iff_sample :
    let tree := FileTree.ofFiles [("data/bm/a.json", Text.Utf8.encode "results".toList)]
    let root := Path.resolve "data"
    ∃ ledger, Ledger.Reachable .default "bm=A" (.ok Session.sampleSuite) ledger ∧
      Ledger.sampleResults ∈ ledger.started ∧ fetch tree "data" Ledger.sampleResults.path = .ok "results" ∧
      (∀ beginning, beginning <+: ["bm", "a.json"] → root.Within (root.follow beginning)) ∧
      ∃ place bytes, (place, bytes) ∈ tree.files ∧ ["data"] <+: place := by
  intro tree root
  obtain ⟨session, hopened, -⟩ := Ledger.opened_sample_fetches
  have hreachable : Ledger.Reachable .default "bm=A" (.ok Session.sampleSuite) ⟨session, _, []⟩ :=
    .opened hopened
  have hasked : Ledger.sampleResults ∈ [Ledger.sampleSource, Ledger.sampleResults] := by simp
  have hfetch : fetch tree "data" Ledger.sampleResults.path = .ok "results" := by decide +kernel
  obtain ⟨-, -, hstays, hclimbs, hread⟩ := documents_within_iff hreachable hasked tree "data"
  have hnames : FileTree.namesOf Ledger.sampleResults.path = ["bm", "a.json"] := by decide +kernel
  have hroot : (Path.resolve "data").names = ["data"] := by decide +kernel
  rw [hnames] at hstays hclimbs hread
  obtain ⟨place, bytes, hfile, -, -, hbelow⟩ := hread "results" hfetch
  refine ⟨_, hreachable, hasked, hfetch, hstays.2 (Or.inr (hclimbs (by decide))), place, bytes, hfile, ?_⟩
  rw [← hroot]
  exact (hbelow (hclimbs (by decide))).2

/-- A suite whose source leads out of the folder: a session asks for it, and is given a file beside the
folder. -/
theorem document_outside_folder :
    let text := "\x7b\"benchmarks\":\x7b\"A\":\x7b\"results\":\"a.json\",\"src\":\"../secret.txt\"\x7d\x7d\x7d"
    let tree := FileTree.ofFiles [("data/bm/specs.json", Text.Utf8.encode text.toList),
      ("secret.txt", Text.Utf8.encode "secret".toList)]
    let settings := { Settings.default with dataRoot := "data" }
    ∃ session started, Session.opened settings "bm=A" (fetch tree "data" settings.specPath) =
        .ok (session, started) ∧
      ⟨"A", .source, "../secret.txt"⟩ ∈ started ∧ fetch tree "data" "../secret.txt" = .ok "secret" ∧
      ¬ (Path.resolve "data").Within (Path.resolve (fileOf "data" "../secret.txt")) := by
  intro text tree settings
  have hsample : (Session.opened settings "bm=A" (fetch tree "data" settings.specPath)).toOption.map Prod.snd =
      some [⟨"A", .source, "../secret.txt"⟩, ⟨"A", .results, "bm/a.json"⟩] := by
    decide +kernel
  have hplace : Path.resolve (fileOf "data" "../secret.txt") = ⟨false, 0, ["secret.txt"]⟩ := by decide +kernel
  have hroot : Path.resolve "data" = ⟨false, 0, ["data"]⟩ := by decide +kernel
  cases hopened : Session.opened settings "bm=A" (fetch tree "data" settings.specPath) with
  | error e =>
    rw [hopened] at hsample
    cases hsample
  | ok state =>
    rw [hopened] at hsample
    refine ⟨state.1, state.2, rfl, ?_, by decide +kernel, ?_⟩
    · rw [show state.2 = _ from Option.some.inj hsample]
      exact List.mem_cons_self
    · rw [hplace, hroot]
      intro hwithin
      exact absurd hwithin.names (by decide)

end Folder

end BenchScope
