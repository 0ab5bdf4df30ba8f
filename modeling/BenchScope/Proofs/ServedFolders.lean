import BenchScope.FileTree
import BenchScope.Viewer.Served
import Mathlib.Data.List.Infix
import Mathlib.Data.List.TakeWhile

/-!
# Served folders

The folders of the data root that are served are those of the suite and of the results, as far as they may
be served. They lie strictly below the data root, none of their names is hidden or belongs to the viewer,
and none of them lies within another one. Conversely, the documents below a folder that may be served are
below a folder that is served: the settings, the paths of results and the served folders agree on where
documents are.
-/

namespace BenchScope

/-! ## Slashes at the ends of a path -/

namespace Path

theorem isSlash_iff {c : Char} : isSlash c = true ↔ c = '/' := beq_iff_eq

/-- The slashes at the start of a path, and a rest that does not start with one. -/
theorem exists_leading (path : List Char) :
    (∃ m, path = List.replicate m '/' ++ path.dropWhile isSlash) ∧
      (path.dropWhile isSlash).head? ≠ some '/' := by
  induction path with
  | nil => exact ⟨⟨0, rfl⟩, by simp⟩
  | cons c path ih =>
    obtain ⟨⟨m, hm⟩, hhead⟩ := ih
    by_cases hc : c = '/'
    · rw [List.dropWhile_cons_of_pos (isSlash_iff.2 hc)]
      refine ⟨⟨m + 1, ?_⟩, hhead⟩
      rw [List.replicate_succ, List.cons_append, ← hm, hc]
    · rw [List.dropWhile_cons_of_neg (fun h => hc (isSlash_iff.1 h))]
      exact ⟨⟨0, rfl⟩, by simpa using hc⟩

/-- Slashes in front are removed, and nothing else if no more follow. -/
theorem dropWhile_replicate (m : Nat) {path : List Char} (h : path.head? ≠ some '/') :
    (List.replicate m '/' ++ path).dropWhile isSlash = path := by
  rw [List.dropWhile_append_of_pos fun c hc => isSlash_iff.2 (List.eq_of_mem_replicate hc)]
  cases path with
  | nil => rfl
  | cons c path =>
    have hc : ¬ isSlash c = true := fun hc => h (by rw [List.head?_cons, isSlash_iff.1 hc])
    exact List.dropWhile_cons_of_neg hc

theorem dropEnd_replicate (n : Nat) {path : List Char} (h : path.getLast? ≠ some '/') :
    Text.dropEnd isSlash (path ++ List.replicate n '/') = path := by
  rw [← List.head?_reverse] at h
  rw [Text.dropEnd, List.reverse_append, List.reverse_replicate, dropWhile_replicate n h,
    List.reverse_reverse]

/-- Removing slashes at the end leaves the path in front of them. -/
theorem exists_trailing (path : List Char) :
    (∃ n, path = Text.dropEnd isSlash path ++ List.replicate n '/') ∧
      (Text.dropEnd isSlash path).getLast? ≠ some '/' := by
  obtain ⟨⟨n, hn⟩, hhead⟩ := exists_leading path.reverse
  refine ⟨⟨n, ?_⟩, ?_⟩
  · have hreverse := congrArg List.reverse hn
    rwa [List.reverse_reverse, List.reverse_append, List.reverse_replicate] at hreverse
  · rwa [Text.dropEnd, List.getLast?_reverse]

/-! ## Parts -/

theorem parts_ne_nil (text : List Char) : parts text ≠ [] := by
  cases text with
  | nil => simp [parts]
  | cons c rest =>
    rw [parts]
    split
    · simp
    · split <;> simp

/-- The first part of a path goes up to the first slash. -/
theorem headD_parts (text : List Char) : (parts text).headD [] = text.takeWhile (· ≠ '/') := by
  induction text with
  | nil => rfl
  | cons c rest ih =>
    obtain ⟨part, more, hrest⟩ := List.exists_cons_of_ne_nil (parts_ne_nil rest)
    rw [hrest, List.headD_cons] at ih
    rw [parts, hrest]
    by_cases hc : c = '/'
    · simp [hc]
    · simp [hc, ih]

/-- A slash divides the parts of a path. -/
theorem parts_append_slash (first second : List Char) :
    parts (first ++ '/' :: second) = parts first ++ parts second := by
  induction first with
  | nil =>
    obtain ⟨part, more, hsecond⟩ := List.exists_cons_of_ne_nil (parts_ne_nil second)
    simp [parts, hsecond]
  | cons c first ih =>
    obtain ⟨part, more, hfirst⟩ := List.exists_cons_of_ne_nil (parts_ne_nil first)
    rw [List.cons_append, parts, ih, hfirst, List.cons_append, parts, hfirst]
    dsimp only
    split <;> rfl

theorem parts_of_not_mem {path : List Char} (h : '/' ∉ path) : parts path = [path] := by
  induction path with
  | nil => rfl
  | cons c path ih =>
    rw [List.mem_cons, not_or] at h
    rw [parts, ih h.2]
    exact if_neg (Ne.symm h.1)

end Path

namespace Settings

/-! ## Choosing folders -/

/-- A folder lies within another if it is the same, or begins with the other and a slash. -/
theorem isWithin_iff {folder outer : String} :
    isWithin folder outer = true ↔ folder = outer ∨ (outer ++ "/").toList <+: folder.toList := by
  rw [isWithin, Bool.or_eq_true, beq_iff_eq, List.isPrefixOf_iff_prefix]

/-- What lies below a folder has a longer path. -/
theorem size_lt_of_below {folder outer : String} (h : (outer ++ "/").toList <+: folder.toList) :
    outer.utf8ByteSize < folder.utf8ByteSize := by
  obtain ⟨rest, hrest⟩ := h
  have hfolder : folder = outer ++ "/" ++ String.ofList rest := by
    rw [← String.toList_inj, String.toList_append, String.toList_ofList, hrest]
  have hslash : "/".utf8ByteSize = 1 := by decide +kernel
  rw [hfolder, String.utf8ByteSize_append, String.utf8ByteSize_append, hslash]
  omega

/-- One folder is neither another one nor inside it, in either direction. -/
def Apart (first second : String) : Prop :=
  first ≠ second ∧ ¬ (first ++ "/").toList <+: second.toList ∧ ¬ (second ++ "/").toList <+: first.toList

/-- A folder is added if it may be served and lies within none that is served already. -/
theorem serve_cases (kept : List String) (folder : String) :
    (serve kept folder = kept ++ [folder] ∧ isServable folder = true ∧
        ∀ outer ∈ kept, ¬ isWithin folder outer = true) ∨
      (serve kept folder = kept ∧
        (isServable folder = true → ∃ outer ∈ kept, isWithin folder outer = true)) := by
  by_cases h : (isServable folder && !kept.any (isWithin folder)) = true
  · refine Or.inl ⟨if_pos h, ?_⟩
    rw [Bool.and_eq_true, Bool.not_eq_true', List.any_eq_false] at h
    exact h
  · refine Or.inr ⟨if_neg h, ?_⟩
    intro hservable
    rwa [hservable, Bool.true_and, Bool.not_eq_true', Bool.not_eq_false, List.any_eq_true] at h

/-- What going through candidates chooses: some that may be served, apart from each other, and such that
every other one that may be served lies within one of them. -/
structure Chosen (candidates kept : List String) : Prop where
  length_le : kept.length ≤ candidates.length
  sound : ∀ folder ∈ kept, folder ∈ candidates ∧ isServable folder = true
  covered : ∀ folder ∈ candidates, isServable folder = true →
    ∃ outer ∈ kept, isWithin folder outer = true
  apart : kept.Pairwise Apart

/-- A folder whose path is not shorter than those before it is chosen or covered. -/
theorem Chosen.serve {candidates kept : List String} {folder : String} (h : Chosen candidates kept)
    (hsize : ∀ candidate ∈ candidates, candidate.utf8ByteSize ≤ folder.utf8ByteSize) :
    Chosen (candidates ++ [folder]) (serve kept folder) := by
  have hlength := h.length_le
  have hself : isWithin folder folder = true := isWithin_iff.2 (Or.inl rfl)
  rcases serve_cases kept folder with ⟨heq, hservable, houtside⟩ | ⟨heq, hcovered⟩
  · rw [heq]
    refine ⟨by simpa using hlength, ?_, ?_, ?_⟩
    · intro other hother
      rcases List.mem_append.1 hother with hother | hother
      · exact ⟨List.mem_append_left _ (h.sound other hother).1, (h.sound other hother).2⟩
      · rw [List.mem_singleton.1 hother]
        exact ⟨by simp, hservable⟩
    · intro other hother hothers
      rcases List.mem_append.1 hother with hother | hother
      · obtain ⟨outer, houter, hwithin⟩ := h.covered other hother hothers
        exact ⟨outer, List.mem_append_left _ houter, hwithin⟩
      · rw [List.mem_singleton.1 hother]
        exact ⟨folder, by simp, hself⟩
    · rw [List.pairwise_append]
      refine ⟨h.apart, List.pairwise_singleton _ _, ?_⟩
      intro outer houter other hother
      rw [List.mem_singleton.1 hother]
      have hnot := houtside outer houter
      rw [isWithin_iff, not_or] at hnot
      -- the folders before are not longer, so none of them lies inside of this one
      have hle := hsize outer (h.sound outer houter).1
      exact ⟨Ne.symm hnot.1, hnot.2, fun hbegin => absurd (size_lt_of_below hbegin) (by omega)⟩
  · rw [heq]
    refine ⟨by simp only [List.length_append, List.length_singleton]; omega, ?_, ?_, h.apart⟩
    · intro other hother
      exact ⟨List.mem_append_left _ (h.sound other hother).1, (h.sound other hother).2⟩
    · intro other hother hothers
      rcases List.mem_append.1 hother with hother | hother
      · exact h.covered other hother hothers
      · rw [List.mem_singleton.1 hother] at hothers ⊢
        exact hcovered hothers

/-- Candidates in the order of their length are chosen rightly one after the other. -/
theorem chosen_foldl {candidates : List String}
    (hsorted : candidates.Pairwise fun first second => first.utf8ByteSize ≤ second.utf8ByteSize) :
    Chosen candidates (candidates.foldl serve []) := by
  induction candidates using List.reverseRecOn with
  | nil => exact ⟨le_rfl, by simp, by simp, List.Pairwise.nil⟩
  | append_singleton candidates folder ih =>
    rw [List.pairwise_append] at hsorted
    rw [List.foldl_append]
    exact (ih hsorted.1).serve fun candidate hcandidate =>
      hsorted.2.2 candidate hcandidate folder (by simp)

/-- The served folders are chosen among that of the suite and that of the results. -/
theorem chosen_servedFolders (settings : Settings) :
    Chosen settings.folderCandidates settings.servedFolders := by
  apply chosen_foldl
  unfold folderCandidates
  dsimp only
  split
  · rename_i h
    simpa using h.le
  · rename_i h
    simpa using not_lt.1 h

theorem mem_folderCandidates {settings : Settings} {folder : String} :
    folder ∈ settings.folderCandidates ↔
      folder = settings.suiteFolder ∨ folder = settings.localResultsFolder := by
  unfold folderCandidates
  dsimp only
  split
  · simp [or_comm]
  · simp

/-! ## Where documents are -/

/-- The folder of the suite document: its path, without slashes at the start, up to its last slash. -/
def IsSuiteFolder (settings : Settings) (folder : String) : Prop :=
  ∃ name : List Char, '/' ∉ name ∧
    (Path.withoutLeadingSlashes settings.specPath).toList = folder.toList ++ '/' :: name

/-- The folder of the results documents on the own machine: its path without the slashes at both ends. -/
def IsResultsFolder (settings : Settings) (folder : String) : Prop :=
  isRemote settings.resultsFolder = false ∧ folder.toList.head? ≠ some '/' ∧
    folder.toList.getLast? ≠ some '/' ∧
    ∃ m n, settings.resultsFolder.toList =
      List.replicate m '/' ++ (folder.toList ++ List.replicate n '/')

/-- The folder of the suite is what stands before the last slash of its path, if it is not empty. -/
theorem isSuiteFolder_iff {settings : Settings} {folder : String} :
    IsSuiteFolder settings folder ↔ folder = settings.suiteFolder ∧ folder ≠ "" := by
  have hpath : (Path.withoutLeadingSlashes settings.specPath).toList =
      settings.specPath.toList.dropWhile Path.isSlash := String.toList_ofList
  have hhead := (Path.exists_leading settings.specPath.toList).2
  rw [IsSuiteFolder, hpath, suiteFolder]
  generalize settings.specPath.toList.dropWhile Path.isSlash = path at hhead
  -- behind the last slash the search from the end stops
  have hsplit : ∀ front name : List Char, '/' ∉ name →
      (((front ++ '/' :: name).reverse.dropWhile (· ≠ '/')).drop 1).reverse = front := by
    intro front name hname
    have hpos : ∀ c ∈ name.reverse, decide (c ≠ '/') = true := by
      intro c hc
      simpa using ne_of_mem_of_not_mem (List.mem_reverse.1 hc) hname
    rw [List.reverse_append, List.reverse_cons, List.append_assoc, List.dropWhile_append_of_pos hpos]
    simp
  constructor
  · rintro ⟨name, hname, rfl⟩
    rw [hsplit folder.toList name hname, String.ofList_toList]
    refine ⟨rfl, ?_⟩
    rintro rfl
    exact hhead rfl
  · rintro ⟨rfl, hne⟩
    by_cases hmem : '/' ∈ path
    · obtain ⟨back, front, hback, hnot⟩ := List.eq_append_cons_of_mem (List.mem_reverse.2 hmem)
      obtain rfl : path = front.reverse ++ '/' :: back.reverse := by
        have hreverse := congrArg List.reverse hback
        simpa using hreverse
      refine ⟨back.reverse, by simpa using hnot, ?_⟩
      rw [hsplit _ _ (by simpa using hnot), String.toList_ofList]
    · refine absurd ?_ hne
      have hall : ∀ c ∈ path.reverse, decide (c ≠ '/') = true := by
        intro c hc
        simpa using ne_of_mem_of_not_mem (List.mem_reverse.1 hc) hmem
      rw [List.dropWhile_eq_nil_iff.2 hall]
      rfl

/-- The folder of results counts if it lies on this machine. -/
theorem isResultsFolder_iff {settings : Settings} {folder : String} :
    IsResultsFolder settings folder ↔
      isRemote settings.resultsFolder = false ∧ folder = settings.localResultsFolder := by
  refine and_congr_right fun hlocal => ?_
  rw [localResultsFolder, hlocal, if_neg (by decide)]
  constructor
  · rintro ⟨hhead, hlast, m, n, heq⟩
    have htrim : Text.dropEnds Path.isSlash settings.resultsFolder.toList = folder.toList := by
      rw [heq, Text.dropEnds]
      by_cases hempty : folder.toList = []
      -- a path of slashes only: nothing is left of it
      · have hall : ∀ c ∈ List.replicate m '/' ++ ([] ++ List.replicate n '/'), Path.isSlash c = true := by
          intro c hc
          rw [List.nil_append, List.replicate_append_replicate] at hc
          exact Path.isSlash_iff.2 (List.eq_of_mem_replicate hc)
        rw [hempty, List.dropWhile_eq_nil_iff.2 hall]
        rfl
      · rw [Path.dropWhile_replicate m, Path.dropEnd_replicate n hlast]
        rwa [List.head?_append_of_ne_nil _ hempty]
    rw [htrim, String.ofList_toList]
  · rintro rfl
    obtain ⟨⟨m, hm⟩, hhead⟩ := Path.exists_leading settings.resultsFolder.toList
    obtain ⟨⟨n, hn⟩, hlast⟩ := Path.exists_trailing (settings.resultsFolder.toList.dropWhile Path.isSlash)
    rw [String.toList_ofList, Text.dropEnds]
    refine ⟨?_, hlast, m, n, ?_⟩
    · intro hslash
      rw [hn, List.head?_append, hslash] at hhead
      exact hhead rfl
    · rw [← hn]
      exact hm

/-! ## Folders below the data root -/

/-- The path of a folder that may be served: it starts with a name that is not the viewer's, and none of its
parts is hidden. -/
structure Admissible (folder : String) : Prop where
  named : (Path.parts folder.toList).headD [] ≠ []
  free : ∀ name ∈ ["static", "api", "all"], (Path.parts folder.toList).headD [] ≠ name.toList
  visible : ∀ part ∈ Path.parts folder.toList, part.head? ≠ some '.'

theorem Admissible.toList_ne_nil {folder : String} (h : Admissible folder) : folder.toList ≠ [] := by
  intro hnil
  have hnamed := h.named
  rw [hnil] at hnamed
  exact hnamed rfl

theorem Admissible.isServable {folder : String} (h : Admissible folder) : isServable folder = true := by
  have hne : folder ≠ "" := fun hempty => h.toList_ne_nil (String.toList_eq_nil_iff.2 hempty)
  have hvisible : (folderParts folder).any (fun part => part.head? == some '.') = false := by
    rw [List.any_eq_false]
    intro part hpart
    simpa using h.visible part hpart
  have hfree : reserved.contains (String.ofList ((folderParts folder).headD [])) = false := by
    rw [Bool.eq_false_iff, ne_eq, List.contains_iff_mem]
    intro hmem
    exact h.free _ hmem (by rw [String.toList_ofList]; rfl)
  rw [Settings.isServable, hvisible, hfree]
  simpa using hne

/-- What may be served and begins with no slash is admissible. -/
theorem admissible_of_isServable {folder : String} (h : isServable folder = true)
    (hhead : folder.toList.head? ≠ some '/') : Admissible folder := by
  unfold Settings.isServable at h
  simp only [Bool.and_eq_true, bne_iff_ne, ne_eq, Bool.not_eq_true', List.any_eq_false,
    beq_iff_eq] at h
  obtain ⟨⟨hne, hvisible⟩, hfree⟩ := h
  refine ⟨?_, ?_, hvisible⟩
  · rw [Path.headD_parts]
    obtain ⟨c, rest, hfolder⟩ := List.exists_cons_of_ne_nil fun hnil => hne (String.toList_inj.1 hnil)
    have hc : c ≠ '/' := by simpa [hfolder] using hhead
    rw [hfolder, List.takeWhile_cons_of_pos (by simpa using hc)]
    simp
  · intro name hname hfirst
    rw [Bool.eq_false_iff, ne_eq, List.contains_iff_mem] at hfree
    apply hfree
    rw [folderParts, hfirst, String.ofList_toList]
    exact hname

/-- A path leads strictly down from a directory: it goes on with at least one name, and none of its further
names is hidden or leads back. -/
def Below (directory path : String) : Prop :=
  (path.toList.head? = some '/' ↔ directory.toList.head? = some '/') ∧
    ∃ names, names ≠ [] ∧ FileTree.namesOf path = FileTree.namesOf directory ++ names ∧
      ∀ name ∈ names, name.toList.head? ≠ some '.'

end Settings

namespace FileTree

/-- The names on both sides of a slash. -/
theorem namesOf_slash (first second : List Char) :
    namesOf (String.ofList (first ++ '/' :: second)) =
      namesOf (String.ofList first) ++ namesOf (String.ofList second) := by
  simp only [namesOf, String.toList_ofList, Path.parts_append_slash, List.map_append,
    List.filter_append]

/-- The names of a path below a directory come after those of the directory. -/
theorem namesOf_join (directory : String) {path : String} (h : path.toList.head? ≠ some '/') :
    namesOf (Path.join directory path) = namesOf directory ++ namesOf path := by
  have hempty : namesOf (String.ofList []) = [] := rfl
  have hpath : String.ofList path.toList = path := String.ofList_toList
  unfold Path.join
  by_cases hdirectory : directory = ""
  · rw [if_pos (Or.inr hdirectory), hdirectory]
    rfl
  rw [if_neg (not_or.2 ⟨h, hdirectory⟩)]
  split
  · rename_i hlast
    obtain ⟨front, hfront⟩ := List.getLast?_eq_some_iff.1 hlast
    obtain rfl : directory = String.ofList (front ++ ['/']) := by rw [← hfront, String.ofList_toList]
    have hjoined : String.ofList (front ++ ['/']) ++ path = String.ofList (front ++ '/' :: path.toList) := by
      rw [← String.toList_inj]
      simp
    rw [hjoined, namesOf_slash, namesOf_slash, hempty, hpath, List.append_nil]
  · have hjoined : directory ++ "/" ++ path = String.ofList (directory.toList ++ '/' :: path.toList) := by
      rw [← String.toList_inj]
      simp
    rw [hjoined, namesOf_slash, hpath, String.ofList_toList]

/-- A path below a directory is absolute if the directory is. -/
theorem head_join (directory : String) {path : String} (h : path.toList.head? ≠ some '/') :
    (Path.join directory path).toList.head? = some '/' ↔ directory.toList.head? = some '/' := by
  unfold Path.join
  by_cases hdirectory : directory = ""
  · rw [if_pos (Or.inr hdirectory), hdirectory]
    simpa using h
  have hne : directory.toList ≠ [] := fun hnil => hdirectory (String.toList_inj.1 hnil)
  rw [if_neg (not_or.2 ⟨h, hdirectory⟩)]
  split
  · rw [String.toList_append, List.head?_append_of_ne_nil _ hne]
  · rw [String.toList_append, String.toList_append, List.append_assoc, List.head?_append_of_ne_nil _ hne]

end FileTree

namespace Settings

/-- An admissible folder has a name, and its names are visible. -/
theorem Admissible.names {folder : String} (h : Admissible folder) :
    FileTree.namesOf folder ≠ [] ∧ ∀ name ∈ FileTree.namesOf folder, name.toList.head? ≠ some '.' := by
  have hvisible : ∀ name ∈ (Path.parts folder.toList).map String.ofList, name.toList.head? ≠ some '.' := by
    intro name hname
    obtain ⟨part, hpart, rfl⟩ := List.mem_map.1 hname
    rw [String.toList_ofList]
    exact h.visible part hpart
  constructor
  · obtain ⟨first, more, hparts⟩ := List.exists_cons_of_ne_nil (Path.parts_ne_nil folder.toList)
    have hnamed := h.named
    rw [hparts, List.headD_cons] at hnamed
    have hmem : String.ofList first ∈ FileTree.namesOf folder := by
      have hfirst : String.ofList first ∈ (Path.parts folder.toList).map String.ofList := by
        rw [hparts]
        exact List.mem_cons_self
      refine List.mem_filter.2 ⟨hfirst, ?_⟩
      have hne : String.ofList first ≠ "" := fun hnil => hnamed (by simpa using congrArg String.toList hnil)
      have hdot : String.ofList first ≠ "." := fun hdot => hvisible _ hfirst (by rw [hdot]; rfl)
      simp [hne, hdot]
    exact List.ne_nil_of_mem hmem
  · intro name hname
    exact hvisible name (List.mem_filter.1 hname).1

/-- An admissible folder lies strictly below the data root. -/
theorem Admissible.below {folder : String} (h : Admissible folder) (hhead : folder.toList.head? ≠ some '/')
    (root : String) : Below root (Path.join root folder) :=
  ⟨FileTree.head_join root hhead, FileTree.namesOf folder, h.names.1, FileTree.namesOf_join root hhead,
    h.names.2⟩

/-- What lies directly in the data root is not below an admissible folder. -/
theorem Admissible.not_below {folder file : String} (h : Admissible folder)
    (hhead : folder.toList.head? ≠ some '/') (hfile : '/' ∉ file.toList) (root : String) :
    ¬ Below (Path.join root folder) (Path.join root file) := by
  have hfirst : file.toList.head? ≠ some '/' := fun hslash => hfile (List.mem_of_mem_head? hslash)
  rintro ⟨-, names, hnames, heq, -⟩
  rw [FileTree.namesOf_join root hfirst, FileTree.namesOf_join root hhead, List.append_assoc] at heq
  -- the file has one name, and would have to have two
  have hone : (FileTree.namesOf file).length ≤ 1 := by
    rw [FileTree.namesOf, Path.parts_of_not_mem hfile]
    exact List.length_filter_le _ _
  have hlength := congrArg List.length (List.append_cancel_left heq)
  have hfolder := List.length_pos_of_ne_nil h.names.1
  have hmore := List.length_pos_of_ne_nil hnames
  rw [List.length_append] at hlength
  omega

/-! ## What is served -/

/-- A served folder is that of the suite or that of the results, and it may be served. -/
theorem of_mem_servedFolders {settings : Settings} {folder : String}
    (h : folder ∈ settings.servedFolders) :
    (IsSuiteFolder settings folder ∨ IsResultsFolder settings folder) ∧
      folder.toList.head? ≠ some '/' ∧ Admissible folder := by
  obtain ⟨hmem, hservable⟩ := (chosen_servedFolders settings).sound folder h
  have hne : folder ≠ "" := by
    rintro rfl
    exact absurd hservable (by decide +kernel)
  have hplace : IsSuiteFolder settings folder ∨ IsResultsFolder settings folder := by
    rcases mem_folderCandidates.1 hmem with rfl | rfl
    · exact Or.inl (isSuiteFolder_iff.2 ⟨rfl, hne⟩)
    · refine Or.inr (isResultsFolder_iff.2 ⟨?_, rfl⟩)
      -- results elsewhere on the network have no folder here
      by_contra hremote
      exact hne (if_pos (by simpa using hremote))
  have hhead : folder.toList.head? ≠ some '/' := by
    rcases hplace with ⟨name, -, hpath⟩ | hresults
    · have hpath' := (Path.exists_leading settings.specPath.toList).2
      rw [Path.withoutLeadingSlashes, String.toList_ofList] at hpath
      have hfolder : folder.toList ≠ [] := fun hnil => hne (String.toList_inj.1 hnil)
      rwa [hpath, List.head?_append_of_ne_nil _ hfolder] at hpath'
    · exact hresults.2.1
  exact ⟨hplace, hhead, admissible_of_isServable hservable hhead⟩

/-- What lies below an admissible candidate lies below a served folder. -/
theorem exists_served {settings : Settings} {folder : String} (hfolder : folder ∈ settings.folderCandidates)
    (h : Admissible folder) {path : List Char} (hpath : (folder ++ "/").toList <+: path) :
    ∃ served ∈ settings.servedFolders, (served ++ "/").toList <+: path := by
  obtain ⟨outer, houter, hwithin⟩ :=
    (chosen_servedFolders settings).covered folder hfolder h.isServable
  refine ⟨outer, houter, ?_⟩
  rcases isWithin_iff.1 hwithin with rfl | hbegin
  · exact hpath
  · rw [String.toList_append] at hpath
    exact hbegin.trans ((List.prefix_append _ _).trans hpath)

theorem toList_folder_slash (folder : String) : (folder ++ "/").toList = folder.toList ++ ['/'] :=
  String.toList_append

/-- The path of a results document, without slashes at its start, leads through the results folder. -/
theorem prefix_resultsPath {settings : Settings} {folder results : String}
    (hfolder : IsResultsFolder settings folder) (hne : folder ≠ "") (hlocal : isRemote results = false) :
    (folder ++ "/").toList <+:
      (Path.withoutLeadingSlashes (settings.resultsPath results)).toList := by
  obtain ⟨-, hhead, hlast, m, n, heq⟩ := hfolder
  have hchars : folder.toList ≠ [] := fun hnil => hne (String.toList_inj.1 hnil)
  have hresults : settings.resultsFolder ≠ "" := by
    intro hempty
    rw [hempty] at heq
    simp [hchars] at heq
  -- the slashes behind the folder are removed where it is joined to a path
  have htrailing : (Path.withoutTrailingSlashes settings.resultsFolder).toList =
      List.replicate m '/' ++ folder.toList := by
    have hlast' : (List.replicate m '/' ++ folder.toList).getLast? ≠ some '/' := by
      rwa [List.getLast?_append_of_ne_nil _ hchars]
    rw [Path.withoutTrailingSlashes, String.toList_ofList, heq, ← List.append_assoc,
      Path.dropEnd_replicate n hlast']
  have hpath : (settings.resultsPath results).toList = List.replicate m '/' ++
      (folder.toList ++ '/' :: (Path.withoutLeadingSlashes results).toList) := by
    rw [resultsPath, hlocal, if_neg (by simpa using hresults), String.toList_append,
      String.toList_append, htrailing]
    simp
  have hstart : (folder.toList ++ '/' :: (Path.withoutLeadingSlashes results).toList).head? ≠
      some '/' := by rwa [List.head?_append_of_ne_nil _ hchars]
  rw [Path.withoutLeadingSlashes, String.toList_ofList, hpath, Path.dropWhile_replicate m hstart,
    toList_folder_slash]
  exact ⟨(Path.withoutLeadingSlashes results).toList, by simp⟩

/-- At most two folders are served. Each is the folder of the suite or of the results, starts with a name
that is not the viewer's, has no hidden part, and lies strictly below the data root, so that nothing directly
in the data root is in it; and no two of them lie within each other. Conversely, if the results folder may be
served, every results document on the own machine is below a served folder, and so is the suite document if
its folder may be served. -/
theorem served_folders_sound_complete (settings : Settings) :
    settings.servedFolders.length ≤ 2 ∧
      (∀ folder ∈ settings.servedFolders,
        (IsSuiteFolder settings folder ∨ IsResultsFolder settings folder) ∧ Admissible folder ∧
          Below settings.dataRoot (Path.join settings.dataRoot folder) ∧
          ∀ file : String, '/' ∉ file.toList →
            ¬ Below (Path.join settings.dataRoot folder) (Path.join settings.dataRoot file)) ∧
      settings.servedFolders.Pairwise Apart ∧
      (∀ folder, IsResultsFolder settings folder → Admissible folder →
        ∀ results, isRemote results = false → ∃ served ∈ settings.servedFolders,
          (served ++ "/").toList <+:
            (Path.withoutLeadingSlashes (settings.resultsPath results)).toList) ∧
      ∀ folder, IsSuiteFolder settings folder → Admissible folder →
        ∃ served ∈ settings.servedFolders,
          (served ++ "/").toList <+: (Path.withoutLeadingSlashes settings.specPath).toList := by
  have hchosen := chosen_servedFolders settings
  refine ⟨?_, ?_, hchosen.apart, ?_, ?_⟩
  · have htwo : settings.folderCandidates.length = 2 := by
      unfold folderCandidates
      dsimp only
      split <;> rfl
    exact htwo ▸ hchosen.length_le
  · intro folder hfolder
    obtain ⟨hplace, hhead, hadmissible⟩ := of_mem_servedFolders hfolder
    exact ⟨hplace, hadmissible, hadmissible.below hhead settings.dataRoot,
      fun file hfile => hadmissible.not_below hhead hfile settings.dataRoot⟩
  · intro folder hfolder hadmissible results hresults
    have hne : folder ≠ "" := fun hempty => hadmissible.toList_ne_nil (String.toList_eq_nil_iff.2 hempty)
    exact exists_served (mem_folderCandidates.2 (Or.inr (isResultsFolder_iff.1 hfolder).2)) hadmissible
      (prefix_resultsPath hfolder hne hresults)
  · intro folder hfolder hadmissible
    refine exists_served (mem_folderCandidates.2 (Or.inl (isSuiteFolder_iff.1 hfolder).1)) hadmissible ?_
    obtain ⟨name, -, hpath⟩ := hfolder
    rw [hpath, toList_folder_slash]
    exact ⟨name, by simp⟩

/-- Results in a folder below that of the suite, with slashes to spare in both paths. -/
def nestedSettings : Settings :=
  { Settings.default with specPath := "//suite//specs.json", resultsFolder := "/suite//runs///" }

/-- The folder of the suite covers that of the results. -/
theorem served_folders_sound_complete_nested :
    nestedSettings.servedFolders = ["suite/"] ∧
      IsResultsFolder nestedSettings "suite//runs" ∧ IsSuiteFolder nestedSettings "suite/" ∧
      (∃ served ∈ nestedSettings.servedFolders, (served ++ "/").toList <+:
        (Path.withoutLeadingSlashes (nestedSettings.resultsPath "/sort.json")).toList) ∧
      ∃ served ∈ nestedSettings.servedFolders, (served ++ "/").toList <+:
        (Path.withoutLeadingSlashes nestedSettings.specPath).toList := by
  have hserved : nestedSettings.servedFolders = ["suite/"] := by decide +kernel
  have hresults : IsResultsFolder nestedSettings "suite//runs" :=
    ⟨by decide +kernel, by decide +kernel, by decide +kernel, 1, 3, by decide +kernel⟩
  have hsuite : IsSuiteFolder nestedSettings "suite/" :=
    ⟨"specs.json".toList, by decide +kernel, by decide +kernel⟩
  obtain ⟨-, -, -, hdocuments, hdocument⟩ := served_folders_sound_complete nestedSettings
  refine ⟨hserved, hresults, hsuite, ?_, ?_⟩
  · exact hdocuments "suite//runs" hresults
      ⟨by decide +kernel, by decide +kernel, by decide +kernel⟩ "/sort.json" (by decide +kernel)
  · exact hdocument "suite/" hsuite ⟨by decide +kernel, by decide +kernel, by decide +kernel⟩

end Settings

end BenchScope
