import BenchScope.CommandLine.Run
import BenchScope.Proofs.Selection

/-!
# Agreement of report and viewer

A report is made once, from options that are given before the suite is known; the viewer reads a query
against the suite for every page. Both are compared with one rule: which keys of the suite are asked for.
What a page shows then depends on these keys alone. The two ways differ in one case only, that of a suite
with a benchmark under the word that means every benchmark.
-/

namespace BenchScope

namespace Run

/-- Whether the suite can be fetched and read does not depend on the query. -/
theorem suite_cases (fetcher : Fetcher) (settings : Settings) :
    (∃ error : Option OpenError, ∀ query, start fetcher settings query = error.map .error) ∨
    ∃ text suite, fetcher settings.specPath = some (.ok text) ∧ Suite.parse text = .ok suite := by
  cases hfetch : fetcher settings.specPath with
  | none =>
    refine Or.inl ⟨none, fun query => ?_⟩
    unfold start
    rw [hfetch]
    rfl
  | some outcome =>
    cases outcome with
    | error e =>
      refine Or.inl ⟨some (.fetch e), fun query => ?_⟩
      rw [Viewer.start_eq hfetch]
      rfl
    | ok text =>
      cases hparse : Suite.parse text with
      | ok suite => exact Or.inr ⟨text, suite, rfl, hparse⟩
      | error e =>
        refine Or.inl ⟨some (.document e), fun query => ?_⟩
        have hopened : Session.opened settings query (.ok text) = .error (.document e) := by
          unfold Session.opened
          dsimp only
          rw [hparse]
        rw [Viewer.start_eq hfetch, hopened]
        rfl

end Run

namespace Viewer

open Http CommandLine

variable {settings : Settings} {fetcher : Fetcher} {query text : String} {suite : Suite} {run : Run}

/-! ## What a page shows -/

theorem keys_shownPanels (settings : Settings) (fetcher : Fetcher) (suite : Suite) (keys : List String) :
    (shownPanels settings fetcher suite keys).map Report.Panel.key =
      suite.keys.filter fun key => key ∈ keys := by
  rw [shownPanels, List.map_map, Suite.keys, Entries.keys, List.filter_map]
  rfl

/-- It does not matter in which order panels were asked for. -/
theorem shownPanels_congr {first second : List String}
    (h : ∀ key ∈ suite.keys, key ∈ first ↔ key ∈ second) :
    shownPanels settings fetcher suite first = shownPanels settings fetcher suite second := by
  unfold shownPanels
  congr 1
  apply List.filter_congr
  intro entry hentry
  exact decide_eq_decide.2 (h entry.1 (List.mem_map_of_mem hentry))

/-- A run that has been opened, with what is known of where it comes from. -/
theorem reachable_of_start (h : Run.start fetcher settings query = some (.ok run)) :
    ∃ text, Course.Reachable (fun fetch => fetcher fetch.path) settings query (.ok text)
      ⟨run, run.started, []⟩ ∧ run.session.settings = settings ∧ run.session.suite.keys.Nodup := by
  obtain ⟨outcome, -, hopened, harrived⟩ := Run.start_eq_ok_iff.1 h
  obtain ⟨session, started, arrived⟩ := run
  obtain ⟨hsettings, text, rfl, hparse⟩ := (Ledger.Reachable.opened hopened).origin
  dsimp only at harrived
  subst harrived
  exact ⟨text, .opened hopened, hsettings, Suite.nodup_keys_of_parse hparse⟩

/-- A run as it was opened shows the panels its query selects. -/
theorem panels_of_opensWith {keys : List String} (h : Run.OpensWith fetcher settings query keys run)
    (style : Report.LinkStyle) :
    ((settled settings fetcher run).page style).panels =
      shownPanels settings fetcher run.session.suite keys := by
  obtain ⟨text, hreachable, hsettings, hnodup⟩ := reachable_of_start h.start
  rw [panels_settled hreachable hsettings h.arrived hnodup, h.panels]

/-- A run that was then asked for everything shows every panel. -/
theorem panels_of_requestAll (h : Run.start fetcher settings query = some (.ok run))
    (style : Report.LinkStyle) :
    ((settled settings fetcher run.requestAll).page style).panels =
      shownPanels settings fetcher run.session.suite run.session.suite.keys := by
  obtain ⟨text, hreachable, hsettings, hnodup⟩ := reachable_of_start h
  obtain ⟨outcome, -, hopened, harrived⟩ := Run.start_eq_ok_iff.1 h
  have hext := Session.Extends.requestAll run.session
  have hall : run.requestAll.session = run.session.requestAll.1 := rfl
  have hpanels := panels_settled (hreachable.step (.requestAll _)) (hext.settings.trans hsettings)
    harrived (hext.suite ▸ hnodup) style
  dsimp only [Course.extend] at hpanels
  rw [hpanels, hall, hext.suite]
  apply shownPanels_congr
  intro key hkey
  rw [Session.mem_keys_requestAll (.opened hopened)]

/-! ## One rule for both -/

/-- An answer where the suite can be read: the page with the panels of the keys that are asked for, or a
refusal of a key that is not defined. -/
inductive Answers {ε : Type} (settings : Settings) (fetcher : Fetcher) (suite : Suite)
    (refusal : OpenError → ε) :
    Except MissingKey (List String) → Option (Except ε Report.Page) → Prop
  | shown {keys : List String} {page : Report.Page}
    (h : page.panels = shownPanels settings fetcher suite keys) :
    Answers settings fetcher suite refusal (.ok keys) (some (.ok page))
  | refused (e : MissingKey) :
    Answers settings fetcher suite refusal (.error e) (some (.error (refusal (.missingKey e))))

/-- Where no key is refused, there is a page. -/
theorem Answers.exists_page {ε : Type} {refusal : OpenError → ε} {keys : List String}
    {answer : Option (Except ε Report.Page)}
    (h : Answers settings fetcher suite refusal (.ok keys) answer) :
    ∃ page, answer = some (.ok page) ∧ page.panels = shownPanels settings fetcher suite keys := by
  cases h with
  | shown hpanels => exact ⟨_, rfl, hpanels⟩

/-- The keys that a selection on the command line asks for. -/
def askedBy (suite : Suite) : Selection → Except MissingKey (List String)
  | .nothing => .ok []
  | .one key => suite.selection (some key)
  | .everything => .ok suite.keys

/-- The query that a selection is turned into selects what it names. -/
theorem get?_selectionQuery (choice : Selection) (debug : Bool) :
    (Query.parse (selectionQuery choice debug).toText).get? Query.benchmarkName =
      match choice with
      | .one key => some key
      | _ => none := by
  have hnamed : ∀ query : Query, query.WellNamed →
      (if debug then query.set Query.debugName "1" else query).WellNamed := by
    intro query hquery
    cases debug with
    | false => exact hquery
    | true => exact hquery.set (by decide) "1"
  -- asking for the log does not change what is selected
  have hget : ∀ query : Query, (if debug then query.set Query.debugName "1" else query).get?
      Query.benchmarkName = query.get? Query.benchmarkName := by
    intro query
    cases debug with
    | false => rfl
    | true => exact (Query.get?_set query _ _ _).trans (if_neg (by decide))
  unfold selectionQuery
  rw [Query.parse_toText (hnamed _ ?named), hget]
  case named =>
    cases choice with
    | nothing => exact Query.wellNamed_empty
    | everything => exact Query.wellNamed_empty
    | one key => exact Query.wellNamed_empty.set (by decide) key
  cases choice with
  | nothing => rfl
  | everything => rfl
  | one key => exact (Query.get?_set _ _ _ _).trans (if_pos rfl)

section Readable

variable (hfetch : fetcher settings.specPath = some (.ok text)) (hparse : Suite.parse text = .ok suite)

include hfetch hparse

/-- The page of a query shows what its value stands for. -/
theorem answers_queryPage (query : String) :
    Answers settings fetcher suite Problem.ofOpenError
      (suite.selection ((Query.parse query).get? Query.benchmarkName))
      (queryPage settings fetcher query) := by
  unfold queryPage withSession
  cases hselection : suite.selection ((Query.parse query).get? Query.benchmarkName) with
  | error e =>
    rw [Run.start_of_selection_error hfetch hparse hselection]
    exact .refused e
  | ok keys =>
    obtain ⟨run, hopens, hsuite, -⟩ := Run.opensWith_of_selection hfetch hparse hselection
    rw [hopens.start]
    exact .shown (hsuite ▸ panels_of_opensWith hopens .query)

/-- A query without its selection opens a run that has asked for nothing. -/
theorem exists_start_of_unselected (h : (Query.parse query).get? Query.benchmarkName = none) :
    ∃ run, Run.OpensWith fetcher settings query [] run ∧ run.session.suite = suite := by
  have hselection : suite.selection ((Query.parse query).get? Query.benchmarkName) = .ok [] := by
    rw [h]
    rfl
  obtain ⟨run, hopens, hsuite, -⟩ := Run.opensWith_of_selection hfetch hparse hselection
  exact ⟨run, hopens, hsuite⟩

/-- The page of all benchmarks shows them all, whatever its query says. -/
theorem answers_allPage (query : String) :
    Answers settings fetcher suite Problem.ofOpenError (.ok suite.keys)
      (allPage settings fetcher query) := by
  have hnone : (Query.parse (withoutSelection query)).get? Query.benchmarkName = none := by
    have hnamed := (Query.wellNamed_parse query).erase Query.benchmarkName
    rw [withoutSelection, Query.parse_toText hnamed, Query.get?, Query.erase, Entries.get?_eq_none_iff,
      Entries.keys_erase, List.mem_filter]
    simp
  obtain ⟨run, hopens, hsuite⟩ := exists_start_of_unselected hfetch hparse hnone
  unfold allPage withSession
  rw [hopens.start]
  exact .shown (hsuite ▸ panels_of_requestAll hopens.start .anchor)

/-- The page of a report shows what the options ask for. -/
theorem answers_reportPage (choice : Selection) (debug : Bool) :
    Answers settings fetcher suite id (askedBy suite choice)
      (reportPage fetcher settings choice debug) := by
  have hget := get?_selectionQuery choice debug
  unfold reportPage
  cases choice with
  | everything =>
    obtain ⟨run, hopens, hsuite⟩ := exists_start_of_unselected hfetch hparse hget
    rw [hopens.start]
    exact .shown (hsuite ▸ panels_of_requestAll hopens.start .standalone)
  | nothing =>
    obtain ⟨run, hopens, hsuite⟩ := exists_start_of_unselected hfetch hparse hget
    rw [hopens.start]
    exact .shown (hsuite ▸ panels_of_opensWith hopens .standalone)
  | one key =>
    dsimp only at hget
    cases hselection : suite.selection (some key) with
    | error e =>
      rw [Run.start_of_selection_error hfetch hparse (hget ▸ hselection), askedBy, hselection]
      exact .refused e
    | ok keys =>
      obtain ⟨run, hopens, hsuite, -⟩ := Run.opensWith_of_selection hfetch hparse (hget ▸ hselection)
      rw [hopens.start, askedBy, hselection]
      exact .shown (hsuite ▸ panels_of_opensWith hopens .standalone)

end Readable

/-! ## Comparing a report with an answer -/

/-- A report and an answer of the viewer that show the same: both wait for the suite, both are refused for
the same reason, or both are pages with the same panels. -/
inductive Agrees : Option (Except OpenError Report.Page) → Answer Report.Page → Prop
  | waiting : Agrees none none
  | refused (e : OpenError) : Agrees (some (.error e)) (some (.error (.ofOpenError e)))
  | shown {report page : Report.Page} (h : report.panels = page.panels) :
    Agrees (some (.ok report)) (some (.ok page))

/-- What asks for the same keys shows the same. -/
theorem agrees_of_answers {asked : Except MissingKey (List String)}
    {report : Option (Except OpenError Report.Page)} {answer : Answer Report.Page}
    (hreport : Answers settings fetcher suite id asked report)
    (hanswer : Answers settings fetcher suite Problem.ofOpenError asked answer) :
    Agrees report answer := by
  cases hreport with
  | refused e =>
    cases hanswer with
    | refused => exact .refused (.missingKey e)
  | shown hshown =>
    cases hanswer with
    | shown hpage => exact .shown (hshown.trans hpage.symm)

/-- Where the suite cannot be read, it does not matter what is asked for. -/
theorem agrees_of_start {error : Option OpenError}
    (hstart : ∀ query, Run.start fetcher settings query = error.map .error) (choice : Selection)
    (debug : Bool) (query : String) (answer : Run → Except Problem Report.Page) :
    Agrees (reportPage fetcher settings choice debug) (withSession settings fetcher query answer) := by
  unfold reportPage withSession
  rw [hstart, hstart]
  cases error with
  | none => exact .waiting
  | some e => exact .refused e

/-- A report of everything shows what the page of all benchmarks shows. -/
theorem agrees_allPage (settings : Settings) (fetcher : Fetcher) (debug : Bool) (query : String) :
    Agrees (reportPage fetcher settings .everything debug) (allPage settings fetcher query) := by
  rcases Run.suite_cases fetcher settings with ⟨error, hstart⟩ | ⟨text, suite, hfetch, hparse⟩
  · exact agrees_of_start hstart _ _ _ _
  · exact agrees_of_answers (answers_reportPage hfetch hparse .everything debug)
      (answers_allPage hfetch hparse query)

/-- A report without a selection shows what the page without a query shows. -/
theorem agrees_unselected (settings : Settings) (fetcher : Fetcher) (debug : Bool) :
    Agrees (reportPage fetcher settings .nothing debug) (queryPage settings fetcher "") := by
  rcases Run.suite_cases fetcher settings with ⟨error, hstart⟩ | ⟨text, suite, hfetch, hparse⟩
  · exact agrees_of_start hstart _ _ _ _
  · have hblank : (Query.parse "").get? Query.benchmarkName = none := by decide +kernel
    have hanswer := answers_queryPage hfetch hparse ""
    rw [hblank] at hanswer
    exact agrees_of_answers (answers_reportPage hfetch hparse .nothing debug) hanswer

/-- A report without a selection has no panels. -/
theorem panels_of_nothing {debug : Bool} {page : Report.Page}
    (h : reportPage fetcher settings .nothing debug = some (.ok page)) : page.panels = [] := by
  rcases Run.suite_cases fetcher settings with ⟨error, hstart⟩ | ⟨text, suite, hfetch, hparse⟩
  · unfold reportPage at h
    rw [hstart] at h
    cases error <;> cases h
  · have hreport := answers_reportPage hfetch hparse .nothing debug
    rw [h] at hreport
    obtain ⟨shown, hshown, hpanels⟩ := hreport.exists_page
    cases hshown
    rw [hpanels, shownPanels, List.filter_eq_nil_iff.2 (by simp)]
    rfl

/-- A benchmark has the key that stands for every benchmark, and it is not the only one. -/
structure Ambiguous (suite : Suite) (key : String) : Prop where
  every : key = Session.everyKey
  defined : key ∈ suite.keys
  others : ∃ other ∈ suite.keys, other ≠ key

/-- The selection of options that name a key. -/
theorem selection_of_benchmark {options : RenderOptions} {key : String}
    (hkey : options.benchmark = some key) (hall : options.all = false) :
    options.selection = if key = Session.everyKey then .everything else .one key := by
  unfold RenderOptions.selection
  rw [hkey, hall]
  rfl

/-- Options and query that name the same key ask for the same panels if the key is not ambiguous. -/
theorem agrees_of_not_ambiguous (hfetch : fetcher settings.specPath = some (.ok text))
    (hparse : Suite.parse text = .ok suite) {options : RenderOptions} {key : String}
    (hkey : options.benchmark = some key) (hall : options.all = false)
    (hclear : ¬ Ambiguous suite key) :
    Agrees (reportPage fetcher settings options.selection options.debug)
      (queryPage settings fetcher (selection key)) := by
  have hreport := answers_reportPage hfetch hparse options.selection options.debug
  have hanswer := answers_queryPage hfetch hparse (selection key)
  rw [get?_selection] at hanswer
  rw [selection_of_benchmark hkey hall] at hreport ⊢
  by_cases hevery : key = Session.everyKey
  · rw [if_pos hevery] at hreport ⊢
    have hblank : key ≠ "" := by
      rw [hevery]
      decide
    rw [Suite.selection, if_neg hblank] at hanswer
    by_cases hdefined : key ∈ suite.keys
    · -- the key is the only one, so that asking for it is asking for all
      rw [if_pos hdefined] at hanswer
      obtain ⟨shown, hshown, hpanels⟩ := hreport.exists_page
      obtain ⟨page, hpage, hpagePanels⟩ := hanswer.exists_page
      rw [hshown, hpage]
      refine .shown ?_
      rw [hpanels, hpagePanels]
      apply shownPanels_congr
      intro other hother
      have honly : other = key := by
        by_contra hne
        exact hclear ⟨hevery, hdefined, other, hother, hne⟩
      exact ⟨fun _ => honly ▸ List.mem_singleton_self key, fun _ => hother⟩
    · rw [if_neg hdefined, if_pos hevery] at hanswer
      exact agrees_of_answers hreport hanswer
  · rw [if_neg hevery] at hreport ⊢
    exact agrees_of_answers hreport hanswer

/-- With an ambiguous key, the report shows every benchmark and the page of the query one. -/
theorem pages_of_ambiguous (hfetch : fetcher settings.specPath = some (.ok text))
    (hparse : Suite.parse text = .ok suite) {options : RenderOptions} {key : String}
    (hkey : options.benchmark = some key) (hall : options.all = false)
    (hambiguous : Ambiguous suite key) :
    ∃ report page, reportPage fetcher settings options.selection options.debug = some (.ok report) ∧
      queryPage settings fetcher (selection key) = some (.ok page) ∧
      report.panels.map Report.Panel.key = suite.keys ∧
      page.panels.map Report.Panel.key = [key] := by
  have hblank : key ≠ "" := by
    rw [hambiguous.every]
    decide
  have hanswer := answers_queryPage hfetch hparse (selection key)
  rw [get?_selection, Suite.selection, if_neg hblank, if_pos hambiguous.defined] at hanswer
  have hreport := answers_reportPage hfetch hparse options.selection options.debug
  rw [selection_of_benchmark hkey hall, if_pos hambiguous.every] at hreport ⊢
  obtain ⟨report, hshown, hpanels⟩ := hreport.exists_page
  obtain ⟨page, hpage, hpagePanels⟩ := hanswer.exists_page
  refine ⟨report, page, hshown, hpage, ?_, ?_⟩
  · rw [hpanels, keys_shownPanels, List.filter_eq_self]
    intro other hother
    exact decide_eq_true hother
  -- in a page for one key the panel of the key is shown, and it is there once
  · have hone : (fun other => decide (other ∈ [key])) = fun other => other == key := by
      funext other
      rw [Bool.eq_iff_iff, decide_eq_true_iff, List.mem_singleton, beq_iff_eq]
    rw [hpagePanels, keys_shownPanels, hone, List.filter_beq,
      List.count_eq_one_of_mem (Suite.nodup_keys_of_parse hparse) hambiguous.defined]
    rfl

/-- Pages that agree have the same keys. -/
theorem Agrees.keys_eq {report page : Report.Page}
    (h : Agrees (some (.ok report)) (some (.ok page))) :
    report.panels.map Report.Panel.key = page.panels.map Report.Panel.key := by
  cases h with
  | shown hpanels => rw [hpanels]

/-- An answer is sent with status 404 if it refuses a key that is missing, and only then. -/
theorem Site.status_answerResponse_iff (site : Site) (answer : Answer Report.Page) :
    (∃ response, (site.answerResponse answer Site.pageResponse).map timed = some response ∧
      response.status = 404) ↔ ∃ key, answer = some (.error (.missingBenchmark key)) := by
  cases answer with
  | none => simp [Site.answerResponse]
  | some result =>
    cases result with
    | ok page => simp [Site.answerResponse, Site.pageResponse, Response.withBody, Response.bare, timed]
    | error problem =>
      cases problem <;>
        simp [Site.answerResponse, Site.problemResponse, Response.withBody, Response.bare, timed,
          Problem.status]

/-- What agrees misses a key together. -/
theorem Agrees.missing_iff {report : Option (Except OpenError Report.Page)}
    {answer : Answer Report.Page} (h : Agrees report answer) :
    (∃ e, report = some (.error (.missingKey e))) ↔
      ∃ key, answer = some (.error (.missingBenchmark key)) := by
  cases h with
  | waiting => simp
  | shown h => simp
  | refused e =>
    cases e with
    | missingKey e => simp [Problem.ofOpenError]
    | fetch e => simp [Problem.ofOpenError]
    | document e => simp [Problem.ofOpenError]

/-- Options and query that name the same key show the same exactly if the key is not ambiguous. -/
theorem agrees_queryPage_iff {options : RenderOptions} {key : String}
    (hkey : options.benchmark = some key) (hall : options.all = false) :
    Agrees (reportPage fetcher settings options.selection options.debug)
      (queryPage settings fetcher (selection key)) ↔
    ¬ ∃ text suite, fetcher settings.specPath = some (.ok text) ∧ Suite.parse text = .ok suite ∧
      Ambiguous suite key := by
  constructor
  · rintro hagrees ⟨text, suite, hfetch, hparse, hambiguous⟩
    obtain ⟨report, page, hreport, hpage, hkeys, hone⟩ :=
      pages_of_ambiguous hfetch hparse hkey hall hambiguous
    rw [hreport, hpage] at hagrees
    obtain ⟨other, hother, hne⟩ := hambiguous.others
    rw [← hkeys, hagrees.keys_eq, hone] at hother
    exact hne (List.mem_singleton.1 hother)
  · intro hclear
    rcases Run.suite_cases fetcher settings with ⟨error, hstart⟩ | ⟨text, suite, hfetch, hparse⟩
    · exact agrees_of_start hstart _ _ _ _
    · exact agrees_of_not_ambiguous hfetch hparse hkey hall
        fun hambiguous => hclear ⟨text, suite, hfetch, hparse, hambiguous⟩

/-- Options and query that name the same key miss it together. -/
theorem missing_queryPage_iff {options : RenderOptions} {key : String}
    (hkey : options.benchmark = some key) (hall : options.all = false) :
    (∃ e, reportPage fetcher settings options.selection options.debug =
      some (.error (.missingKey e))) ↔
    ∃ missing, queryPage settings fetcher (selection key) =
      some (.error (.missingBenchmark missing)) := by
  by_cases hambiguous : ∃ text suite, fetcher settings.specPath = some (.ok text) ∧
      Suite.parse text = .ok suite ∧ Ambiguous suite key
  · -- both show a page
    obtain ⟨text, suite, hfetch, hparse, hambiguous⟩ := hambiguous
    obtain ⟨report, page, hreport, hpage, -, -⟩ :=
      pages_of_ambiguous hfetch hparse hkey hall hambiguous
    rw [hreport, hpage]
    simp
  · exact ((agrees_queryPage_iff hkey hall).2 hambiguous).missing_iff

/-- **Agreement of report and viewer.** For a site, whatever its settings are and whatever its fetcher
gives, and for all options of a report:

* a report of the benchmark with a key agrees with the page of the query that selects this key, unless the
  key is the word for every benchmark and the suite has a benchmark of this name and another one. In this
  case, and in no other, the report shows every benchmark and the page only the one. In any case the report
  misses a key exactly if the request for the page is answered with status 404;
* a report of everything agrees with the page of all benchmarks;
* a report without a selection agrees with the page without a query, and has no panels. -/
theorem report_agrees_with_viewer (site : Site) (options : RenderOptions) :
    let report := reportPage site.fetcher site.settings options.selection options.debug
    (∀ key, options.benchmark = some key → options.all = false →
      let answer := queryPage site.settings site.fetcher (selection key)
      (Agrees report answer ↔ ¬ ∃ text suite, site.fetcher site.settings.specPath = some (.ok text) ∧
        Suite.parse text = .ok suite ∧ Ambiguous suite key) ∧
      (∀ text suite, site.fetcher site.settings.specPath = some (.ok text) →
        Suite.parse text = .ok suite → Ambiguous suite key →
        ∃ shown page, report = some (.ok shown) ∧ answer = some (.ok page) ∧
          shown.panels.map Report.Panel.key = suite.keys ∧
          page.panels.map Report.Panel.key = [key]) ∧
      (routeError? site.settings = none → ∀ request, Gets request "/".toList →
        request.query = selection key →
        site.respond request = (site.answerResponse answer Site.pageResponse).map timed ∧
        ((∃ e, report = some (.error (.missingKey e))) ↔
          ∃ response, site.respond request = some response ∧ response.status = 404))) ∧
    (options.all = true → ∀ query,
      let answer := allPage site.settings site.fetcher query
      Agrees report answer ∧
      (routeError? site.settings = none → ∀ request, Gets request "/all".toList →
        request.query = query →
        site.respond request = (site.answerResponse answer Site.pageResponse).map timed)) ∧
    (options.benchmark = none → options.all = false →
      let answer := queryPage site.settings site.fetcher ""
      Agrees report answer ∧ (∀ page, report = some (.ok page) → page.panels = []) ∧
      (routeError? site.settings = none → ∀ request, Gets request "/".toList →
        request.query = "" →
        site.respond request = (site.answerResponse answer Site.pageResponse).map timed)) := by
  intro report
  refine ⟨?_, ?_, ?_⟩
  · intro key hkey hall answer
    refine ⟨agrees_queryPage_iff hkey hall, ?_, ?_⟩
    · intro text suite hfetch hparse hambiguous
      exact pages_of_ambiguous hfetch hparse hkey hall hambiguous
    · intro hroutes request hrequest hquery
      have hrespond : site.respond request =
          (site.answerResponse answer Site.pageResponse).map timed := by
        rw [Site.respond_index hroutes hrequest, hquery]
      refine ⟨hrespond, ?_⟩
      -- the answer of the viewer has this status for a missing key only
      rw [hrespond, Site.status_answerResponse_iff]
      exact missing_queryPage_iff hkey hall
  · intro hall query answer
    have hchoice : options.selection = .everything := by
      unfold RenderOptions.selection
      rw [hall]
    refine ⟨?_, ?_⟩
    · dsimp only [report]
      rw [hchoice]
      exact agrees_allPage site.settings site.fetcher options.debug query
    · rintro hroutes request hrequest rfl
      exact Site.respond_all hroutes hrequest
  · intro hnone hall answer
    have hchoice : options.selection = .nothing := by
      unfold RenderOptions.selection
      rw [hnone, hall]
    refine ⟨?_, ?_, ?_⟩
    · dsimp only [report]
      rw [hchoice]
      exact agrees_unselected site.settings site.fetcher options.debug
    · intro page hpage
      dsimp only [report] at hpage
      rw [hchoice] at hpage
      exact panels_of_nothing hpage
    · intro hroutes request hrequest hquery
      rw [Site.respond_index hroutes hrequest, hquery]

/-- A suite with a benchmark under the word for every benchmark, and another one. -/
def ambiguousSuite : String :=
  "\x7b\"name\":\"demo\",\"benchmarks\":\x7b\"all\":\x7b\"results\":\"a.json\"\x7d," ++
    "\"B\":\x7b\"results\":\"b.json\"\x7d\x7d\x7d"

/-- A site with this suite and no other document. -/
def ambiguousSite : Site where
  settings := .default
  fetcher path := some (if path = "bm/specs.json" then .ok ambiguousSuite else .error (.notFound path))
  disk := ⟨⟨[], []⟩, 0⟩
  time := ""

/-- Options that name a benchmark. -/
def namingOptions (key : String) : RenderOptions := ⟨some key, false, none, .html, "", false⟩

/-- The report of `all` shows both benchmarks and the page of the query only one. The report of `B` and
the page of `B` show the same. -/
theorem report_agrees_with_viewer_ambiguous :
    (∃ shown page,
      reportPage ambiguousSite.fetcher .default (namingOptions "all").selection false =
        some (.ok shown) ∧
      queryPage .default ambiguousSite.fetcher "bm=all" = some (.ok page) ∧
      shown.panels.map Report.Panel.key = ["all", "B"] ∧
      page.panels.map Report.Panel.key = ["all"]) ∧
    Agrees (reportPage ambiguousSite.fetcher .default (namingOptions "B").selection false)
      (queryPage .default ambiguousSite.fetcher "bm=B") := by
  have hfetch : ambiguousSite.fetcher ambiguousSite.settings.specPath = some (.ok ambiguousSuite) := rfl
  have hkeys : (Suite.parse ambiguousSuite).toOption.map Suite.keys = some ["all", "B"] := by
    decide +kernel
  have hqueries : selection "all" = "bm=all" ∧ selection "B" = "bm=B" := by decide +kernel
  obtain ⟨suite, hparse, hsuite⟩ := exists_ok_of_toOption hkeys
  refine ⟨?_, ?_⟩
  · obtain ⟨hone, -⟩ := report_agrees_with_viewer ambiguousSite (namingOptions "all")
    obtain ⟨-, hambiguous, -⟩ := hone "all" rfl rfl
    have hall : Ambiguous suite "all" := by
      refine ⟨rfl, ?_, "B", ?_, by decide⟩ <;> rw [hsuite] <;> decide
    obtain ⟨shown, page, hshown, hpage, hpanels, hpagePanels⟩ :=
      hambiguous ambiguousSuite suite hfetch hparse hall
    exact ⟨shown, page, hshown, hqueries.1 ▸ hpage, hsuite ▸ hpanels, hpagePanels⟩
  · obtain ⟨hone, -⟩ := report_agrees_with_viewer ambiguousSite (namingOptions "B")
    obtain ⟨hagrees, -⟩ := hone "B" rfl rfl
    rw [hqueries.2] at hagrees
    refine hagrees.2 ?_
    rintro ⟨text, other, -, -, hambiguous⟩
    exact absurd hambiguous.every (by decide)

end Viewer

end BenchScope
