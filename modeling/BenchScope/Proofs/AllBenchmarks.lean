import BenchScope.Proofs.ElementIds
import BenchScope.Proofs.Reports

/-!
# The page of all benchmarks

The page of all benchmarks is asked for with a query like any other page. The query is read, its selection
is removed, and what is left is written and read again when the session is opened. The main statement says
that nothing of a selection gets through this way, however it was spelled, and that all else does: the page
shows every benchmark, and there is a debug log exactly if the settings or the query turn it on.
-/

namespace BenchScope

/-! ## Queries without a selection -/

/-- Of the values of a name, the last one is found from the end. -/
theorem Entries.get?_reverse_eq_some_iff {α : Type} {entries : Entries α} {key : String} {value : α} :
    Entries.get? entries.reverse key = some value ↔
      ∃ before after, entries = before ++ (key, value) :: after ∧ key ∉ after.map Prod.fst := by
  constructor
  · intro h
    obtain ⟨entry, hfind, rfl⟩ := Option.map_eq_some_iff.1 h
    obtain ⟨hkey, after, before, heq, hafter⟩ := List.find?_eq_some_iff_append.1 hfind
    have hsplit : entries = before.reverse ++ entry :: after.reverse := by
      rw [← List.reverse_inj, heq]
      simp
    rw [beq_iff_eq] at hkey
    subst hkey
    refine ⟨before.reverse, after.reverse, hsplit, ?_⟩
    intro hmem
    obtain ⟨other, hother, hsame⟩ := List.mem_map.1 hmem
    have hne := hafter other (List.mem_reverse.1 hother)
    simp [hsame] at hne
  · rintro ⟨before, after, rfl, hafter⟩
    exact Entries.get?_reverse_of_last value hafter

namespace Query

/-- Whether a value turns a parameter on. -/
def TurnsOn (value : String) : Prop := Text.lowerAscii (Text.trim value) ∉ falsyValues

/-- A parameter is on if the last pair with its name in the text turns it on. -/
theorem isTruthy_parse_iff (text : String) {name : String} (hname : name ≠ "") :
    (parse text).isTruthy name = true ↔
      ∃ before value after, Form.parse (withoutMark text.toList) = before ++ (name, value) :: after ∧
        name ∉ after.map Prod.fst ∧ TurnsOn value := by
  have hvalue : (parse text).isTruthy name = true ↔
      ∃ value, (parse text).get? name = some value ∧ TurnsOn value := by
    unfold isTruthy TurnsOn
    cases (parse text).get? name with
    | none => simp
    | some value => simp
  rw [hvalue]
  simp only [get?_parse text hname, Entries.get?_reverse_eq_some_iff]
  constructor
  · rintro ⟨value, ⟨before, after, hpairs, hlast⟩, hon⟩
    exact ⟨before, value, after, hpairs, hlast, hon⟩
  · rintro ⟨before, value, after, hpairs, hlast, hon⟩
    exact ⟨value, ⟨before, after, hpairs, hlast⟩, hon⟩

/-- Removing one parameter leaves it to the others whether they are on. -/
theorem isTruthy_erase {query : Query} {name other : String} (h : name ≠ other) :
    (query.erase name).isTruthy other = query.isTruthy other := by
  unfold isTruthy
  rw [get?_erase, if_neg h]

end Query

namespace Viewer

/-- What is left of a query is the query that was read, without the selection. -/
theorem parse_withoutSelection (query : String) :
    Query.parse (withoutSelection query) = (Query.parse query).erase Query.benchmarkName :=
  Query.parse_toText ((Query.wellNamed_parse query).erase Query.benchmarkName)

end Viewer

/-! ## Logs of sessions that had time to settle -/

namespace Session

theorem KeepsView.applyWhile (session : Session) (arrived : List Event) :
    KeepsView session (Run.applyWhile session arrived).1 := by
  induction arrived generalizing session with
  | nil => exact .refl session
  | cons event rest ih =>
    unfold Run.applyWhile
    by_cases hzero : session.inFlight = 0
    · rw [if_pos hzero]
      exact .refl session
    · rw [if_neg hzero]
      exact (KeepsView.apply session event).trans (ih (session.apply event))

theorem KeepsView.drain (fetcher : Fetcher) (run : Run) :
    KeepsView run.session (run.drain fetcher).session := by
  have hfirst : KeepsView run.session run.drainArrived.session := .applyWhile run.session run.arrived
  unfold Run.drain
  by_cases hsettled : run.drainArrived.isSettled
  · rw [if_pos hsettled]
    exact hfirst
  · rw [if_neg hsettled]
    exact hfirst.trans (.applyWhile run.drainArrived.session (run.drainArrived.wait fetcher).arrived)

/-- Waiting keeps the query, and whether there is a log. -/
theorem KeepsView.settled (settings : Settings) (fetcher : Fetcher) (run : Run) :
    KeepsView run.session (Viewer.settled settings fetcher run) := by
  unfold Viewer.settled Run.drainFor
  by_cases hzero : settings.settleTimeout = 0
  · rw [if_pos hzero]
    exact .applyWhile run.session run.arrived
  · rw [if_neg hzero]
    exact .drain fetcher run

end Session

namespace Report

/-- A reader of the document of a page finds the element of the debug log exactly if there is a log. -/
theorem log_identified_iff {page : Page} (hcells : ∀ c ∈ page.cells, Markup.Inert c.display.toList)
    (base : String) :
    ("pre", "dbg") ∈ Markup.identified (Html.render page base) ↔ page.debugLog.isSome = true := by
  have hlog : ∀ e : Element, e.mark = ("pre", "dbg") ↔ e = .frame .log := by
    intro e
    cases e with
    | frame f => cases f <;> simp [Element.mark, Element.tag, Frame.tag, Element.elementId, Frame.elementId]
    | panel key => simp [Element.mark, Element.tag]
    | part key part => cases part <;> simp [Element.mark, Element.tag, Part.tag]
  rw [Html.identified_render hcells, List.mem_map]
  simp only [hlog]
  constructor
  · rintro ⟨e, hmem, rfl⟩
    -- no panel has an element of the frame
    have hpanels : Element.frame .log ∉ page.panels.flatMap Panel.elements := by
      intro hpanel
      obtain ⟨p, -, hp⟩ := List.mem_flatMap.1 hpanel
      cases owner_of_mem_elements hp
    cases hdebug : page.debugLog with
    | some lines => rfl
    | none =>
      rw [Page.elements, hdebug] at hmem
      simp [hpanels] at hmem
  · intro hsome
    obtain ⟨lines, hlines⟩ := Option.isSome_iff_exists.1 hsome
    refine ⟨_, ?_, rfl⟩
    rw [Page.elements, hlines]
    simp

end Report

namespace Viewer

open Http

/-- Whether there is a debug log on the page of a query: the settings ask for one, or the last value that
the query gives turns it on. -/
def Logs (settings : Settings) (query : String) : Prop :=
  settings.debug = true ∨
    ∃ before value after,
      Query.Form.parse (Query.withoutMark query.toList) = before ++ (Query.debugName, value) :: after ∧
      Query.debugName ∉ after.map Prod.fst ∧ Query.TurnsOn value

theorem logs_iff (settings : Settings) (query : String) :
    Logs settings query ↔
      (settings.debug || (Query.parse query).isTruthy Query.debugName) = true := by
  rw [Logs, Bool.or_eq_true, Query.isTruthy_parse_iff query (by decide)]

variable {settings : Settings} {fetcher : Fetcher} {text : String} {suite : Suite}

/-- The page that a query selects has a log exactly if the settings or the query ask for one. -/
theorem debugLog_queryPage_iff {query : String} {page : Report.Page}
    (h : queryPage settings fetcher query = some (.ok page)) :
    page.debugLog.isSome = true ↔ Logs settings query := by
  unfold queryPage withSession at h
  obtain ⟨started, hstart, hpage⟩ := Option.map_eq_some_iff.1 h
  cases started with
  | error e => cases hpage
  | ok run =>
    obtain ⟨-, -, -, -, -, -, hlogging⟩ := Run.start_cases hstart
    obtain rfl := Except.ok.inj hpage
    have hkeeps := Session.KeepsView.settled settings fetcher run
    rw [logs_iff, ← hlogging, ← hkeeps.logging]
    rfl

/-- The page of all benchmarks, with its panels, its sections and its log. -/
theorem exists_allPage (hfetch : fetcher settings.specPath = some (.ok text))
    (hparse : Suite.parse text = .ok suite) (query : String) :
    ∃ session : Session, allPage settings fetcher query = some (.ok (session.page .anchor)) ∧
      (session.page .anchor).panels = shownPanels settings fetcher suite suite.keys ∧
      (session.debugLog.isSome = true ↔ Logs settings query) := by
  have hparsed := parse_withoutSelection query
  have hnone : suite.selection
      ((Query.parse (withoutSelection query)).get? Query.benchmarkName) = .ok [] := by
    rw [hparsed, Query.get?_erase, if_pos rfl]
    rfl
  obtain ⟨run, hopens, hsuite, hlogging⟩ := Run.opensWith_of_selection hfetch hparse hnone
  have hkeeps : Session.KeepsView run.session (settled settings fetcher run.requestAll) :=
    (Session.KeepsView.requestAll run.session).trans (.settled settings fetcher run.requestAll)
  refine ⟨settled settings fetcher run.requestAll, ?_, ?_, ?_⟩
  · unfold allPage withSession
    rw [hopens.start]
    rfl
  · rw [panels_of_requestAll hopens.start, hsuite]
  · rw [hkeeps.logging, hlogging, hparsed, Query.isTruthy_erase (by decide), logs_iff]

/-- **The page of all benchmarks.** Where the suite can be read, whatever the query is:

* the page of all benchmarks is shown, never a report of a missing benchmark; it has the panel of every key
  of the suite once, in suite order, and one separator between neighbours;
* its panels are those that are shown without a query;
* it has a debug log exactly if the settings ask for one or the last value that the query gives for it turns
  it on, just as the page that the same query selects, if that is shown; and the log is an element of the
  document exactly if there is one;
* this is the response to a request for the page. -/
theorem all_page_ignores_selection {site : Site}
    (hfetch : site.fetcher site.settings.specPath = some (.ok text))
    (hparse : Suite.parse text = .ok suite) (query : String) :
    ∃ page plain, allPage site.settings site.fetcher query = some (.ok page) ∧
      allPage site.settings site.fetcher "" = some (.ok plain) ∧
      (page.panels.map Report.Panel.key = suite.keys ∧ suite.keys.Nodup) ∧
      (page.sections.length = 2 * page.panels.length - 1 ∧
        (∀ i, page.sections[2 * i]? = (page.panels[i]?).map .panel) ∧
        ∀ i, 2 * i + 1 < page.sections.length → page.sections[2 * i + 1]? = some .separator) ∧
      page.panels = plain.panels ∧
      (page.debugLog.isSome = true ↔ Logs site.settings query) ∧
      (∀ other, queryPage site.settings site.fetcher query = some (.ok other) →
        (other.debugLog.isSome = true ↔ page.debugLog.isSome = true)) ∧
      (("pre", "dbg") ∈ Markup.identified (Report.Html.render page Site.assetBase) ↔
        page.debugLog.isSome = true) ∧
      (routeError? site.settings = none → ∀ request, Gets request "/all".toList →
        request.query = query → site.respond request = some (timed (Site.pageResponse page))) := by
  -- both pages are those of sessions that show the panels of every key
  obtain ⟨session, hpage, hpanels, hlog⟩ := exists_allPage hfetch hparse query
  obtain ⟨other, hplain, hplainPanels, -⟩ := exists_allPage hfetch hparse ""
  refine ⟨session.page .anchor, other.page .anchor, hpage, hplain, ⟨?_, Suite.nodup_keys_of_parse hparse⟩,
    ⟨?_, ?_, ?_⟩, hpanels.trans hplainPanels.symm, hlog, ?_, ?_, ?_⟩
  · rw [hpanels, keys_shownPanels, List.filter_eq_self]
    intro key hkey
    exact decide_eq_true hkey
  · rw [Session.panels_page]
    exact Report.length_separated _
  · rw [Session.panels_page]
    exact Report.getElem?_separated_even _
  · intro i hi
    exact Report.getElem?_separated_odd hi
  · intro selected hselected
    exact (debugLog_queryPage_iff hselected).trans hlog.symm
  · exact Report.log_identified_iff (fun _ => Session.inert_of_mem_cells session .anchor) Site.assetBase
  · intro hroutes request hrequest hquery
    rw [Site.respond_all hroutes hrequest, hquery, hpage]
    rfl

/-- A query that selects in three spellings, none of which is a key, and turns the log off and on again:
both benchmarks are shown, with the log. -/
theorem all_page_ignores_selection_spellings :
    let site := sampleSite .default (.error (.notFound "x"))
    ∃ page, allPage .default site.fetcher "?bm=C&b%6D=all&dbg=1&d%62g=off&%62m=&dbg=+Yes" = some (.ok page) ∧
      page.panels.map Report.Panel.key = ["A", "B"] ∧ page.debugLog.isSome = true := by
  intro site
  have hkeys : (Suite.parse Session.sampleSuite).toOption.map Suite.keys = some ["A", "B"] := by
    decide +kernel
  obtain ⟨suite, hparse, hsuite⟩ := exists_ok_of_toOption hkeys
  have hfetch : site.fetcher site.settings.specPath = some (.ok Session.sampleSuite) := rfl
  obtain ⟨page, -, hpage, -, ⟨hpanels, -⟩, -, -, hlog, -⟩ := all_page_ignores_selection hfetch hparse
    "?bm=C&b%6D=all&dbg=1&d%62g=off&%62m=&dbg=+Yes"
  refine ⟨page, hpage, hsuite ▸ hpanels, hlog.2 (Or.inr ?_)⟩
  refine ⟨[("bm", "C"), ("bm", "all"), ("dbg", "1"), ("dbg", "off"), ("bm", "")], " Yes", [], ?_, ?_, ?_⟩
  · decide +kernel
  · exact List.not_mem_nil
  · show Text.lowerAscii (Text.trim " Yes") ∉ Query.falsyValues
    decide +kernel

end Viewer

end BenchScope
