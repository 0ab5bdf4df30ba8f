import BenchScope.Proofs.Accounting
import BenchScope.Proofs.Encodings
import BenchScope.Proofs.PageAssembly
import BenchScope.Proofs.Routing

/-!
# Agreement of page and document

A benchmark can be looked at in two ways: on the page that a query selects, and as a document of its own.
The first opens a session with a query, the second asks an open session for the key. Both end in the same
panel, and which one it is depends on nothing but the documents of the benchmark: a panel that had time
to settle shows how its fetches end.
-/

namespace BenchScope

/-! ## Panels that had time to settle -/

/-- Without a source document it does not matter what its fetch would give. -/
theorem PanelState.ofOutcomes_of_hasSource_false {spec : Spec} (h : spec.hasSource = false)
    (resultsPath : String) (results first second : Option Outcome) :
    ofOutcomes resultsPath spec results first = ofOutcomes resultsPath spec results second := by
  simp [ofOutcomes, Spec.sourceState, h]

namespace Course

/-- A run has been waited out when nothing is in flight, or only fetches that never end are left. -/
def WaitedOut (course : Course) : Prop :=
  course.run.session.inFlight = 0 ∨ course.run.started = [] ∧ course.run.arrived = []

/-- Where a run has been waited out, each document has given what its fetch gives. -/
theorem Sound.outcome?_eq {answer : Fetch → Option Outcome} {course : Course}
    (h : course.Sound answer) (hout : course.WaitedOut) {fetch : Fetch} (hf : fetch ∈ course.begun) :
    outcome? course.applied fetch.key fetch.role = answer fetch := by
  by_cases happlied : fetch ∈ course.applied.map Event.fetch
  · obtain ⟨event, hevent, rfl⟩ := List.mem_map.1 happlied
    rw [h.answered event (List.mem_append_right _ hevent)]
    exact h.consistent.outcome?_eq_some_iff.2 ⟨event, hevent, rfl, rfl, rfl⟩
  · -- the fetch is outstanding, so it is one of those that never end
    have houtstanding : course.ledger.Outstanding fetch := ⟨hf, happlied⟩
    have hflight := h.consistent.inFlight_pos houtstanding
    obtain ⟨hstarted, harrived⟩ := hout.resolve_left (Nat.ne_of_gt hflight)
    obtain ⟨lapsed, hlapsed, hperm⟩ := h.conserved
    rw [hstarted, harrived, List.append_nil, List.map_nil, List.append_nil] at hperm
    have hmem := (List.mem_append.1 (hperm.mem_iff.1 hf)).resolve_right happlied
    rw [hlapsed fetch hmem]
    exact h.consistent.outcome?_of_outstanding houtstanding

/-- In whatever way a run has been waited out, a panel is what the fetches of its own documents give. -/
theorem Reachable.panel_of_waitedOut {settings : Settings} {fetcher : Fetcher} {query : String}
    {suite : Outcome} {course : Course}
    (h : Reachable (fun fetch => fetcher fetch.path) settings query suite course)
    (hsettings : course.run.session.settings = settings) (hout : course.WaitedOut) {key : String}
    {spec : Spec} (hkey : key ∈ course.run.session.panels.keys)
    (hspec : course.run.session.suite.get key = .ok spec) :
    course.run.session.panels.get? key =
      some (.ofOutcomes (settings.resultsPath spec.results) spec
        (fetcher (settings.resultsPath spec.results)) (fetcher spec.source)) := by
  have hsound := h.sound
  obtain ⟨panel, hpanel⟩ := Entries.get?_isSome_iff.2 hkey
  have heq := hsound.consistent.panel_eq key spec panel hpanel hspec
  -- what a panel asks for has been begun, whatever led to the panel
  have houtcome : ∀ fetch : Fetch, fetch.key = key → fetch ∈ Session.fetches settings key spec →
      outcome? course.applied fetch.key fetch.role = fetcher fetch.path := by
    intro fetch hfetch hmem
    refine hsound.outcome?_eq hout ((hsound.consistent.mem_started_iff hspec hfetch).2 ⟨hkey, ?_⟩)
    dsimp only [Course.ledger]
    rwa [hsettings]
  have hresults := houtcome ⟨key, .results, settings.resultsPath spec.results⟩ rfl
    (by simp [Session.fetches])
  dsimp only [Course.ledger] at heq hresults
  rw [hsettings, hresults] at heq
  rw [hpanel, heq]
  cases hsource : spec.hasSource with
  | false =>
    -- the fetch of the source was never begun, and the panel does not look at it
    rw [PanelState.ofOutcomes_of_hasSource_false hsource]
  | true =>
    have hcode := houtcome ⟨key, .source, spec.source⟩ rfl (by simp [Session.fetches, hsource])
    dsimp only at hcode
    rw [hcode]

end Course

namespace Viewer

open Http

/-- The panel of a benchmark after it had time to settle. Where no time is given it still waits. -/
def shownPanel (settings : Settings) (fetcher : Fetcher) (spec : Spec) : PanelState :=
  if settings.settleTimeout = 0 then Session.waitingPanel spec
  else .ofOutcomes (settings.resultsPath spec.results) spec
    (fetcher (settings.resultsPath spec.results)) (fetcher spec.source)

/-- A session that had time to settle has the panels it had before, each as its documents make it. -/
theorem settled_spec {settings : Settings} {fetcher : Fetcher} {query : String} {suite : Outcome}
    {run : Run} {begun : List Fetch}
    (hreachable : Course.Reachable (fun fetch => fetcher fetch.path) settings query suite
      ⟨run, begun, []⟩)
    (hsettings : run.session.settings = settings) (harrived : run.arrived = []) :
    (settled settings fetcher run).suite = run.session.suite ∧
      (settled settings fetcher run).panels.keys = run.session.panels.keys ∧
      ∀ key spec, key ∈ run.session.panels.keys → run.session.suite.get key = .ok spec →
        (settled settings fetcher run).panels.get? key =
          some (shownPanel settings fetcher spec) := by
  have hsound := hreachable.sound
  unfold settled Run.drainFor shownPanel
  by_cases hzero : settings.settleTimeout = 0
  · -- nothing has come in yet, so that nothing is applied
    simp only [if_pos hzero]
    have hsame : run.drainArrived.session = run.session := by
      unfold Run.drainArrived
      rw [harrived, Run.applyWhile]
    rw [hsame]
    refine ⟨rfl, rfl, ?_⟩
    intro key spec hkey hspec
    obtain ⟨panel, hpanel⟩ := Entries.get?_isSome_iff.2 hkey
    rw [hpanel, hsound.consistent.panel_eq key spec panel hpanel hspec]
    rfl
  · simp only [if_neg hzero]
    -- the wait to the end applies answers that come in, and stops when none is left
    obtain ⟨applied, hdrains⟩ := Course.drains_drain
      (fun fetch => (rfl : fetcher fetch.path = fetcher fetch.path)) ⟨run, begun, []⟩
    have hcontinues := hdrains.continues
    refine ⟨hcontinues.suite, hcontinues.keys, ?_⟩
    intro key spec hkey hspec
    rw [← hcontinues.keys] at hkey
    rw [← hcontinues.suite] at hspec
    exact (hreachable.drains hdrains).panel_of_waitedOut (hcontinues.settings.trans hsettings)
      (Run.drain_stops fetcher run) hkey hspec

/-- The panels of those groups of a suite whose keys are among the given ones, in suite order. -/
def shownPanels (settings : Settings) (fetcher : Fetcher) (suite : Suite) (keys : List String) :
    List Report.Panel :=
  (suite.groups.filter fun entry => entry.1 ∈ keys).map fun entry =>
    ⟨entry.1, entry.1, Session.panelBody (shownPanel settings fetcher entry.2)⟩

/-- The page of a session that had time to settle shows the panels that were asked for. -/
theorem panels_settled {settings : Settings} {fetcher : Fetcher} {query text : String} {run : Run}
    {begun : List Fetch}
    (hreachable : Course.Reachable (fun fetch => fetcher fetch.path) settings query (.ok text)
      ⟨run, begun, []⟩)
    (hsettings : run.session.settings = settings) (harrived : run.arrived = [])
    (hnodup : run.session.suite.keys.Nodup) (style : Report.LinkStyle) :
    ((settled settings fetcher run).page style).panels =
      shownPanels settings fetcher run.session.suite run.session.panels.keys := by
  obtain ⟨hsuite, hkeys, hpanel⟩ := settled_spec hreachable hsettings harrived
  rw [Session.panels_page, Session.panelViews, hsuite, Suite.keys, Entries.keys, List.filterMap_map,
    shownPanels, ← List.filterMap_eq_map, List.filterMap_filter]
  apply List.filterMap_congr
  intro entry hentry
  have hspec : run.session.suite.get entry.1 = .ok entry.2 :=
    Suite.get_eq_ok_iff.2 (Entries.get?_of_mem hnodup hentry)
  dsimp only [Function.comp, Session.panelView?]
  by_cases hkey : entry.1 ∈ run.session.panels.keys
  · rw [hpanel entry.1 entry.2 hkey hspec, if_pos (decide_eq_true hkey)]
    rfl
  · rw [Entries.get?_eq_none_iff.2 (hkeys ▸ hkey), if_neg (by simpa using hkey)]
    rfl

end Viewer

/-! ## Sessions of one benchmark -/

namespace Session

/-- Opening a session with a suite that can be read is selecting from it. -/
theorem opened_eq {text : String} {suite : Suite} (h : Suite.parse text = .ok suite)
    (settings : Settings) (query : String) :
    ∃ line, opened settings query (.ok text) =
      match ((fresh settings suite (Query.parse query)).note line).select with
      | .error e => .error (.missingKey e)
      | .ok state => .ok state := by
  refine ⟨settings.specPath ++ ": got response! " ++ toString text.utf8ByteSize ++ "B", ?_⟩
  unfold opened
  dsimp only
  exact h ▸ rfl

/-- A query that selects nothing opens a session without panels. -/
theorem opened_of_unselected {text : String} {suite : Suite} (h : Suite.parse text = .ok suite)
    {query : String} (hquery : (Query.parse query).get? Query.benchmarkName = none)
    (settings : Settings) :
    ∃ line, opened settings query (.ok text) =
      .ok ((fresh settings suite (Query.parse query)).note line, []) := by
  obtain ⟨line, hopened⟩ := opened_eq h settings query
  have hselect : ((fresh settings suite (Query.parse query)).note line).select =
      .ok ((fresh settings suite (Query.parse query)).note line, []) :=
    select_of_blank (congrArg (·.getD "") hquery)
  exact ⟨line, by rw [hopened, hselect]⟩

/-- A query that selects one key asks for it, unless the key stands for every benchmark. -/
theorem opened_of_selected {text : String} {suite : Suite} (h : Suite.parse text = .ok suite)
    {query key : String} (hquery : (Query.parse query).get? Query.benchmarkName = some key)
    (hkey : key ≠ "") (hone : key = everyKey → key ∈ suite.keys) (settings : Settings) :
    ∃ session : Session, session.settings = settings ∧ session.suite = suite ∧ session.panels = [] ∧
      opened settings query (.ok text) =
        match session.request key with
        | .error e => .error (.missingKey e)
        | .ok state => .ok state := by
  obtain ⟨line, hopened⟩ := opened_eq h settings query
  have hselect : ((fresh settings suite (Query.parse query)).note line).select =
      (((fresh settings suite (Query.parse query)).note line).note
        ("loading BM from URL: " ++ key)).request key := select_of_key hquery hkey hone
  rw [hselect] at hopened
  exact ⟨_, rfl, rfl, rfl, hopened⟩

/-- A query with the key that stands for every benchmark asks for every one, unless the suite defines the
key. -/
theorem opened_of_every {text : String} {suite : Suite} (h : Suite.parse text = .ok suite)
    {query : String} (hquery : (Query.parse query).get? Query.benchmarkName = some everyKey)
    (hnone : everyKey ∉ suite.keys) (settings : Settings) :
    ∃ state, opened settings query (.ok text) = .ok state := by
  obtain ⟨line, hopened⟩ := opened_eq h settings query
  have hselect : ((fresh settings suite (Query.parse query)).note line).select =
      .ok ((fresh settings suite (Query.parse query)).note line).requestAll :=
    select_of_every hquery hnone
  exact ⟨_, by rw [hopened, hselect]⟩

/-- A session without panels that is asked for a key of its suite has one panel. -/
theorem request_of_mem {session : Session} {key : String} (hempty : session.panels = [])
    (hkey : key ∈ session.suite.keys) :
    ∃ next started, session.request key = .ok (next, started) ∧ next.settings = session.settings ∧
      next.suite = session.suite ∧ next.panels.keys = [key] := by
  have hnew : key ∉ session.panels.keys := by
    rw [hempty]
    exact List.not_mem_nil
  obtain ⟨next, started, hrequest, hsettings, hsuite, hkeys⟩ := request_new hnew hkey
  rw [hempty] at hkeys
  exact ⟨next, started, hrequest, hsettings, hsuite, hkeys⟩

/-- The page of a session with one panel shows one panel. -/
theorem panels_of_keys {session : Session} {suite : Suite} {key : String} {panel : PanelState}
    (hsuite : session.suite = suite) (hnodup : suite.keys.Nodup) (hkey : key ∈ suite.keys)
    (hkeys : session.panels.keys = [key]) (hpanel : session.panels.get? key = some panel)
    (style : Report.LinkStyle) : (session.page style).panels = [⟨key, key, panelBody panel⟩] := by
  subst hsuite
  have hviews : session.panelViews.map Report.Panel.key = [key] := by
    have hhas : session.panels.has = fun other => other == key := by
      funext other
      rw [Bool.eq_iff_iff, Entries.has_iff, hkeys, List.mem_singleton, beq_iff_eq]
    rw [keys_panelViews, hhas, List.filter_beq, List.count_eq_one_of_mem hnodup hkey]
    rfl
  obtain ⟨view, hview, hviewKey⟩ := List.map_eq_singleton_iff.1 hviews
  have hmem : view ∈ session.panelViews := by
    rw [hview]
    exact List.mem_singleton_self view
  obtain ⟨-, shown, hshown, heq⟩ := mem_panelViews.1 hmem
  rw [hviewKey] at hshown heq
  rw [hpanel] at hshown
  rw [panels_page, hview, heq, Option.some.inj hshown]

end Session

namespace Viewer

open Http

/-- The query that selects a benchmark. -/
def selection (key : String) : String := Query.Form.write [(Query.benchmarkName, key)]

theorem get?_selection (key : String) :
    (Query.parse (selection key)).get? Query.benchmarkName = some key := by
  have hname : Query.benchmarkName ≠ "" := by decide
  rw [selection, Query.parse_write, List.filter_cons_of_pos (by simpa using hname)]
  rfl

variable {settings : Settings} {fetcher : Fetcher} {text : String} {suite : Suite}

theorem start_eq {query : String} {outcome : Outcome} (h : fetcher settings.specPath = some outcome) :
    Run.start fetcher settings query =
      some (match Session.opened settings query outcome with
        | .error e => .error e
        | .ok (session, started) => .ok ⟨session, started, []⟩) := by
  unfold Run.start
  rw [h]
  rfl

/-- The runs in which a benchmark is asked for: the page of its key opens one with the query that selects
the key, and its document opens one without a query and asks it for the key. -/
inductive AsksFor (settings : Settings) (fetcher : Fetcher) (key : String) : Run → Prop where
  | page {run : Run} (h : Run.start fetcher settings (selection key) = some (.ok run)) :
    AsksFor settings fetcher key run
  | document {first run : Run} {fresh : Bool} (hstart : Run.start fetcher settings "" = some (.ok first))
    (hrequest : first.request key = .ok (fresh, run)) : AsksFor settings fetcher key run

/-- A run of a suite in which one benchmark has been asked for, and nothing has come in. -/
structure AskedOnce (settings : Settings) (fetcher : Fetcher) (suite : Suite) (key : String) (run : Run) :
    Prop where
  reachable : ∃ query text, Course.Reachable (fun fetch => fetcher fetch.path) settings query (.ok text)
    ⟨run, run.started, []⟩
  settings : run.session.settings = settings
  suite : run.session.suite = suite
  keys : run.session.panels.keys = [key]
  arrived : run.arrived = []

/-- The page of a key of the suite opens a run that asks for the key alone. -/
theorem exists_start_selection (hfetch : fetcher settings.specPath = some (.ok text))
    (hparse : Suite.parse text = .ok suite) {key : String} (hkey : key ≠ "") (hmem : key ∈ suite.keys) :
    ∃ run, Run.start fetcher settings (selection key) = some (.ok run) ∧
      AskedOnce settings fetcher suite key run := by
  obtain ⟨session, hsettings, hsuite, hempty, hopened⟩ :=
    Session.opened_of_selected hparse (get?_selection key) hkey (fun _ => hmem) settings
  obtain ⟨next, started, hrequest, hsettings', hsuite', hkeys⟩ :=
    Session.request_of_mem hempty (hsuite ▸ hmem)
  rw [hrequest] at hopened
  refine ⟨⟨next, started, []⟩, ?_, ⟨selection key, text, .opened hopened⟩, hsettings'.trans hsettings,
    hsuite'.trans hsuite, hkeys, rfl⟩
  rw [start_eq hfetch, hopened]

/-- The document of a key of the suite opens a run and asks it for the key alone. -/
theorem exists_start_request (hfetch : fetcher settings.specPath = some (.ok text))
    (hparse : Suite.parse text = .ok suite) {key : String} (hmem : key ∈ suite.keys) :
    ∃ first fresh run, Run.start fetcher settings "" = some (.ok first) ∧
      first.request key = .ok (fresh, run) ∧ AskedOnce settings fetcher suite key run := by
  have hnone : (Query.parse "").get? Query.benchmarkName = none := by decide +kernel
  obtain ⟨line, hopened⟩ := Session.opened_of_unselected hparse hnone settings
  have hempty : ((Session.fresh settings suite (Query.parse "")).note line).panels = [] := rfl
  obtain ⟨next, started, hrequest, hsettings, hsuite, hkeys⟩ := Session.request_of_mem hempty hmem
  have hstart : Run.start fetcher settings "" =
      some (.ok ⟨(Session.fresh settings suite (Query.parse "")).note line, [], []⟩) := by
    rw [start_eq hfetch, hopened]
  have hrun : Run.request ⟨(Session.fresh settings suite (Query.parse "")).note line, [], []⟩ key =
      .ok (!started.isEmpty, ⟨next, [] ++ started, []⟩) := by
    unfold Run.request
    rw [hrequest]
  refine ⟨_, _, _, hstart, hrun, ⟨"", text, ?_⟩, hsettings, hsuite, hkeys, rfl⟩
  exact Course.Reachable.step (.opened hopened) (.request hrun)

/-- In both kinds of runs the benchmark is the only one that has been asked for. -/
theorem AsksFor.askedOnce {key : String} {run : Run} (h : AsksFor settings fetcher key run)
    (hfetch : fetcher settings.specPath = some (.ok text)) (hparse : Suite.parse text = .ok suite)
    (hkey : key ≠ "") (hmem : key ∈ suite.keys) : AskedOnce settings fetcher suite key run := by
  cases h with
  | page hstart =>
    obtain ⟨run', hstart', honce⟩ := exists_start_selection hfetch hparse hkey hmem
    rw [hstart] at hstart'
    cases hstart'
    exact honce
  | document hstart hrequest =>
    obtain ⟨first', fresh', run', hstart', hrequest', honce⟩ := exists_start_request hfetch hparse hmem
    rw [hstart] at hstart'
    cases hstart'
    rw [hrequest] at hrequest'
    cases hrequest'
    exact honce

namespace AskedOnce

variable {key : String} {spec : Spec} {run : Run}

/-- After it had time to settle, such a run shows the panel of the benchmark. -/
theorem get?_settled (h : AskedOnce settings fetcher suite key run) (hspec : suite.get key = .ok spec) :
    (settled settings fetcher run).panels.get? key = some (shownPanel settings fetcher spec) := by
  obtain ⟨query, text, hreachable⟩ := h.reachable
  refine (settled_spec hreachable h.settings h.arrived).2.2 key spec ?_ (h.suite ▸ hspec)
  rw [h.keys]
  exact List.mem_singleton_self key

/-- It shows no other panel. -/
theorem panels_settled (h : AskedOnce settings fetcher suite key run) (hnodup : suite.keys.Nodup)
    (hspec : suite.get key = .ok spec) (style : Report.LinkStyle) :
    ((settled settings fetcher run).page style).panels =
      [⟨key, key, Session.panelBody (shownPanel settings fetcher spec)⟩] := by
  obtain ⟨query, text, hreachable⟩ := h.reachable
  obtain ⟨hsuite, hkeys, -⟩ := settled_spec hreachable h.settings h.arrived
  exact Session.panels_of_keys (hsuite.trans h.suite) hnodup (Suite.mem_keys_of_get hspec)
    (hkeys.trans h.keys) (h.get?_settled hspec) style

/-- With time to settle, it does not matter in which way the run is waited out: it shows this panel and no
other. -/
theorem panels_of_waitedOut (h : AskedOnce settings fetcher suite key run) (hnodup : suite.keys.Nodup)
    (hspec : suite.get key = .ok spec) (htime : settings.settleTimeout ≠ 0) {course : Course}
    (hdrains : Course.Drains (fun fetch => fetcher fetch.path) ⟨run, run.started, []⟩ course)
    (hout : course.WaitedOut) (style : Report.LinkStyle) :
    (course.run.session.page style).panels =
      [⟨key, key, Session.panelBody (shownPanel settings fetcher spec)⟩] := by
  obtain ⟨query, text, hreachable⟩ := h.reachable
  have hcontinues := hdrains.continues
  have hsuite : course.run.session.suite = suite := hcontinues.suite.trans h.suite
  have hkeys : course.run.session.panels.keys = [key] := hcontinues.keys.trans h.keys
  have hpanel := (hreachable.drains hdrains).panel_of_waitedOut (hcontinues.settings.trans h.settings)
    hout (hkeys ▸ List.mem_singleton_self key) (hsuite ▸ hspec)
  refine Session.panels_of_keys hsuite hnodup (Suite.mem_keys_of_get hspec) hkeys ?_ style
  rw [hpanel, shownPanel, if_neg htime]

end AskedOnce

/-- The page of a selected key of the suite shows its panel alone, as its documents make it. -/
theorem queryPage_selection (hfetch : fetcher settings.specPath = some (.ok text))
    (hparse : Suite.parse text = .ok suite) {key : String} {spec : Spec} (hkey : key ≠ "")
    (hspec : suite.get key = .ok spec) :
    ∃ page, queryPage settings fetcher (selection key) = some (.ok page) ∧
      page.panels = [⟨key, key, Session.panelBody (shownPanel settings fetcher spec)⟩] := by
  obtain ⟨run, hstart, honce⟩ :=
    exists_start_selection hfetch hparse hkey (Suite.mem_keys_of_get hspec)
  refine ⟨(settled settings fetcher run).page .query, ?_, ?_⟩
  · unfold queryPage withSession
    rw [hstart]
    rfl
  · exact honce.panels_settled (Suite.nodup_keys_of_parse hparse) hspec .query

/-- The document of a key of the suite is what its panel shows. -/
theorem benchmark_eq (hfetch : fetcher settings.specPath = some (.ok text))
    (hparse : Suite.parse text = .ok suite) {key : String} {spec : Spec}
    (hspec : suite.get key = .ok spec) :
    benchmark settings fetcher key = some (loadedBody key
      (some ⟨key, key, Session.panelBody (shownPanel settings fetcher spec)⟩)) := by
  obtain ⟨first, fresh, run, hstart, hrequest, honce⟩ :=
    exists_start_request hfetch hparse (Suite.mem_keys_of_get hspec)
  unfold benchmark withSession
  rw [hstart]
  dsimp only [Option.map_some]
  rw [hrequest]
  dsimp only
  unfold Session.panelView?
  rw [honce.get?_settled hspec]
  rfl

/-- The document of a key that the suite does not define is missing. -/
theorem benchmark_of_not_mem (hfetch : fetcher settings.specPath = some (.ok text))
    (hparse : Suite.parse text = .ok suite) {key : String} (hkey : key ∉ suite.keys) :
    benchmark settings fetcher key = some (.error (.missingBenchmark key)) := by
  have hnone : (Query.parse "").get? Query.benchmarkName = none := by decide +kernel
  obtain ⟨line, hopened⟩ := Session.opened_of_unselected hparse hnone settings
  generalize hsession : (Session.fresh settings suite (Query.parse "")).note line = session at hopened
  have hrequest : session.request key = .error ⟨key⟩ := by
    refine Session.request_eq_error_iff.2 ⟨?_, ?_, rfl⟩
    · rw [← hsession]
      exact List.not_mem_nil
    · rw [← hsession]
      exact hkey
  unfold benchmark withSession
  rw [start_eq hfetch, hopened]
  dsimp only [Option.map_some]
  unfold Run.request
  rw [hrequest]

/-- So is its page, unless the key stands for every benchmark. -/
theorem queryPage_of_not_mem (hfetch : fetcher settings.specPath = some (.ok text))
    (hparse : Suite.parse text = .ok suite) {key : String} (hkey : key ≠ "")
    (hmem : key ∉ suite.keys) (hone : key ≠ Session.everyKey) :
    queryPage settings fetcher (selection key) = some (.error (.missingBenchmark key)) := by
  obtain ⟨session, -, hsuite, hempty, hopened⟩ :=
    Session.opened_of_selected hparse (get?_selection key) hkey (fun hall => absurd hall hone) settings
  have hrequest : session.request key = .error ⟨key⟩ := by
    refine Session.request_eq_error_iff.2 ⟨?_, ?_, rfl⟩
    · rw [hempty]
      exact List.not_mem_nil
    · rwa [hsuite]
  rw [hrequest] at hopened
  unfold queryPage withSession
  rw [start_eq hfetch, hopened]
  rfl

/-- The key that stands for every benchmark selects all panels, in suite order. -/
theorem queryPage_every (hfetch : fetcher settings.specPath = some (.ok text))
    (hparse : Suite.parse text = .ok suite) (hnone : Session.everyKey ∉ suite.keys) :
    ∃ page, queryPage settings fetcher (selection Session.everyKey) = some (.ok page) ∧
      page.panels = suite.groups.map fun entry =>
        ⟨entry.1, entry.1, Session.panelBody (shownPanel settings fetcher entry.2)⟩ := by
  obtain ⟨⟨session, started⟩, hopened⟩ :=
    Session.opened_of_every hparse (get?_selection Session.everyKey) hnone settings
  have hreachable : Course.Reachable (fun fetch => fetcher fetch.path) settings
      (selection Session.everyKey) (.ok text) ⟨⟨session, started, []⟩, started, []⟩ :=
    .opened hopened
  -- the session is that of the suite document, and all its keys have panels
  have horigin := (Ledger.Reachable.opened hopened).origin
  obtain ⟨hsettings, text', htext, hparse'⟩ := horigin
  obtain rfl := Except.ok.inj htext
  have hsuite : session.suite = suite := Except.ok.inj (hparse'.symm.trans hparse)
  have hkeys : ∀ key ∈ suite.keys, key ∈ session.panels.keys := by
    intro key hkey
    refine (Session.mem_keys_opened hopened key).2 ⟨hsuite ▸ hkey, ?_⟩
    have hhas : suite.has Session.everyKey = false := by
      rw [← Bool.not_eq_true]
      exact mt Entries.has_iff.1 hnone
    unfold Session.selects
    rw [get?_selection, hsuite]
    dsimp only
    rw [hhas]
    simp [show Session.everyKey ≠ "" by decide]
  have hpanels := panels_settled hreachable hsettings rfl
    (hsuite ▸ Suite.nodup_keys_of_parse hparse) .query
  refine ⟨(settled settings fetcher ⟨session, started, []⟩).page .query, ?_, ?_⟩
  · unfold queryPage withSession
    rw [start_eq hfetch, hopened]
    rfl
  · rw [hpanels, shownPanels, List.filter_eq_self.2]
    · rw [hsuite]
    · intro entry hentry
      exact decide_eq_true (hkeys entry.1 (List.mem_map_of_mem (hsuite ▸ hentry)))

/-! ## Requests -/

/-- A request to read a path. -/
structure Gets (request : Request) (path : List Char) : Prop where
  method : request.method = "GET"
  path : request.target.path = path

/-- A part of a path that spells a key, characters escaped or not. -/
structure Spells (part : List Char) (key : String) : Prop where
  nonempty : part ≠ []
  slash : '/' ∉ part
  decoded : Text.Percent.decodeText? part = some key.toList

/-- A request for one of the viewer's own pages or documents. -/
def IsOwn (request : Request) : Prop :=
  Gets request "/".toList ∨ Gets request "/all".toList ∨ Gets request "/api/suite".toList ∨
    ∃ part key, Spells part key ∧ Gets request (benchmarkPath ++ part)

/-- Every key has a spelling. -/
theorem exists_spells {key : String} (hkey : key ≠ "") : ∃ part, Spells part key := by
  -- every byte is escaped, also where that is not needed
  have hdigit : ∀ n < 16, '/' ≠ Text.Percent.upperHexDigit n := by decide +kernel
  refine ⟨(Text.Utf8.encode key.toList).flatMap Text.Percent.encodeByte, ?_, ?_,
    Text.Percent.decodeText?_escaped key.toList⟩
  · intro hnil
    have hdecoded := Text.Percent.decodeText?_escaped key.toList
    have hempty : Text.Percent.decodeText? [] = some [] := Text.Percent.decodeText?_escaped []
    rw [hnil, hempty] at hdecoded
    exact hkey (String.toList_inj.1 (Option.some.inj hdecoded).symm)
  · intro hslash
    obtain ⟨b, -, hmem⟩ := List.mem_flatMap.1 hslash
    have hb := b.toNat_lt
    have hhigh := hdigit (b.toNat / 16) (by omega)
    have hlow := hdigit (b.toNat % 16) (by omega)
    simp [Text.Percent.encodeByte, hhigh, hlow] at hmem

/-- A response as it is sent. -/
def timed (response : Response) : Response := { response with isTimed := true }

namespace Site

variable {site : Site} {request : Request}

/-- Requests to read are answered by what stands behind their path. -/
theorem respond_eq {endpoint : Endpoint} {parts : List (List Char)} {response : Option Response}
    (hroute : route? site.settings request.target.path = some (endpoint, parts))
    (hown : site.endpointResponse request parts endpoint = ownResponse request response)
    (hmethod : request.method = "GET") : site.respond request = response.map timed := by
  have hhead : request.isHead = false := by
    rw [Request.isHead, hmethod]
    decide
  have hreading : request.isReading = true := by
    simp [Request.isReading, hmethod]
  have hanswering : (fun response : Response => response.answering request) = id := by
    funext response
    rw [Response.answering, hhead]
    rfl
  unfold respond
  rw [hroute]
  dsimp only
  rw [hown, ownResponse, if_pos hreading, hanswering, Option.map_id]
  rfl

variable (hroutes : routeError? site.settings = none)

include hroutes

theorem respond_index (h : Gets request "/".toList) :
    site.respond request =
      (site.answerResponse (queryPage site.settings site.fetcher request.query) pageResponse).map
        timed :=
  respond_eq (h.path ▸ (route?_own hroutes).1) rfl h.method

theorem respond_all (h : Gets request "/all".toList) :
    site.respond request =
      (site.answerResponse (allPage site.settings site.fetcher request.query) pageResponse).map
        timed :=
  respond_eq (h.path ▸ (route?_own hroutes).2.1) rfl h.method

theorem respond_suite (h : Gets request "/api/suite".toList) :
    site.respond request =
      (site.answerResponse (Viewer.suite site.settings site.fetcher) fun suite =>
        documentResponse suite.listing).map timed :=
  respond_eq (h.path ▸ (route?_own hroutes).2.2.1) rfl h.method

theorem respond_benchmark {part : List Char} {key : String} (hpart : Spells part key)
    (h : Gets request (benchmarkPath ++ part)) :
    site.respond request =
      (site.answerResponse (benchmark site.settings site.fetcher key) fun loaded =>
        documentResponse loaded.toJson).map timed := by
  refine respond_eq (h.path ▸ (route?_own hroutes).2.2.2 part hpart.nonempty hpart.slash) ?_ h.method
  unfold endpointResponse benchmarkResponse
  rw [List.headD_cons, hpart.decoded]
  dsimp only
  rw [String.ofList_toList]

/-- Where no session can be opened, every page and every document says why, or waits forever. -/
theorem respond_of_start (error : Option OpenError)
    (hstart : ∀ query, Run.start site.fetcher site.settings query = error.map .error)
    (h : IsOwn request) :
    site.respond request =
      error.map fun e => timed (site.problemResponse (.ofOpenError e)) := by
  -- a session that does not open is answered alike at every path
  have hsession : ∀ {α : Type} (query : String) (answer : Run → Except Problem α)
      (shown : α → Response),
      site.answerResponse (withSession site.settings site.fetcher query answer) shown =
        error.map fun e => site.problemResponse (.ofOpenError e) := by
    intro α query answer shown
    unfold withSession answerResponse
    rw [hstart]
    cases error <;> rfl
  have hmap : ∀ response : Option Response,
      response = (error.map fun e => site.problemResponse (.ofOpenError e)) →
      response.map timed = error.map fun e => timed (site.problemResponse (.ofOpenError e)) := by
    rintro response rfl
    rw [Option.map_map]
    rfl
  rcases h with h | h | h | ⟨part, key, hpart, h⟩
  · rw [respond_index hroutes h]
    exact hmap _ (hsession _ _ _)
  · rw [respond_all hroutes h]
    exact hmap _ (hsession _ _ _)
  · rw [respond_suite hroutes h]
    exact hmap _ (hsession _ _ _)
  · rw [respond_benchmark hroutes hpart h]
    exact hmap _ (hsession _ _ _)

omit hroutes

/-- The response that tells of a problem by a status, a code and a message. -/
def Reports (site : Site) (request : Request) (status : Nat) (code message : String) : Prop :=
  site.respond request = some {
    status
    contentType := some MediaType.json
    location := none
    allow := none
    body := .text (Json.object [
      ("error", .object [("code", .string code), ("message", .string message)]),
      ("meta", .object [("timestamp", .string site.time)])]).compact
    isTimed := true }

/-- The response that shows a document. -/
def Shows (site : Site) (request : Request) (document : Json) : Prop :=
  site.respond request = some {
    status := 200
    contentType := some MediaType.json
    location := none
    allow := none
    body := .text document.compact
    isTimed := true }

end Site

/-- What a panel shows follows from how the fetches of its documents end: it has failed if the results
cannot be fetched or read, whatever becomes of the source; it is loading if the results never come, or
come and the source never does; and it shows the results otherwise, with the source if it could be
fetched. -/
structure Classified (settings : Settings) (fetcher : Fetcher) (spec : Spec) (body : Report.Body) :
    Prop where
  failed : ∀ message, body = .failed message ↔
    (∃ e, fetcher (settings.resultsPath spec.results) = some (.error e) ∧ message = e.message) ∨
    (∃ text e, fetcher (settings.resultsPath spec.results) = some (.ok text) ∧
      Results.parse text = .error e ∧
      message = settings.resultsPath spec.results ++ ": " ++ e.message)
  loading : body = .loading ↔
    fetcher (settings.resultsPath spec.results) = none ∨
    (∃ text results, fetcher (settings.resultsPath spec.results) = some (.ok text) ∧
      Results.parse text = .ok results ∧ spec.hasSource = true ∧ fetcher spec.source = none)
  loaded : ∀ loaded, body = .loaded loaded ↔
    ∃ text results code, fetcher (settings.resultsPath spec.results) = some (.ok text) ∧
      Results.parse text = .ok results ∧ loaded = .ofResults (.ofResults results) code ∧
      ((spec.hasSource = false ∧ code = none) ∨
        (spec.hasSource = true ∧ ∃ content, fetcher spec.source = some (.ok content) ∧
          code = some (.ofFile spec.source content)) ∨
        (spec.hasSource = true ∧ ∃ e, fetcher spec.source = some (.error e) ∧ code = none))

theorem panelBody_eq_failed_iff {panel : PanelState} {message : String} :
    Session.panelBody panel = .failed message ↔ panel = .failed message := by
  cases panel <;> simp [Session.panelBody]

theorem panelBody_eq_loading_iff {panel : PanelState} :
    Session.panelBody panel = .loading ↔ panel.phase = .loading := by
  cases panel <;> simp [Session.panelBody, PanelState.phase]

theorem panelBody_eq_loaded_iff {panel : PanelState} {loaded : Report.Loaded} :
    Session.panelBody panel = .loaded loaded ↔
      ∃ results code, panel = .loaded results code ∧ loaded = .ofResults results code := by
  cases panel <;> simp [Session.panelBody, eq_comm]

/-- With time to settle, the panel that is shown is the one its fetches make. -/
theorem classified_shownPanel (h : settings.settleTimeout ≠ 0) (fetcher : Fetcher) (spec : Spec) :
    Classified settings fetcher spec (Session.panelBody (shownPanel settings fetcher spec)) := by
  unfold shownPanel
  rw [if_neg h]
  refine ⟨?_, ?_, ?_⟩
  · intro message
    rw [panelBody_eq_failed_iff, PanelState.ofOutcomes_eq_failed_iff]
  · rw [panelBody_eq_loading_iff, PanelState.ofOutcomes_loading_iff]
  · intro loaded
    rw [panelBody_eq_loaded_iff]
    simp only [PanelState.ofOutcomes_eq_loaded_iff]
    constructor
    · rintro ⟨_, code, ⟨text, results, hfetch, hparse, rfl, hcode⟩, hloaded⟩
      exact ⟨text, results, code, hfetch, hparse, hloaded, hcode⟩
    · rintro ⟨text, results, code, hfetch, hparse, hloaded, hcode⟩
      exact ⟨_, code, ⟨text, results, hfetch, hparse, rfl, hcode⟩, hloaded⟩

/-- A panel that the page of a key and the document of the key agree on. -/
structure PanelAgrees (site : Site) (key : String) (spec : Spec) (page : Report.Page)
    (body : Report.Body) : Prop where
  /-- The page shows it, and no other panel. -/
  panels : page.panels = [⟨key, key, body⟩]
  selected : queryPage site.settings site.fetcher (selection key) = some (.ok page)
  respond : ∀ request, Gets request "/".toList → request.query = selection key →
    site.respond request = some (timed (Site.pageResponse page))
  /-- The document is the benchmark if the panel shows it, and tells of the panel's failure or of its
  loading else. -/
  loaded : ∀ loaded, benchmark site.settings site.fetcher key = some (.ok loaded) ↔ body = .loaded loaded
  failed : ∀ message,
    benchmark site.settings site.fetcher key = some (.error (.loadFailed message)) ↔
      body = .failed message
  loading : benchmark site.settings site.fetcher key = some (.error (.stillLoading key)) ↔
    body = .loading
  document : ∀ request part, Spells part key → Gets request (benchmarkPath ++ part) →
    (∀ loaded, body = .loaded loaded → site.Shows request loaded.toJson) ∧
    (∀ message, body = .failed message → site.Reports request 502 "LOAD_FAILED" message) ∧
    (body = .loading → site.Reports request 504 "STILL_LOADING"
      ("Benchmark '" ++ key ++ "' is still loading"))
  /-- With time to settle, the outcomes of the benchmark's own fetches decide what it shows; -/
  classified : site.settings.settleTimeout ≠ 0 → Classified site.settings site.fetcher spec body
  /-- and in whatever order the fetches of the page or of the document end, it is what they lead to. -/
  waitedOut : site.settings.settleTimeout ≠ 0 →
    ∀ run, AsksFor site.settings site.fetcher key run → ∀ course,
      Course.Drains (fun fetch => site.fetcher fetch.path) ⟨run, run.started, []⟩ course →
      course.WaitedOut → ∀ style, (course.run.session.page style).panels = [⟨key, key, body⟩]
  /-- Without time it is loading. -/
  unsettled : site.settings.settleTimeout = 0 → body = .loading

/-- How a key is answered that the suite does not define. -/
structure KeyMissing (site : Site) (suite : Suite) (key : String) : Prop where
  document : ∀ request part, Spells part key → Gets request (benchmarkPath ++ part) →
    site.Reports request 404 "MISSING_BENCHMARK"
      ("Benchmark '" ++ key ++ "' does not exist in the suite")
  page : key ≠ Session.everyKey → ∀ request, Gets request "/".toList → request.query = selection key →
    site.Reports request 404 "MISSING_BENCHMARK"
      ("Benchmark '" ++ key ++ "' does not exist in the suite")
  /-- The key that stands for every benchmark selects all panels. -/
  every : key = Session.everyKey → ∃ page,
    queryPage site.settings site.fetcher (selection key) = some (.ok page) ∧
    page.panels.map Report.Panel.key = suite.keys ∧
    ∀ request, Gets request "/".toList → request.query = selection key →
      site.respond request = some (timed (Site.pageResponse page))

namespace Site

variable {site : Site} (hroutes : routeError? site.settings = none)

include hroutes

/-- If the fetch of the suite never ends, nothing is answered. -/
theorem respond_of_unfetched (hfetch : site.fetcher site.settings.specPath = none) {request : Request}
    (hown : IsOwn request) : site.respond request = none := by
  refine respond_of_start hroutes none ?_ hown
  intro query
  unfold Run.start
  rw [hfetch]
  rfl

/-- If it fails, every page and every document reports it. -/
theorem reports_fetch {e : FetchError} (hfetch : site.fetcher site.settings.specPath = some (.error e))
    {request : Request} (hown : IsOwn request) :
    site.Reports request 502 "FETCH_FAILED" e.message := by
  refine respond_of_start hroutes (some (.fetch e)) ?_ hown
  intro query
  rw [start_eq hfetch]
  rfl

/-- If the suite cannot be read, every page and every document reports it. -/
theorem reports_parse {text : String} {e : DocumentError}
    (hfetch : site.fetcher site.settings.specPath = some (.ok text)) (hparse : Suite.parse text = .error e)
    {request : Request} (hown : IsOwn request) :
    site.Reports request 502 "PARSE_FAILED" e.message := by
  refine respond_of_start hroutes (some (.document e)) ?_ hown
  intro query
  have hopened : Session.opened site.settings query (.ok text) = .error (.document e) := by
    unfold Session.opened
    dsimp only
    rw [hparse]
  rw [start_eq hfetch, hopened]
  rfl

section Readable

variable {text : String} {suite : Suite} (hfetch : site.fetcher site.settings.specPath = some (.ok text))
  (hparse : Suite.parse text = .ok suite) {key : String}

include hfetch hparse

/-- The document of a key is sent as what the panel of the key shows. -/
theorem document_of_body {spec : Spec} (hspec : suite.get key = .ok spec) {request : Request}
    {part : List Char} (hpart : Spells part key) (hrequest : Gets request (benchmarkPath ++ part)) :
    let body := Session.panelBody (shownPanel site.settings site.fetcher spec)
    (∀ loaded, body = .loaded loaded → site.Shows request loaded.toJson) ∧
    (∀ message, body = .failed message → site.Reports request 502 "LOAD_FAILED" message) ∧
    (body = .loading → site.Reports request 504 "STILL_LOADING"
      ("Benchmark '" ++ key ++ "' is still loading")) := by
  intro body
  have hrespond := respond_benchmark hroutes hpart hrequest
  rw [benchmark_eq hfetch hparse hspec] at hrespond
  change site.respond request = (site.answerResponse (some (loadedBody key (some ⟨key, key, body⟩)))
    fun loaded => documentResponse loaded.toJson).map timed at hrespond
  generalize body = shown at hrespond
  refine ⟨?_, ?_, ?_⟩
  · rintro loaded rfl
    exact hrespond
  · rintro message rfl
    exact hrespond
  · rintro rfl
    exact hrespond

/-- A key of the suite has a panel that its page and its document agree on. -/
theorem panelAgrees (hkey : key ≠ "") {spec : Spec} (hspec : suite.get key = .ok spec) :
    ∃ page body, PanelAgrees site key spec page body := by
  obtain ⟨page, hpage, hpanels⟩ := queryPage_selection hfetch hparse hkey hspec
  have hdocument := benchmark_eq hfetch hparse hspec
  refine ⟨page, Session.panelBody (shownPanel site.settings site.fetcher spec), hpanels, hpage, ?respond,
    ?loaded, ?failed, ?loading, ?document, fun htime => classified_shownPanel htime site.fetcher spec,
    ?waitedOut, ?unsettled⟩
  case respond =>
    intro request hrequest hquery
    rw [respond_index hroutes hrequest, hquery, hpage]
    rfl
  case loaded =>
    intro loaded
    rw [hdocument]
    cases Session.panelBody (shownPanel site.settings site.fetcher spec) <;> simp [loadedBody]
  case failed =>
    intro message
    rw [hdocument]
    cases Session.panelBody (shownPanel site.settings site.fetcher spec) <;> simp [loadedBody]
  case loading =>
    rw [hdocument]
    cases Session.panelBody (shownPanel site.settings site.fetcher spec) <;> simp [loadedBody]
  case document =>
    intro request part hpart hrequest
    exact document_of_body hroutes hfetch hparse hspec hpart hrequest
  -- a run that asks for the key once shows it after any complete wait as it is shown here
  case waitedOut =>
    intro htime run hasks course hdrains hout style
    have honce := hasks.askedOnce hfetch hparse hkey (Suite.mem_keys_of_get hspec)
    exact honce.panels_of_waitedOut (Suite.nodup_keys_of_parse hparse) hspec htime hdrains hout style
  case unsettled =>
    intro hzero
    unfold shownPanel
    rw [if_pos hzero]
    rfl

/-- A key that the suite does not define is reported missing. -/
theorem keyMissing (hkey : key ≠ "") (hmem : key ∉ suite.keys) : KeyMissing site suite key := by
  refine ⟨?_, ?_, ?_⟩
  · intro request part hpart hrequest
    have hrespond := respond_benchmark hroutes hpart hrequest
    rwa [benchmark_of_not_mem hfetch hparse hmem] at hrespond
  · intro hone request hrequest hquery
    have hrespond := respond_index hroutes hrequest
    rwa [hquery, queryPage_of_not_mem hfetch hparse hkey hmem hone] at hrespond
  · rintro rfl
    obtain ⟨page, hpage, hpanels⟩ := queryPage_every hfetch hparse hmem
    refine ⟨page, hpage, ?_, ?_⟩
    · rw [hpanels, List.map_map]
      rfl
    · intro request hrequest hquery
      rw [respond_index hroutes hrequest, hquery, hpage]
      rfl

end Readable

end Site

/-- **Agreement of page and document.** For a site whose routes can be built, whatever its fetcher gives:

* if the fetch of the suite never ends, nothing is answered; if it fails, or the suite cannot be read,
  every page and every document reports just that, with status 502;
* every key that is not empty can be spelled in a path. If it is a key of the suite, it is shown on the
  page that selects it by a panel of its own, and its document is what this panel shows: the benchmark if
  it is loaded, `LOAD_FAILED` with the panel's message if it has failed, `STILL_LOADING` if it is loading.
  Given time to settle, the panel is decided by the outcomes of the benchmark's own fetches, in whatever
  order they end; given none, it is loading;
* a key that is not empty and not in the suite is reported missing by its document, and by the page that
  selects it unless it is the key that stands for every benchmark, which selects all panels. -/
theorem page_agrees_with_document {site : Site} (hroutes : routeError? site.settings = none) :
    (site.fetcher site.settings.specPath = none →
      ∀ request, IsOwn request → site.respond request = none) ∧
    (∀ e, site.fetcher site.settings.specPath = some (.error e) →
      ∀ request, IsOwn request → site.Reports request 502 "FETCH_FAILED" e.message) ∧
    (∀ text e, site.fetcher site.settings.specPath = some (.ok text) → Suite.parse text = .error e →
      ∀ request, IsOwn request → site.Reports request 502 "PARSE_FAILED" e.message) ∧
    (∀ text suite, site.fetcher site.settings.specPath = some (.ok text) →
      Suite.parse text = .ok suite → ∀ key, key ≠ "" →
      (∃ part, Spells part key) ∧
      (∀ spec, suite.get key = .ok spec → ∃ page body, PanelAgrees site key spec page body) ∧
      (key ∉ suite.keys → KeyMissing site suite key)) := by
  refine ⟨?_, ?_, ?_, ?_⟩
  · intro hfetch request hown
    exact Site.respond_of_unfetched hroutes hfetch hown
  · intro e hfetch request hown
    exact Site.reports_fetch hroutes hfetch hown
  · intro text e hfetch hparse request hown
    exact Site.reports_parse hroutes hfetch hparse hown
  · intro text suite hfetch hparse key hkey
    refine ⟨exists_spells hkey, ?_, ?_⟩
    · intro spec hspec
      exact Site.panelAgrees hroutes hfetch hparse hkey hspec
    · intro hmem
      exact Site.keyMissing hroutes hfetch hparse hkey hmem

/-- A site with the sample suite, where every other document gives the same. -/
def sampleSite (settings : Settings) (other : Outcome) : Site where
  settings := settings
  fetcher path := some (if path = "bm/specs.json" then .ok Session.sampleSuite else other)
  disk := ⟨⟨[], []⟩, 0⟩
  time := ""

/-- A request for the document of `A`. -/
def sampleRequest : Request := ⟨"GET", ⟨[], "/api/benchmarks/A".toList, none⟩, []⟩

theorem spells_sample : Spells ['A'] "A" ∧ Gets sampleRequest (benchmarkPath ++ ['A']) :=
  ⟨⟨by decide, by decide, by decide +kernel⟩, rfl, by decide +kernel⟩

theorem get_sampleSuite : ∃ suite, Suite.parse Session.sampleSuite = .ok suite ∧
    suite.get "A" = .ok ⟨"A", "", "a.json", "a.cpp"⟩ := by
  have hsample : (Suite.parse Session.sampleSuite).toOption.map (fun suite => suite.groups.get? "A") =
      some (some ⟨"A", "", "a.json", "a.cpp"⟩) := by
    decide +kernel
  cases hparse : Suite.parse Session.sampleSuite with
  | error e =>
    rw [hparse] at hsample
    cases hsample
  | ok suite =>
    rw [hparse] at hsample
    exact ⟨suite, rfl, Suite.get_eq_ok_iff.2 (Option.some.inj hsample)⟩

/-- No document of a benchmark can be fetched, and page and document say so. -/
theorem page_agrees_with_document_sample :
    let site := sampleSite .default (.error (.transport "bm/a.json" "reset"))
    ∃ page, queryPage .default site.fetcher "bm=A" = some (.ok page) ∧
      page.panels = [⟨"A", "A", .failed "bm/a.json: reset"⟩] ∧
      site.Reports sampleRequest 502 "LOAD_FAILED" "bm/a.json: reset" := by
  intro site
  have hroutes : routeError? site.settings = none := by decide +kernel
  have hselection : selection "A" = "bm=A" := by decide +kernel
  have hresults : site.fetcher (site.settings.resultsPath "a.json") =
      some (.error (.transport "bm/a.json" "reset")) := by
    decide +kernel
  obtain ⟨suite, hparse, hspec⟩ := get_sampleSuite
  obtain ⟨-, -, -, hsuite⟩ := page_agrees_with_document hroutes
  obtain ⟨-, hknown, -⟩ := hsuite Session.sampleSuite suite rfl hparse "A" (by decide)
  obtain ⟨page, body, hagrees⟩ := hknown _ hspec
  have hfailed : body = .failed "bm/a.json: reset" :=
    ((hagrees.classified (by decide)).failed _).2 (Or.inl ⟨_, hresults, by decide +kernel⟩)
  refine ⟨page, hselection ▸ hagrees.selected, hfailed ▸ hagrees.panels, ?_⟩
  exact (hagrees.document sampleRequest ['A'] spells_sample.1 spells_sample.2).2.1 _ hfailed

/-- Without time to settle a panel is not decided by its documents: all of them are there and can be
read, and the benchmark is still loading. -/
theorem document_waits_without_time :
    let results := "\x7b\"benchmarks\":[]\x7d"
    let site := sampleSite { Settings.default with settleTimeout := 0 } (.ok results)
    (∃ parsed, Results.parse results = .ok parsed) ∧
      (∀ path, path ≠ "bm/specs.json" → site.fetcher path = some (.ok results)) ∧
      site.Reports sampleRequest 504 "STILL_LOADING" "Benchmark 'A' is still loading" := by
  intro results site
  have hroutes : routeError? site.settings = none := by decide +kernel
  obtain ⟨suite, hparse, hspec⟩ := get_sampleSuite
  have hsuite : site.fetcher site.settings.specPath = some (.ok Session.sampleSuite) := rfl
  have hdocument := benchmark_eq hsuite hparse hspec
  refine ⟨?_, fun path hpath => congrArg some (if_neg hpath), ?_⟩
  · have hread : (Results.parse results).toOption.isSome = true := by decide +kernel
    cases hresults : Results.parse results with
    | error e =>
      rw [hresults] at hread
      cases hread
    | ok parsed => exact ⟨parsed, rfl⟩
  · have hrespond := Site.respond_benchmark hroutes spells_sample.1 spells_sample.2
    rw [hdocument] at hrespond
    exact hrespond

end Viewer

end BenchScope
