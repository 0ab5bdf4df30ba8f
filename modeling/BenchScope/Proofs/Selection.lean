import BenchScope.Proofs.Agreement
import BenchScope.Proofs.QueryStrings

/-!
# What a query selects

The query of a session is read once, when it is opened, and decides which benchmarks are asked for. The
links of the table of contents are queries again: the query of the session with one parameter set.
The main statement says which benchmarks any query asks for, and that following a link asks for the
benchmark of the link alone and keeps every other parameter.
-/

namespace BenchScope

/-! ## The value that counts -/

namespace Query

/-- Of all pairs with a name, the last one in the text gives the value. -/
theorem get?_parse (text : String) {name : String} (hname : name ≠ "") :
    (parse text).get? name = Entries.get? (Form.parse (withoutMark text.toList)).reverse name := by
  unfold parse get?
  rw [Entries.get?_ofPairs, ← List.filter_reverse, Entries.get?, Entries.get?, List.find?_filter]
  congr 2
  funext pair
  -- a pair with this name is not dropped
  by_cases hpair : pair.1 = name
  · simp [hpair, hname]
  · simp [hpair]

/-- Without a pair of a name there is no value for it. -/
theorem get?_parse_of_not_mem (text : String) {name : String} (hname : name ≠ "")
    (h : name ∉ (Form.parse (withoutMark text.toList)).map Prod.fst) :
    (parse text).get? name = none := by
  rw [get?_parse text hname, Entries.get?_eq_none_iff, Entries.keys, List.map_reverse, List.mem_reverse]
  exact h

/-- The last pair of a name gives the value. -/
theorem get?_parse_of_last (text : String) {name value : String} (hname : name ≠ "")
    {before after : List (String × String)}
    (hpairs : Form.parse (withoutMark text.toList) = before ++ (name, value) :: after)
    (hlast : name ∉ after.map Prod.fst) : (parse text).get? name = some value := by
  rw [get?_parse text hname, hpairs, Entries.get?_reverse_of_last value hlast]

/-- Setting one parameter leaves it to the others whether they are on. -/
theorem isTruthy_set {query : Query} {name other : String} (h : name ≠ other) (value : String) :
    (query.set name value).isTruthy other = query.isTruthy other := by
  unfold isTruthy
  rw [get?_set, if_neg h]

end Query

/-- The keys that a value of the selecting parameter stands for: none if there is no value or it is
empty, the key itself if the suite defines it, and every key for the word that means so. -/
def Suite.selection (suite : Suite) : Option String → Except MissingKey (List String)
  | none => .ok []
  | some key =>
    if key = "" then .ok []
    else if key ∈ suite.keys then .ok [key]
    else if key = Session.everyKey then .ok suite.keys
    else .error ⟨key⟩

namespace Session

/-! ## What no operation changes -/

/-- The query of a session stays, and so does it whether there is a log. -/
structure KeepsView (before after : Session) : Prop where
  query : after.query = before.query
  logging : after.debugLog.isSome = before.debugLog.isSome

theorem KeepsView.refl (session : Session) : KeepsView session session := ⟨rfl, rfl⟩

theorem KeepsView.trans {first second third : Session} (h₁ : KeepsView first second)
    (h₂ : KeepsView second third) : KeepsView first third :=
  ⟨h₂.query.trans h₁.query, h₂.logging.trans h₁.logging⟩

theorem KeepsView.note (session : Session) (line : String) : KeepsView session (session.note line) :=
  ⟨rfl, Option.isSome_map⟩

theorem KeepsView.foldl_start (started : List Fetch) (session : Session) :
    KeepsView session (started.foldl start session) := by
  induction started generalizing session with
  | nil => exact .refl session
  | cons fetch rest ih =>
    have hstart : KeepsView session (session.start fetch) := ⟨rfl, Option.isSome_map⟩
    exact hstart.trans (ih (session.start fetch))

theorem KeepsView.openPanel (session : Session) (key : String) (spec : Spec) :
    KeepsView session (session.openPanel key spec).1 := by
  obtain ⟨hquery, hlogging⟩ := KeepsView.foldl_start (fetches session.settings key spec) session
  dsimp only [Session.openPanel]
  generalize List.foldl start session (fetches session.settings key spec) = opened at hquery hlogging ⊢
  exact ⟨hquery, hlogging⟩

theorem KeepsView.request {session next : Session} {key : String} {started : List Fetch}
    (h : session.request key = .ok (next, started)) : KeepsView session next := by
  unfold Session.request at h
  split at h
  · cases h
    exact .refl session
  · split at h
    · cases h
    · rename_i spec _
      have hnext : (session.openPanel key spec).1 = next := congrArg Prod.fst (Except.ok.inj h)
      exact hnext ▸ .openPanel session key spec

theorem KeepsView.requestAll (session : Session) : KeepsView session session.requestAll.1 :=
  requestAll_induction (motive := fun next _ => KeepsView session next) session
    (fun hkeeps hr => hkeeps.trans (.request hr)) ⟨rfl, rfl⟩

theorem KeepsView.apply (session : Session) (event : Event) : KeepsView session (session.apply event) :=
  ⟨rfl, Option.isSome_map⟩

theorem KeepsView.perform (session : Session) (operation : Operation) :
    KeepsView session (session.perform operation) := by
  cases operation with
  | requestAll => exact .requestAll session
  | apply event => exact .apply session event
  | request key =>
    dsimp only [Session.perform]
    cases hr : session.request key with
    | error e => exact .refl session
    | ok answer => exact .request hr

theorem KeepsView.performAll (session : Session) (operations : List Operation) :
    KeepsView session (session.performAll operations) := by
  induction operations generalizing session with
  | nil => exact .refl session
  | cons operation rest ih => exact (KeepsView.perform session operation).trans (ih _)

/-! ## Asking for what is selected -/

/-- Keys of the suite that have no panels get them in the order they are asked for in. -/
theorem keys_foldl_requestKnown {keys : List String} {state : Session × List Fetch}
    (hnodup : keys.Nodup) (hnew : ∀ key ∈ keys, key ∉ state.1.panels.keys)
    (hdefined : ∀ key ∈ keys, key ∈ state.1.suite.keys) :
    (keys.foldl requestKnown state).1.panels.keys = state.1.panels.keys ++ keys := by
  induction keys generalizing state with
  | nil => simp
  | cons key rest ih =>
    rw [List.nodup_cons] at hnodup
    rw [List.forall_mem_cons] at hnew hdefined
    obtain ⟨next, started, hrequest, -, hsuite, hkeys⟩ := request_new hnew.1 hdefined.1
    have hknown : requestKnown state key = (next, state.2 ++ started) := by
      unfold requestKnown
      rw [hrequest]
    have hrestNew : ∀ other ∈ rest, other ∉ next.panels.keys := by
      intro other hother
      rw [hkeys, List.mem_append, List.mem_singleton, not_or]
      exact ⟨hnew.2 other hother, fun heq => hnodup.1 (heq ▸ hother)⟩
    rw [List.foldl_cons, hknown, ih hnodup.2 hrestNew (hsuite ▸ hdefined.2), hkeys, List.append_assoc,
      List.singleton_append]

/-- Asking for every benchmark opens the panels in suite order. -/
theorem keys_requestAll {session : Session} (hempty : session.panels = [])
    (hnodup : session.suite.keys.Nodup) :
    session.requestAll.1.panels.keys = session.suite.keys := by
  have hnew : ∀ key ∈ session.suite.keys, key ∉ session.panels.keys := by
    intro key _
    rw [hempty]
    exact List.not_mem_nil
  have hkeys : (session.suite.keys.foldl requestKnown ({ session with loadAll := true }, [])).1.panels.keys =
      session.panels.keys ++ session.suite.keys := keys_foldl_requestKnown hnodup hnew fun _ h => h
  rw [requestAll, hkeys, hempty]
  rfl

/-- A session without panels asks for the keys that the value of its query stands for. -/
theorem select_of_selection {session : Session} (hempty : session.panels = [])
    (hnodup : session.suite.keys.Nodup) {keys : List String}
    (h : session.suite.selection (session.query.get? Query.benchmarkName) = .ok keys) :
    ∃ next started, session.select = .ok (next, started) ∧ KeepsView session next ∧
      next.suite = session.suite ∧ next.panels.keys = keys := by
  unfold Suite.selection at h
  cases hget : session.query.get? Query.benchmarkName with
  | none =>
    rw [hget] at h
    cases h
    exact ⟨session, [], select_of_blank (by rw [hget]; rfl), .refl session, rfl, by rw [hempty]; rfl⟩
  | some key =>
    rw [hget] at h
    dsimp only at h
    split at h
    · rename_i hblank
      cases h
      exact ⟨session, [], select_of_blank (by rw [hget]; exact hblank), .refl session, rfl,
        by rw [hempty]; rfl⟩
    · rename_i hblank
      split at h
      · rename_i hkey
        cases h
        -- a session without panels has none for the key
        have hnew : key ∉ (session.note ("loading BM from URL: " ++ key)).panels.keys := by
          rw [panels_note, hempty]
          exact List.not_mem_nil
        obtain ⟨next, started, hrequest, -, hsuite, hkeys⟩ := request_new hnew hkey
        refine ⟨next, started, ?_, (KeepsView.note session _).trans (.request hrequest), hsuite, ?_⟩
        · rw [select_of_key hget hblank fun _ => hkey, hrequest]
        · rw [hkeys, panels_note, hempty]
          rfl
      · rename_i hkey
        split at h
        · rename_i hall
          cases h
          subst hall
          exact ⟨session.requestAll.1, session.requestAll.2, select_of_every hget hkey,
            .requestAll session, (Extends.requestAll session).suite, keys_requestAll hempty hnodup⟩
        · cases h

/-- It is refused if the value stands for no key. -/
theorem select_of_selection_error {session : Session} (hempty : session.panels = []) {e : MissingKey}
    (h : session.suite.selection (session.query.get? Query.benchmarkName) = .error e) :
    session.select = .error e := by
  unfold Suite.selection at h
  cases hget : session.query.get? Query.benchmarkName with
  | none =>
    rw [hget] at h
    cases h
  | some key =>
    rw [hget] at h
    dsimp only at h
    split at h
    · cases h
    · rename_i hblank
      split at h
      · cases h
      · rename_i hkey
        split at h
        · cases h
        · rename_i hone
          cases h
          rw [select_of_key hget hblank fun hall => absurd hall hone, request_eq_error_iff]
          refine ⟨?_, hkey, rfl⟩
          rw [panels_note, hempty]
          exact List.not_mem_nil

end Session

/-! ## Opening a run -/

namespace Run

variable {fetcher : Fetcher} {settings : Settings} {query : String} {run : Run}

/-- A run is opened with what the fetch of the suite gave. -/
theorem start_eq_ok_iff : start fetcher settings query = some (.ok run) ↔
    ∃ outcome, fetcher settings.specPath = some outcome ∧
      Session.opened settings query outcome = .ok (run.session, run.started) ∧ run.arrived = [] := by
  unfold start
  cases fetcher settings.specPath with
  | none => simp
  | some outcome =>
    rw [Option.map_some, Option.some.injEq]
    cases hopened : Session.opened settings query outcome with
    | error e => simp [hopened]
    | ok state =>
      obtain ⟨session, started⟩ := state
      obtain ⟨session', started', arrived'⟩ := run
      simp [hopened, eq_comm, and_assoc]

/-- A run opened with a query that asks for these benchmarks, in this order, and for nothing else: they
alone have panels, all of them loading, and their documents alone are fetched. -/
structure OpensWith (fetcher : Fetcher) (settings : Settings) (query : String) (keys : List String)
    (run : Run) : Prop where
  start : Run.start fetcher settings query = some (.ok run)
  query : run.session.query = Query.parse query
  panels : run.session.panels.keys = keys
  loading : ∀ key ∈ keys, run.session.phase key = .loading
  started : run.started = keys.flatMap run.session.fetchesOf
  arrived : run.arrived = []

/-- The panels of a session that has just been opened are loading. -/
theorem phase_of_opened {outcome : Outcome} {session : Session} {started : List Fetch}
    (h : Session.opened settings query outcome = .ok (session, started)) {key : String}
    (hkey : key ∈ session.panels.keys) : session.phase key = .loading := by
  have hconsistent := (Ledger.Reachable.opened h).consistent
  obtain ⟨spec, hspec⟩ := hconsistent.exists_spec hkey
  obtain ⟨panel, hpanel⟩ := Entries.get?_isSome_iff.2 hkey
  have hwaiting := hconsistent.panel_eq key spec panel hpanel hspec
  unfold Session.phase
  rw [hpanel, hwaiting]
  rfl

variable {text : String} {suite : Suite} (hfetch : fetcher settings.specPath = some (.ok text))
  (hparse : Suite.parse text = .ok suite)

include hfetch hparse

/-- Opening a run asks for the keys that the value in its query stands for. -/
theorem opensWith_of_selection {keys : List String}
    (h : suite.selection ((Query.parse query).get? Query.benchmarkName) = .ok keys) :
    ∃ run, OpensWith fetcher settings query keys run ∧ run.session.suite = suite ∧
      run.session.debugLog.isSome =
        (settings.debug || (Query.parse query).isTruthy Query.debugName) := by
  obtain ⟨line, hopened⟩ := Session.opened_eq hparse settings query
  generalize hfirst : (Session.fresh settings suite (Query.parse query)).note line = first at hopened
  have hsuite : first.suite = suite := hfirst ▸ rfl
  have hquery : first.query = Query.parse query := hfirst ▸ rfl
  have hempty : first.panels = [] := hfirst ▸ rfl
  have hlogging : first.debugLog.isSome =
      (settings.debug || (Query.parse query).isTruthy Query.debugName) := by
    rw [← hfirst, (Session.KeepsView.note _ line).logging, Session.fresh]
    cases settings.debug || (Query.parse query).isTruthy Query.debugName <;> rfl
  obtain ⟨session, started, hselect, hkeeps, hsame, hkeys⟩ :=
    Session.select_of_selection hempty (hsuite ▸ Suite.nodup_keys_of_parse hparse)
      (hsuite ▸ hquery ▸ h)
  rw [hselect] at hopened
  refine ⟨⟨session, started, []⟩, ⟨?_, hkeeps.query.trans hquery, hkeys, ?_, ?_, rfl⟩,
    hsame.trans hsuite, hkeeps.logging.trans hlogging⟩
  · exact start_eq_ok_iff.2 ⟨.ok text, hfetch, hopened, rfl⟩
  · intro key hkey
    exact phase_of_opened hopened (hkeys ▸ hkey)
  · rw [← hkeys]
    exact (Ledger.Reachable.opened hopened).consistent.started_eq

theorem exists_opensWith {keys : List String} {value : Option String}
    (hget : (Query.parse query).get? Query.benchmarkName = value) (h : suite.selection value = .ok keys) :
    ∃ run, OpensWith fetcher settings query keys run := by
  obtain ⟨run, hopens, -⟩ := opensWith_of_selection hfetch hparse (hget ▸ h)
  exact ⟨run, hopens⟩

/-- The last value of a query decides what a run asks for. -/
theorem opensWith_of_last {value : String}
    (hget : (Query.parse query).get? Query.benchmarkName = some value) :
    (value = "" → ∃ run, OpensWith fetcher settings query [] run) ∧
    (value ≠ "" → value ∈ suite.keys → ∃ run, OpensWith fetcher settings query [value] run) ∧
    (value = Session.everyKey → value ∉ suite.keys →
      ∃ run, OpensWith fetcher settings query suite.keys run) := by
  refine ⟨?_, ?_, ?_⟩
  · intro hblank
    exact exists_opensWith hfetch hparse hget (by rw [Suite.selection, if_pos hblank])
  · intro hne hkey
    exact exists_opensWith hfetch hparse hget (by rw [Suite.selection, if_neg hne, if_pos hkey])
  · intro hall hkey
    have hne : value ≠ "" := by
      rw [hall]
      decide
    refine exists_opensWith hfetch hparse hget ?_
    rw [Suite.selection, if_neg hne, if_neg hkey, if_pos hall]

/-- No run is opened if the value in the query stands for no key. -/
theorem start_of_selection_error {e : MissingKey}
    (h : suite.selection ((Query.parse query).get? Query.benchmarkName) = .error e) :
    start fetcher settings query = some (.error (.missingKey e)) := by
  obtain ⟨line, hopened⟩ := Session.opened_eq hparse settings query
  have hselect : ((Session.fresh settings suite (Query.parse query)).note line).select = .error e :=
    Session.select_of_selection_error rfl h
  rw [hselect] at hopened
  rw [Viewer.start_eq hfetch, hopened]

omit hfetch hparse

/-- All that is known of a run that has been opened. -/
theorem start_cases (h : start fetcher settings query = some (.ok run)) :
    ∃ text keys, fetcher settings.specPath = some (.ok text) ∧
      Suite.parse text = .ok run.session.suite ∧
      run.session.suite.selection ((Query.parse query).get? Query.benchmarkName) = .ok keys ∧
      OpensWith fetcher settings query keys run ∧
      run.session.debugLog.isSome =
        (settings.debug || (Query.parse query).isTruthy Query.debugName) := by
  obtain ⟨outcome, hfetch, hopened, -⟩ := start_eq_ok_iff.1 h
  obtain ⟨text, suite, line, rfl, hparse, -⟩ := Session.opened_cases hopened
  cases hselection : suite.selection ((Query.parse query).get? Query.benchmarkName) with
  | error e =>
    rw [start_of_selection_error hfetch hparse hselection] at h
    cases h
  | ok keys =>
    obtain ⟨other, hopens, hsuite, hlogging⟩ := opensWith_of_selection hfetch hparse hselection
    have hsame : other = run := by
      have hboth := hopens.start.symm.trans h
      exact Except.ok.inj (Option.some.inj hboth)
    subst hsame
    exact ⟨text, keys, hfetch, hsuite ▸ hparse, hsuite ▸ hselection, hopens, hlogging⟩

end Run

/-! ## Following links -/

namespace Session

/-- Reading the target of a link gives the query of the session with one parameter set. -/
theorem parse_selectUrl {session : Session} (h : session.query.WellNamed) (key : String) :
    Query.parse (session.selectUrl key) = session.query.set Query.benchmarkName key := by
  rw [selectUrl, Query.parse_mark_toText, Query.parse_toText (h.set (by decide) key)]

/-- Every key of the suite has a link. -/
theorem exists_link {session : Session} {key : String} (h : key ∈ session.suite.keys) :
    ∃ entry ∈ (session.page .query).toc, entry.key = key ∧ entry.href = session.selectUrl key := by
  obtain ⟨group, hgroup, rfl⟩ := List.mem_map.1 h
  exact ⟨_, List.mem_map_of_mem hgroup, rfl, rfl⟩

/-- Following a link opens a run that asks for the key of the link alone. Its query is that of the session
with one parameter set, and it has a log exactly if the session has one. -/
theorem opensWith_selectUrl {fetcher : Fetcher} {settings : Settings} {query : String} {run : Run}
    (hstart : Run.start fetcher settings query = some (.ok run)) (operations : List Operation)
    {key : String} (hkey : key ∈ run.session.suite.keys) (hne : key ≠ "") :
    let session := run.session.performAll operations
    ∃ next, Run.OpensWith fetcher settings (session.selectUrl key) [key] next ∧
      next.session.suite = session.suite ∧
      next.session.query = session.query.set Query.benchmarkName key ∧
      (next.session.debugLog.isSome ↔ session.debugLog.isSome) := by
  intro session
  obtain ⟨text, keys, hfetch, hparse, -, hopens, hlogging⟩ := Run.start_cases hstart
  have hkeeps : KeepsView run.session session := .performAll run.session operations
  have hquery : session.query = Query.parse query := hkeeps.query.trans hopens.query
  have hread : Query.parse (session.selectUrl key) = session.query.set Query.benchmarkName key :=
    parse_selectUrl (hquery ▸ Query.wellNamed_parse query) key
  have hselection : run.session.suite.selection
      ((Query.parse (session.selectUrl key)).get? Query.benchmarkName) = .ok [key] := by
    rw [hread, Query.get?_set, if_pos rfl, Suite.selection, if_neg hne, if_pos hkey]
  obtain ⟨next, hnext, hsuite, hnextLogging⟩ := Run.opensWith_of_selection hfetch hparse hselection
  refine ⟨next, hnext, hsuite.trans (suite_performAll run.session operations).symm,
    hnext.query.trans hread, ?_⟩
  rw [hnextLogging, hread, Query.isTruthy_set (by decide), hquery, hkeeps.logging, hlogging]

/-- **Selecting benchmarks.** For every fetcher and all settings:

* in a session that was opened with any query and went through any run of operations, the table of
  contents has a link to each key of the suite. If the key is not empty, the link opens a run that asks
  for this key alone, also if it is the word for every benchmark. The new query is the old one with the
  selection in its old place, or behind all other parameters if there was none, and there is a debug log
  exactly if there was one before;
* where a suite can be read, a query asks for nothing if it has no pair that selects or the last one
  has an empty value; for the value of the last one if this is a key of the suite; for every key if it
  is the word that means so and no key; and else it is refused with the value. -/
theorem query_selects_benchmarks (fetcher : Fetcher) (settings : Settings) :
    (∀ query run, Run.start fetcher settings query = some (.ok run) →
      ∀ operations key, key ∈ run.session.suite.keys → key ≠ "" →
      let session := run.session.performAll operations
      (∃ entry ∈ (session.page .query).toc, entry.key = key ∧ entry.href = session.selectUrl key) ∧
      ∃ next, Run.OpensWith fetcher settings (session.selectUrl key) [key] next ∧
        next.session.suite = session.suite ∧
        ((∃ before old after, Query.benchmarkName ∉ Entries.keys before ∧
            session.query.pairs = before ++ (Query.benchmarkName, old) :: after ∧
            next.session.query.pairs = before ++ (Query.benchmarkName, key) :: after) ∨
          (Query.benchmarkName ∉ session.query.pairs.keys ∧
            next.session.query.pairs = session.query.pairs ++ [(Query.benchmarkName, key)])) ∧
        (next.session.debugLog.isSome ↔ session.debugLog.isSome)) ∧
    (∀ text suite, fetcher settings.specPath = some (.ok text) → Suite.parse text = .ok suite →
      ∀ query,
      let pairs := Query.Form.parse (Query.withoutMark query.toList)
      (Query.benchmarkName ∉ pairs.map Prod.fst → ∃ run, Run.OpensWith fetcher settings query [] run) ∧
      ∀ before value after, pairs = before ++ (Query.benchmarkName, value) :: after →
        Query.benchmarkName ∉ after.map Prod.fst →
        (value = "" → ∃ run, Run.OpensWith fetcher settings query [] run) ∧
        (value ≠ "" → value ∈ suite.keys → ∃ run, Run.OpensWith fetcher settings query [value] run) ∧
        (value = everyKey → value ∉ suite.keys →
          ∃ run, Run.OpensWith fetcher settings query suite.keys run) ∧
        (value ≠ "" → value ≠ everyKey → value ∉ suite.keys →
          Run.start fetcher settings query = some (.error (.missingKey ⟨value⟩)))) := by
  have hname : Query.benchmarkName ≠ "" := by decide
  refine ⟨?_, ?_⟩
  · intro query run hstart operations key hkey hne session
    have hsame : session.suite = run.session.suite := suite_performAll run.session operations
    obtain ⟨next, hnext, hsuite, hquery, hlogging⟩ := opensWith_selectUrl hstart operations hkey hne
    refine ⟨exists_link (hsame ▸ hkey), next, hnext, hsuite, ?_, hlogging⟩
    rw [hquery]
    exact Entries.put_cases Query.benchmarkName key session.query.pairs
  · intro text suite hfetch hparse query pairs
    refine ⟨?_, ?_⟩
    · intro hnone
      exact Run.exists_opensWith hfetch hparse (Query.get?_parse_of_not_mem query hname hnone) rfl
    · intro before value after hpairs hlast
      -- of several pairs with this name the last one counts
      have hget := Query.get?_parse_of_last query hname hpairs hlast
      obtain ⟨hblank, hone, hevery⟩ := Run.opensWith_of_last hfetch hparse hget
      refine ⟨hblank, hone, hevery, ?_⟩
      intro hne hnotEvery hkey
      apply Run.start_of_selection_error hfetch hparse
      rw [hget, Suite.selection, if_neg hne, if_neg hkey, if_neg hnotEvery]

/-- The sample suite, where every other document is missing. -/
def sampleFetcher : Fetcher := fun path =>
  some (if path = "bm/specs.json" then .ok sampleSuite else .error (.notFound path))

/-- From a query with two selections and another parameter, the link to `B` replaces the selection that
counted in the place of the first one. -/
theorem query_selects_benchmarks_link :
    ∃ run next, Run.OpensWith sampleFetcher .default "?bm=B&dbg=1&x=%26&b%6D=A" ["A"] run ∧
      run.session.selectUrl "B" = "?bm=B&dbg=1&x=%26" ∧
      Run.OpensWith sampleFetcher .default "?bm=B&dbg=1&x=%26" ["B"] next ∧
      next.session.debugLog.isSome := by
  obtain ⟨hlinks, hqueries⟩ := query_selects_benchmarks sampleFetcher .default
  have hkeys : (Suite.parse sampleSuite).toOption.map Suite.keys = some ["A", "B"] := by
    decide +kernel
  obtain ⟨suite, hparse, hsuite⟩ := exists_ok_of_toOption hkeys
  obtain ⟨-, hlast⟩ := hqueries sampleSuite suite rfl hparse "?bm=B&dbg=1&x=%26&b%6D=A"
  obtain ⟨-, hone, -⟩ := hlast [("bm", "B"), ("dbg", "1"), ("x", "&")] "A" [] (by decide +kernel)
    (by decide)
  obtain ⟨run, hrun⟩ := hone (by decide) (by rw [hsuite]; decide)
  obtain ⟨text, -, hfetch, hread, -, -, hlogging⟩ := Run.start_cases hrun.start
  have hsame : run.session.suite = suite := by
    obtain rfl : sampleSuite = text := Except.ok.inj (Option.some.inj hfetch)
    exact Except.ok.inj (hread.symm.trans hparse)
  obtain ⟨-, next, hnext, -, -, hlog⟩ := hlinks _ run hrun.start [] "B"
    (by rw [hsame, hsuite]; decide) (by decide)
  have hurl : run.session.selectUrl "B" = "?bm=B&dbg=1&x=%26" := by
    rw [selectUrl, hrun.query]
    decide +kernel
  refine ⟨run, next, hrun, hurl, ?_, hlog.2 ?_⟩
  · exact hurl ▸ hnext
  · rw [performAll, List.foldl_nil, hlogging]
    decide +kernel

end Session

end BenchScope
