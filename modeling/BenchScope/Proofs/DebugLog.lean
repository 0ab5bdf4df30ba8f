import BenchScope.Proofs.Selection

/-!
# The debug log

A session may keep a log of what it does. Taking the log away commutes with every operation, so a session
that logs and one that does not go through the same states: they have the same panels, the same counts, and
give the same answers. What the log itself holds is said for each operation by the lines that it adds. The
main statement puts both together for any run of operations.
-/

namespace BenchScope

namespace Session

/-! ## Without the log -/

/-- The session with logging turned off and the log taken away. -/
def quiet (session : Session) : Session :=
  { session with settings := { session.settings with debug := false }, debugLog := none }

@[simp] theorem quiet_note (session : Session) (line : String) :
    (session.note line).quiet = session.quiet := rfl

@[simp] theorem note_quiet (session : Session) (line : String) :
    session.quiet.note line = session.quiet := rfl

/-- Fetches are started alike with and without the log. -/
theorem foldl_start_quiet (started : List Fetch) (session : Session) :
    started.foldl start session.quiet = (started.foldl start session).quiet := by
  induction started generalizing session with
  | nil => rfl
  | cons fetch rest ih => exact ih (session.start fetch)

/-- The same panel is opened, and the same fetches are started. -/
theorem openPanel_quiet (session : Session) (key : String) (spec : Spec) :
    session.quiet.openPanel key spec =
      ((session.openPanel key spec).1.quiet, (session.openPanel key spec).2) := by
  -- the paths of fetches do not depend on whether there is a log
  have hfetches : fetches session.quiet.settings key spec = fetches session.settings key spec := rfl
  unfold openPanel
  dsimp only
  rw [hfetches, foldl_start_quiet]
  generalize (fetches session.settings key spec).foldl start session = opened
  rfl

/-- A key is answered alike, and refused alike. -/
theorem request_quiet (session : Session) (key : String) :
    session.quiet.request key =
      (session.request key).map fun state => (state.1.quiet, state.2) := by
  have hpanels : session.quiet.panels = session.panels := rfl
  have hsuite : session.quiet.suite = session.suite := rfl
  unfold request
  rw [hpanels, hsuite]
  by_cases hhas : session.panels.has key = true
  · rw [if_pos hhas, if_pos hhas]
    rfl
  · rw [if_neg hhas, if_neg hhas]
    cases session.suite.get key with
    | error e => rfl
    | ok spec =>
      dsimp only
      rw [openPanel_quiet]
      rfl

theorem foldl_requestKnown_quiet (keys : List String) (state : Session × List Fetch) :
    keys.foldl requestKnown (state.1.quiet, state.2) =
      ((keys.foldl requestKnown state).1.quiet, (keys.foldl requestKnown state).2) := by
  induction keys generalizing state with
  | nil => rfl
  | cons key rest ih =>
    have hknown : requestKnown (state.1.quiet, state.2) key =
        ((requestKnown state key).1.quiet, (requestKnown state key).2) := by
      unfold requestKnown
      dsimp only
      rw [request_quiet]
      cases state.1.request key with
      | error e => rfl
      | ok answer => rfl
    rw [List.foldl_cons, List.foldl_cons, hknown]
    exact ih (requestKnown state key)

/-- Asking for every key starts the same fetches. -/
theorem requestAll_quiet (session : Session) :
    session.quiet.requestAll = (session.requestAll.1.quiet, session.requestAll.2) :=
  foldl_requestKnown_quiet session.suite.keys ({ session with loadAll := true }, [])

/-- What a query selects does not depend on the log. -/
theorem select_quiet (session : Session) :
    session.quiet.select = session.select.map fun state => (state.1.quiet, state.2) := by
  have hquery : session.quiet.query = session.query := rfl
  have hsuite : session.quiet.suite = session.suite := rfl
  unfold select
  rw [hquery, hsuite]
  cases session.query.get? Query.benchmarkName with
  | none => rfl
  | some key =>
    dsimp only
    -- the cases of a selection are told by the query and by the suite only
    by_cases hblank : key = ""
    · rw [if_pos hblank, if_pos hblank]
      rfl
    · rw [if_neg hblank, if_neg hblank]
      by_cases hall : key = everyKey ∧ ¬ session.suite.has key = true
      · rw [if_pos hall, if_pos hall, requestAll_quiet]
        rfl
      · rw [if_neg hall, if_neg hall, note_quiet, ← quiet_note session, request_quiet]

/-- Opening a session with and without the log, where the query does not ask for one. -/
theorem opened_quiet (settings : Settings) {query : String} (outcome : Outcome)
    (hquery : (Query.parse query).isTruthy Query.debugName = false) :
    opened { settings with debug := false } query outcome =
      (opened { settings with debug := true } query outcome).map
        fun state => (state.1.quiet, state.2) := by
  unfold opened
  cases outcome with
  | error e => rfl
  | ok text =>
    dsimp only
    cases Suite.parse text with
    | error e => rfl
    | ok suite =>
      dsimp only
      have hfresh : fresh { settings with debug := false } suite (Query.parse query) =
          (fresh { settings with debug := true } suite (Query.parse query)).quiet := by
        unfold fresh
        rw [hquery]
        rfl
      rw [hfresh, note_quiet, ← quiet_note (fresh { settings with debug := true } suite _), select_quiet]
      cases select _ with
      | error e => rfl
      | ok state => rfl

/-- The page without the log. -/
theorem page_quiet (session : Session) (style : Report.LinkStyle) :
    session.quiet.page style = { session.page style with debugLog := none } := by
  have htoc : session.quiet.toc style = session.toc style := by cases style <;> rfl
  unfold page Report.Page.assemble
  rw [htoc]
  rfl

/-! ## The lines of the log -/

/-- The line that logs a fetch. -/
def requestLine (fetch : Fetch) : String := fetch.path ++ ": requesting..."

/-- The log of the first session goes on with these lines in the second one, if there is a log. -/
def Logs (before : Session) (lines : List String) (after : Session) : Prop :=
  after.debugLog = before.debugLog.map (· ++ lines)

theorem Logs.refl (session : Session) : Logs session [] session := by
  unfold Logs
  cases session.debugLog <;> simp

/-- What two stretches of a run log stands in a row. -/
theorem Logs.trans {first second third : Session} {lines more : List String}
    (h₁ : Logs first lines second) (h₂ : Logs second more third) : Logs first (lines ++ more) third := by
  unfold Logs at *
  rw [h₂, h₁]
  cases first.debugLog <;> simp

/-- Every fetch that is started is logged by one line. -/
theorem Logs.foldl_start (started : List Fetch) (session : Session) :
    Logs session (started.map requestLine) (started.foldl start session) := by
  induction started generalizing session with
  | nil => exact .refl session
  | cons fetch rest ih =>
    have hone : Logs session [requestLine fetch] (session.start fetch) := rfl
    exact hone.trans (ih (session.start fetch))

/-- Opening a panel logs the fetches that it starts. -/
theorem Logs.openPanel (session : Session) (key : String) (spec : Spec) :
    Logs session ((session.openPanel key spec).2.map requestLine) (session.openPanel key spec).1 := by
  have hstart := Logs.foldl_start (fetches session.settings key spec) session
  unfold Logs at *
  dsimp only [Session.openPanel]
  exact hstart

/-- A request logs the fetches that it starts. -/
theorem Logs.request {session next : Session} {key : String} {started : List Fetch}
    (h : session.request key = .ok (next, started)) :
    Logs session (started.map requestLine) next := by
  unfold Session.request at h
  split at h
  · cases h
    exact .refl session
  · split at h
    · cases h
    · rename_i spec _
      have hlogs := Logs.openPanel session key spec
      rwa [Except.ok.inj h] at hlogs

/-- Asking for every key logs the fetches that it starts. -/
theorem Logs.requestAll (session : Session) :
    Logs session (session.requestAll.2.map requestLine) session.requestAll.1 := by
  refine requestAll_induction (motive := fun next started =>
    Logs session (started.map requestLine) next) session ?_ ?_
  · intro before next started more key hlogs hrequest
    rw [List.map_append]
    exact hlogs.trans (.request hrequest)
  · exact Logs.refl session

/-- An answer is logged, whether there is a panel for it or not. -/
theorem Logs.apply (session : Session) (event : Event) :
    Logs session [answerLine event] (session.apply event) := rfl

/-- A query selects one benchmark if its value is a key of the suite and not empty. -/
def SelectsOne (suite : Suite) (query : Query) : Prop :=
  ∃ key ∈ suite.keys, key ≠ "" ∧ query.get? Query.benchmarkName = some key

instance (suite : Suite) (query : Query) : Decidable (SelectsOne suite query) :=
  inferInstanceAs (Decidable (∃ key ∈ suite.keys, key ≠ "" ∧ query.get? Query.benchmarkName = some key))

/-- Selecting from a suite logs the fetches that it starts, and one line more if a single benchmark is
selected. -/
theorem Logs.select {session next : Session} {started : List Fetch} (hempty : session.panels = [])
    (h : session.select = .ok (next, started)) :
    ∃ chosen : List String, Logs session (chosen ++ started.map requestLine) next ∧
      chosen.length = if SelectsOne session.suite session.query then 1 else 0 := by
  rcases select_cases h with ⟨hblank, hstate⟩ | ⟨hget, hnone, hstate⟩ | ⟨key, hget, hkey, -, hrequest⟩
  · cases hstate
    refine ⟨[], .refl session, (if_neg ?_).symm⟩
    rintro ⟨key, -, hkey, hget⟩
    rw [hget] at hblank
    exact hkey hblank
  · have hlogs := Logs.requestAll session
    rw [← hstate] at hlogs
    refine ⟨[], hlogs, (if_neg ?_).symm⟩
    rintro ⟨key, hmem, -, hother⟩
    rw [Option.some.inj (hget.symm.trans hother)] at hnone
    exact hnone hmem
  · have hnote : Logs session ["loading BM from URL: " ++ key]
        (session.note ("loading BM from URL: " ++ key)) := rfl
    -- a key that was accepted is one of the suite
    have hdefined : key ∈ session.suite.keys := by
      rcases request_cases hrequest with ⟨hold, -⟩ | ⟨-, spec, -, hspec, -⟩
      · rw [panels_note, hempty] at hold
        cases hold
      · exact Suite.mem_keys_of_get hspec
    exact ⟨_, hnote.trans (.request hrequest), (if_pos ⟨key, hdefined, hkey, hget⟩).symm⟩

/-- The log of a session that has just been opened with logging on. -/
theorem debugLog_opened {settings : Settings} {query : String} {outcome : Outcome} {session : Session}
    {started : List Fetch} (hdebug : settings.debug = true)
    (h : opened settings query outcome = .ok (session, started)) :
    ∃ log, session.debugLog = some log ∧
      log.length = 1 + (if SelectsOne session.suite (Query.parse query) then 1 else 0) + started.length := by
  obtain ⟨text, suite, line, -, -, hselect⟩ := opened_cases h
  obtain ⟨chosen, hlogs, hlength⟩ := Logs.select rfl hselect
  have hfirst : ((fresh settings suite (Query.parse query)).note line).debugLog = some [line] := by
    unfold fresh note
    rw [hdebug]
    rfl
  have hsuite : session.suite = suite := suite_select hselect
  refine ⟨[line] ++ (chosen ++ started.map requestLine), ?_, ?_⟩
  · rw [hlogs, hfirst]
    rfl
  · rw [List.length_append, List.length_append, List.length_map, hlength, hsuite, List.length_singleton,
      ← Nat.add_assoc]
    rfl

end Session

/-! ## Runs of operations -/

namespace Run

/-- The run with logging turned off and the log taken away. -/
def quiet (run : Run) : Run := { run with session := run.session.quiet }

theorem request_quiet (run : Run) (key : String) :
    run.quiet.request key = (run.request key).map fun answer => (answer.1, answer.2.quiet) := by
  have hsession : run.quiet.session = run.session.quiet := rfl
  unfold request
  rw [hsession, Session.request_quiet]
  cases run.session.request key with
  | error e => rfl
  | ok state => rfl

theorem requestAll_quiet (run : Run) : run.quiet.requestAll = run.requestAll.quiet := by
  have hsession : run.quiet.session = run.session.quiet := rfl
  unfold requestAll
  rw [hsession, Session.requestAll_quiet]
  rfl

theorem start_quiet (fetcher : Fetcher) (settings : Settings) {query : String}
    (hquery : (Query.parse query).isTruthy Query.debugName = false) :
    start fetcher { settings with debug := false } query =
      (start fetcher { settings with debug := true } query).map fun started => started.map quiet := by
  unfold start
  dsimp only
  cases fetcher settings.specPath with
  | none => rfl
  | some outcome =>
    dsimp only [Option.map_some]
    rw [Session.opened_quiet settings outcome hquery]
    cases Session.opened { settings with debug := true } query outcome with
    | error e => rfl
    | ok state => rfl

end Run

namespace Course

/-- The course of a run that has just been opened. -/
def ofRun (run : Run) : Course := ⟨run, run.started, []⟩

/-- The course after an operation; a refused request leaves it as it is. -/
def perform (course : Course) : Session.Operation → Course
  | .request key =>
    match course.run.request key with
    | .ok (_, run) => course.extend run
    | .error _ => course
  | .requestAll => course.extend course.run.requestAll
  | .apply event => { course with run := course.run.apply event, applied := course.applied ++ [event] }

/-- The course after a run of operations. -/
def performAll (course : Course) (operations : List Session.Operation) : Course :=
  operations.foldl perform course

/-- The course without its log. -/
def quiet (course : Course) : Course := { course with run := course.run.quiet }

/-- An operation does the same without the log. -/
theorem perform_quiet (course : Course) (operation : Session.Operation) :
    course.quiet.perform operation = (course.perform operation).quiet := by
  cases operation with
  | apply event => rfl
  | requestAll =>
    have hrun : course.quiet.run.requestAll = course.run.requestAll.quiet := course.run.requestAll_quiet
    dsimp only [perform]
    rw [hrun]
    rfl
  | request key =>
    have hrun := course.run.request_quiet key
    dsimp only [perform]
    rw [show course.quiet.run = course.run.quiet from rfl, hrun]
    cases course.run.request key with
    | error e => rfl
    | ok answer => rfl

/-- Any operations do the same without the log. -/
theorem performAll_quiet (course : Course) (operations : List Session.Operation) :
    course.quiet.performAll operations = (course.performAll operations).quiet := by
  induction operations generalizing course with
  | nil => rfl
  | cons operation rest ih =>
    have hstep := ih (course.perform operation)
    rw [← perform_quiet] at hstep
    exact hstep

/-- An operation logs one line for each fetch that it starts and one for an answer that it applies. -/
theorem exists_logs_perform (course : Course) (operation : Session.Operation) :
    ∃ lines, course.run.session.Logs lines (course.perform operation).run.session ∧
      lines.length + course.begun.length + course.applied.length =
        (course.perform operation).begun.length + (course.perform operation).applied.length := by
  cases operation with
  | apply event =>
    refine ⟨[Session.answerLine event], rfl, ?_⟩
    simp only [perform, List.length_append, List.length_singleton]
    omega
  | requestAll =>
    refine ⟨_, Session.Logs.requestAll course.run.session, ?_⟩
    simp only [perform, extend, Run.requestAll, List.drop_left, List.length_append, List.length_map]
    omega
  | request key =>
    dsimp only [perform, Run.request]
    cases hrequest : course.run.session.request key with
    | error e => exact ⟨[], .refl _, by simp⟩
    | ok state =>
      refine ⟨_, Session.Logs.request hrequest, ?_⟩
      simp only [extend, List.drop_left, List.length_append, List.length_map]
      omega

/-- Any operations log one line for each fetch that they start and for each answer that they apply. -/
theorem exists_logs_performAll (course : Course) (operations : List Session.Operation) :
    ∃ lines, course.run.session.Logs lines (course.performAll operations).run.session ∧
      lines.length + course.begun.length + course.applied.length =
        (course.performAll operations).begun.length + (course.performAll operations).applied.length := by
  induction operations generalizing course with
  | nil => exact ⟨[], .refl _, by simp [performAll]⟩
  | cons operation rest ih =>
    obtain ⟨lines, hlogs, hlength⟩ := exists_logs_perform course operation
    obtain ⟨more, hmore, hmoreLength⟩ := ih (course.perform operation)
    refine ⟨lines ++ more, hlogs.trans hmore, ?_⟩
    rw [List.length_append]
    change _ = ((course.perform operation).performAll rest).begun.length +
      ((course.perform operation).performAll rest).applied.length
    omega

/-- The second course is the first one but for the log. -/
structure SameButLog (first second : Course) : Prop where
  begun : second.begun = first.begun
  applied : second.applied = first.applied
  suite : second.run.session.suite = first.run.session.suite
  query : second.run.session.query = first.run.session.query
  panels : second.run.session.panels = first.run.session.panels
  inFlight : second.run.session.inFlight = first.run.session.inFlight
  loadAll : second.run.session.loadAll = first.run.session.loadAll
  reply : ∀ key, (second.run.request key).map Prod.fst = (first.run.request key).map Prod.fst
  page : ∀ style, second.run.session.page style =
    { first.run.session.page style with debugLog := none }

/-- Without the log a course shows the same panels, answers the same requests, and gives the same pages
but for the log. -/
theorem sameButLog_quiet (course : Course) : SameButLog course course.quiet := by
  refine ⟨rfl, rfl, rfl, rfl, rfl, rfl, rfl, ?_, course.run.session.page_quiet⟩
  intro key
  rw [show course.quiet.run = course.run.quiet from rfl, Run.request_quiet]
  cases course.run.request key with
  | error e => rfl
  | ok answer => rfl

/-- **The debug log only observes.** Take a query that does not ask for the log, and open a run with the log
turned on by the settings and one with the log turned off. Both wait for the suite, or both are refused for
the same reason, or both are opened. Then after any operations, with any answers whatever, the two are the
same but for the log: they have started the same fetches, have the same panels, counts and marks, give the
same answer to every request, and their pages differ in the log alone. The second one has no log. The log of
the first one has one line for the suite, one if the query selects a single benchmark, one for each fetch
and one for each answer; and lines are only ever added behind the others. -/
theorem log_only_observes (fetcher : Fetcher) (settings : Settings) {query : String}
    (hquery : (Query.parse query).isTruthy Query.debugName = false) :
    let opened (debug : Bool) := Run.start fetcher { settings with debug := debug } query
    (opened true = none ∧ opened false = none) ∨
    (∃ e, opened true = some (.error e) ∧ opened false = some (.error e)) ∨
    ∃ loud silent, opened true = some (.ok loud) ∧ opened false = some (.ok silent) ∧
      ∀ operations,
        let first := (ofRun loud).performAll operations
        let second := (ofRun silent).performAll operations
        SameButLog first second ∧ second.run.session.debugLog = none ∧
        ∃ log, first.run.session.debugLog = some log ∧
          log.length = 1 + (if Session.SelectsOne loud.session.suite (Query.parse query) then 1 else 0) +
            first.begun.length + first.applied.length ∧
          ∀ later, ∃ lines,
            (first.performAll later).run.session.debugLog = some (log ++ lines) := by
  intro opened
  have hquiet : opened false = (opened true).map fun started => started.map Run.quiet :=
    Run.start_quiet fetcher settings hquery
  rw [hquiet]
  cases hopened : opened true with
  | none => exact Or.inl ⟨rfl, rfl⟩
  | some started =>
    cases started with
    | error e => exact Or.inr (Or.inl ⟨e, rfl, rfl⟩)
    | ok loud =>
      refine Or.inr (Or.inr ⟨loud, loud.quiet, rfl, rfl, ?_⟩)
      intro operations first second
      -- the second course is the first one with its log taken away, at every time
      have hsecond : second = first.quiet := performAll_quiet (ofRun loud) operations
      rw [hsecond]
      refine ⟨sameButLog_quiet first, rfl, ?_⟩
      obtain ⟨outcome, -, hsession, -⟩ := Run.start_eq_ok_iff.1 hopened
      obtain ⟨log, hlog, hlength⟩ := Session.debugLog_opened rfl hsession
      obtain ⟨lines, hlines, hcount⟩ := exists_logs_performAll (ofRun loud) operations
      have hfirst : first.run.session.debugLog = some (log ++ lines) := by
        rw [hlines, show (ofRun loud).run.session.debugLog = some log from hlog]
        rfl
      refine ⟨log ++ lines, hfirst, ?_, ?_⟩
      · have hbegun : lines.length + loud.started.length + 0 =
            first.begun.length + first.applied.length := hcount
        rw [List.length_append, hlength]
        omega
      · intro later
        obtain ⟨more, hmore, -⟩ := exists_logs_performAll first later
        refine ⟨more, ?_⟩
        rw [hmore, hfirst]
        rfl

/-- A run that asks for the first benchmark of the sample suite, then for one that is not there and for all
of them, and that hears twice of the same failure: the log has a line for the suite, one for the selection,
three for the fetches and two for the failure. -/
theorem log_only_observes_sample :
    let fetcher : Fetcher := fun _ => some (.ok Session.sampleSuite)
    let opened (debug : Bool) := Run.start fetcher { Settings.default with debug := debug } "bm=A"
    let operations : List Session.Operation :=
      [.apply Session.sampleFailure, .request "missing", .requestAll, .apply Session.sampleFailure]
    (Query.parse "bm=A").isTruthy Query.debugName = false ∧
    ∃ loud silent, opened true = some (.ok loud) ∧ opened false = some (.ok silent) ∧
      SameButLog ((ofRun loud).performAll operations) ((ofRun silent).performAll operations) ∧
      ∃ log, ((ofRun loud).performAll operations).run.session.debugLog = some log ∧ log.length = 7 := by
  intro fetcher opened operations
  have hquery : (Query.parse "bm=A").isTruthy Query.debugName = false := by decide +kernel
  have hsample : (opened true).map (fun started => started.toOption.map fun loud =>
      (decide (Session.SelectsOne loud.session.suite (Query.parse "bm=A")),
        ((ofRun loud).performAll operations).begun.length,
        ((ofRun loud).performAll operations).applied.length)) = some (some (true, 3, 2)) := by
    decide +kernel
  refine ⟨hquery, ?_⟩
  rcases log_only_observes fetcher Settings.default hquery with
    ⟨(hnone : opened true = none), -⟩ | ⟨e, (herror : opened true = _), -⟩ |
      ⟨loud, silent, (hloud : opened true = _), hsilent, hrun⟩
  · rw [hnone] at hsample
    cases hsample
  · rw [herror] at hsample
    cases hsample
  · rw [hloud] at hsample
    obtain ⟨hone, hcounts⟩ := Prod.mk.inj (Option.some.inj (Option.some.inj hsample))
    obtain ⟨hbegun, happlied⟩ := Prod.mk.inj hcounts
    obtain ⟨hsame, -, log, hlog, hlength, -⟩ := hrun operations
    refine ⟨loud, silent, hloud, hsilent, hsame, log, hlog, ?_⟩
    rw [hlength, if_pos (of_decide_eq_true hone), hbegun, happlied]

end Course

end BenchScope
