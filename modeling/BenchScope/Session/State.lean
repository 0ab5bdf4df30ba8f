import BenchScope.Query.Params
import BenchScope.Report.Page
import BenchScope.Results.Document
import BenchScope.Session.Fetch
import BenchScope.Settings.Basic

/-!
# Sessions

A session holds a suite and one panel for each benchmark that has been asked for. Asking for a
benchmark starts a fetch of its results and, if it has one, of its source. Answers are applied to their
own panel, in any order. A panel is loading until its results are there and its source is there or
given up; results that cannot be fetched or read make it fail. A settled panel does not change again.

Every operation is a function from a session to a session. Operations that start fetches return them.
-/

namespace BenchScope

/-- What is known of the source of a loading panel. -/
inductive SourceState where
  | notRequested
  | waiting
  | ready (code : Report.Code)
  | unavailable
  deriving DecidableEq

/-- The state of a panel that has been asked for. -/
inductive PanelState where
  | loading (results : Option Normalized) (source : SourceState)
  | loaded (results : Normalized) (code : Option Report.Code)
  | failed (message : String)

/-- A panel's state in one word; a panel that has not been asked for is unloaded. -/
inductive Phase where
  | unloaded
  | loading
  | loaded
  | failed
  deriving DecidableEq, Repr

/-- The phase of a panel. -/
def PanelState.phase : PanelState → Phase
  | .loading _ _ => .loading
  | .loaded _ _ => .loaded
  | .failed _ => .failed

/-- The code that a panel shows when it settles. -/
def SourceState.code? : SourceState → Option Report.Code
  | .ready code => some code
  | _ => none

/-- Moves a loading panel on if nothing is missing any more. -/
def PanelState.settle : PanelState → PanelState
  | .loading (some results) .waiting => .loading (some results) .waiting
  | .loading (some results) source => .loaded results source.code?
  | panel => panel

/-- A loading panel after the answer to its fetch of the results. -/
def PanelState.withResults (path : String) (outcome : Outcome) (source : SourceState) : PanelState :=
  match outcome with
  | .error e => .failed e.message
  | .ok text =>
    match Results.parse text with
    | .error e => .failed (path ++ ": " ++ e.message)
    | .ok results => (PanelState.loading (some (Normalized.ofResults results)) source).settle

/-- What is known of the source after the answer to its fetch. -/
def SourceState.ofOutcome (path : String) : Outcome → SourceState
  | .ok text => .ready (Report.Code.ofFile path text)
  | .error _ => .unavailable

/-- A panel after an answer. -/
def PanelState.receive (event : Event) : PanelState → PanelState
  | .loading results source =>
    match event.role with
    | .results => .withResults event.path event.outcome source
    | .source => (PanelState.loading results (.ofOutcome event.path event.outcome)).settle
  | panel => panel

/-- The state of the viewer. -/
structure Session where
  settings : Settings
  suite : Suite
  query : Query
  panels : Entries PanelState
  debugLog : Option (List String)
  loadAll : Bool
  inFlight : Nat

/-- Why a session could not be opened. -/
inductive OpenError where
  | fetch (error : FetchError)
  | document (error : DocumentError)
  | missingKey (error : MissingKey)

/-- The text shown for a session that could not be opened. -/
def OpenError.message : OpenError → String
  | .fetch e => e.message
  | .document e => e.message
  | .missingKey e => e.message

namespace Session

/-- The query value that asks for every benchmark. -/
def everyKey : String := "all"

/-- Adds a line to the debug log, if there is one. -/
def note (session : Session) (line : String) : Session :=
  { session with debugLog := session.debugLog.map (· ++ [line]) }

/-- The phase of a key. -/
def phase (session : Session) (key : String) : Phase :=
  match session.panels.get? key with
  | some panel => panel.phase
  | none => .unloaded

/-- The fetches that a benchmark needs: its source, if it has one, and its results. -/
def fetches (settings : Settings) (key : String) (spec : Spec) : List Fetch :=
  (if spec.hasSource then [⟨key, .source, spec.source⟩] else []) ++
    [⟨key, .results, settings.resultsPath spec.results⟩]

/-- Counts a fetch that starts. -/
def start (session : Session) (fetch : Fetch) : Session :=
  let session := session.note (fetch.path ++ ": requesting...")
  { session with inFlight := session.inFlight + 1 }

/-- A panel that waits for its documents. -/
def waitingPanel (spec : Spec) : PanelState :=
  .loading none (if spec.hasSource then .waiting else .notRequested)

/-- Asks for a benchmark that the suite defines and that has no panel yet. -/
def openPanel (session : Session) (key : String) (spec : Spec) : Session × List Fetch :=
  let started := fetches session.settings key spec
  let session := started.foldl start session
  ({ session with panels := session.panels.put key (waitingPanel spec) }, started)

/-- Asks for a benchmark. Nothing happens if it has a panel already; the fetches that start are
returned, and there are some exactly if the panel is new. -/
def request (session : Session) (key : String) : Except MissingKey (Session × List Fetch) :=
  if session.panels.has key then .ok (session, [])
  else match session.suite.get key with
    | .error e => .error e
    | .ok spec => .ok (session.openPanel key spec)

/-- Asks for a benchmark of the suite; a key that the suite does not define changes nothing. -/
def requestKnown (state : Session × List Fetch) (key : String) : Session × List Fetch :=
  match state.1.request key with
  | .ok (session, started) => (session, state.2 ++ started)
  | .error _ => state

/-- Asks for every benchmark, in suite order. -/
def requestAll (session : Session) : Session × List Fetch :=
  session.suite.keys.foldl requestKnown ({ session with loadAll := true }, [])

/-- The line that logs an answer. -/
def answerLine (event : Event) : String :=
  match event.outcome with
  | .ok text => event.path ++ ": got response! " ++ toString text.utf8ByteSize ++ "B"
  | .error e => event.path ++ ": " ++ e.message

/-- Replaces the panel of a key by its image, if there is one. -/
def updatePanel (panels : Entries PanelState) (key : String) (f : PanelState → PanelState) :
    Entries PanelState :=
  panels.map fun entry => if entry.1 = key then (entry.1, f entry.2) else entry

/-- Applies an answer to its panel. -/
def apply (session : Session) (event : Event) : Session :=
  let session := session.note (answerLine event)
  { session with
    inFlight := session.inFlight - 1
    panels := updatePanel session.panels event.key (PanelState.receive event) }

/-- A session before anything is asked for. -/
def fresh (settings : Settings) (suite : Suite) (query : Query) : Session where
  settings := settings
  suite := suite
  query := query
  panels := []
  debugLog := if settings.debug || query.isTruthy Query.debugName then some [] else none
  loadAll := false
  inFlight := 0

/-- Asks for what the query selects: one benchmark, or every one. A suite may define a benchmark under
the key that otherwise means every one. -/
def select (session : Session) : Except MissingKey (Session × List Fetch) :=
  match session.query.get? Query.benchmarkName with
  | none => .ok (session, [])
  | some key =>
    if key = "" then .ok (session, [])
    else if key = everyKey ∧ ¬ session.suite.has key then .ok session.requestAll
    else (session.note ("loading BM from URL: " ++ key)).request key

/-- Opens a session with what the fetch of the suite gave, and asks for what the query selects. -/
def opened (settings : Settings) (query : String) (outcome : Outcome) :
    Except OpenError (Session × List Fetch) :=
  match outcome with
  | .error e => .error (.fetch e)
  | .ok text =>
    match Suite.parse text with
    | .error e => .error (.document e)
    | .ok suite =>
      let session := fresh settings suite (Query.parse query)
      let session := session.note
        (settings.specPath ++ ": got response! " ++ toString text.utf8ByteSize ++ "B")
      match session.select with
      | .error e => .error (.missingKey e)
      | .ok state => .ok state

end Session

end BenchScope
