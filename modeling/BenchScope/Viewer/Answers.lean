import BenchScope.Session.Run
import BenchScope.Session.View
import BenchScope.Viewer.Problem

/-!
# Answers of the viewer

What the viewer shows: the page of a query, the page of all benchmarks, the suite, and one benchmark.
Every answer opens a session of its own and waits for it to settle, but not longer than the settings
allow. An answer is none if the fetch of the suite never ends.
-/

namespace BenchScope.Viewer

/-- What is shown, or why it cannot be. -/
abbrev Answer (α : Type) := Option (Except Problem α)

/-- Answers from a session that is opened with a query. -/
def withSession {α : Type} (settings : Settings) (fetcher : Fetcher) (query : String)
    (answer : Run → Except Problem α) : Answer α :=
  (Run.start fetcher settings query).map fun started =>
    match started with
    | .error e => .error (.ofOpenError e)
    | .ok run => answer run

/-- The session of a run after it had time to settle. -/
def settled (settings : Settings) (fetcher : Fetcher) (run : Run) : Session :=
  (run.drainFor fetcher settings.settleTimeout).session

/-- The page that a query selects. -/
def queryPage (settings : Settings) (fetcher : Fetcher) (query : String) : Answer Report.Page :=
  withSession settings fetcher query fun run =>
    .ok ((settled settings fetcher run).page .query)

/-- A query without the selection of a benchmark. -/
def withoutSelection (query : String) : String :=
  ((Query.parse query).erase Query.benchmarkName).toText

/-- The page of all benchmarks. -/
def allPage (settings : Settings) (fetcher : Fetcher) (query : String) : Answer Report.Page :=
  withSession settings fetcher (withoutSelection query) fun run =>
    .ok ((settled settings fetcher run.requestAll).page .anchor)

/-- The suite. -/
def suite (settings : Settings) (fetcher : Fetcher) : Answer Suite :=
  withSession settings fetcher "" fun run => .ok run.session.suite

/-- What a panel shows when it is loaded. -/
def loadedBody (key : String) : Option Report.Panel → Except Problem Report.Loaded
  | none => .error (.missingBenchmark key)
  | some panel =>
    match panel.body with
    | .loaded loaded => .ok loaded
    | .failed message => .error (.loadFailed message)
    | .loading => .error (.stillLoading key)

/-- One benchmark. -/
def benchmark (settings : Settings) (fetcher : Fetcher) (key : String) : Answer Report.Loaded :=
  withSession settings fetcher "" fun run =>
    match run.request key with
    | .error _ => .error (.missingBenchmark key)
    | .ok (_, run) => loadedBody key ((settled settings fetcher run).panelView? key)

end BenchScope.Viewer
