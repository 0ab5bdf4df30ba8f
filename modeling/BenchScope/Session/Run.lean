import BenchScope.Session.State

/-!
# Runs

A run is a session with the fetches it has started and the answers that wait to be applied. Fetches end
only while the run waits: waiting ends every fetch that can end, in the order they were started. A wait
of no length applies what is there and ends nothing.
-/

namespace BenchScope

/-- A session, the fetches that have not ended, and the answers that have not been applied. -/
structure Run where
  session : Session
  started : List Fetch
  arrived : List Event

/-- What comes next in a run: nothing is in flight, an answer, or only fetches that never end are
left. -/
inductive Arrival where
  | idle
  | event (event : Event) (run : Run)
  | stuck

namespace Run

/-- Opens a session. None if the fetch of the suite never ends. -/
def start (fetcher : Fetcher) (settings : Settings) (query : String) :
    Option (Except OpenError Run) :=
  (fetcher settings.specPath).map fun outcome =>
    match Session.opened settings query outcome with
    | .error e => .error e
    | .ok (session, started) => .ok ⟨session, started, []⟩

/-- Asks for a benchmark; true if it had no panel before. -/
def request (run : Run) (key : String) : Except MissingKey (Bool × Run) :=
  match run.session.request key with
  | .error e => .error e
  | .ok (session, started) =>
    .ok (!started.isEmpty, { run with session, started := run.started ++ started })

/-- Asks for every benchmark. -/
def requestAll (run : Run) : Run :=
  let (session, started) := run.session.requestAll
  { run with session, started := run.started ++ started }

/-- Applies an answer. -/
def apply (run : Run) (event : Event) : Run := { run with session := run.session.apply event }

/-- The answers to fetches, in order, without those that never end. -/
def answers (fetcher : Fetcher) (fetches : List Fetch) : List Event :=
  fetches.filterMap fun fetch => (fetcher fetch.path).map fetch.answered

/-- Ends every fetch that can end. -/
def wait (fetcher : Fetcher) (run : Run) : Run :=
  { run with started := [], arrived := run.arrived ++ answers fetcher run.started }

/-- What comes next; waits if no answer is there. -/
def next (fetcher : Fetcher) (run : Run) : Arrival :=
  if run.session.inFlight = 0 then .idle
  else
    let run := if run.arrived.isEmpty then run.wait fetcher else run
    match run.arrived with
    | event :: rest => .event event { run with arrived := rest }
    | [] => .stuck

/-- Applies answers in order as long as something is in flight. -/
def applyWhile (session : Session) : List Event → Session × List Event
  | [] => (session, [])
  | event :: rest =>
    if session.inFlight = 0 then (session, event :: rest) else applyWhile (session.apply event) rest

/-- Applies the answers that are there. -/
def drainArrived (run : Run) : Run :=
  let (session, arrived) := applyWhile run.session run.arrived
  { run with session, arrived }

/-- Whether nothing is in flight. -/
def isSettled (run : Run) : Bool := run.session.inFlight == 0

/-- Applies answers until nothing is in flight, or only fetches that never end are left. -/
def drain (fetcher : Fetcher) (run : Run) : Run :=
  let run := run.drainArrived
  if run.isSettled then run else (run.wait fetcher).drainArrived

/-- Applies answers for a time; a time that is not zero is long enough for every fetch that ends. -/
def drainFor (fetcher : Fetcher) (milliseconds : Nat) (run : Run) : Run :=
  if milliseconds = 0 then run.drainArrived else run.drain fetcher

end Run

end BenchScope
