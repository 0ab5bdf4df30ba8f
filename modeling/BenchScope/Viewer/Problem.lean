import BenchScope.Json.Writer
import BenchScope.Session.State

/-!
# Problems

Why the viewer cannot show what is asked for. A problem is answered with a status, and a JSON document
with a code for programs and a message for people.
-/

namespace BenchScope.Viewer

/-- Why something cannot be shown. -/
inductive Problem where
  | missingBenchmark (key : String)
  | fetchFailed (error : FetchError)
  | parseFailed (error : DocumentError)
  | loadFailed (message : String)
  | stillLoading (key : String)

namespace Problem

/-- The problem of a session that could not be opened. -/
def ofOpenError : OpenError → Problem
  | .missingKey e => .missingBenchmark e.key
  | .fetch e => .fetchFailed e
  | .document e => .parseFailed e

/-- The status that a problem is answered with. -/
def status : Problem → Nat
  | .missingBenchmark _ => 404
  | .fetchFailed _ => 502
  | .parseFailed _ => 502
  | .loadFailed _ => 502
  | .stillLoading _ => 504

/-- The code of a problem. -/
def code : Problem → String
  | .missingBenchmark _ => "MISSING_BENCHMARK"
  | .fetchFailed _ => "FETCH_FAILED"
  | .parseFailed _ => "PARSE_FAILED"
  | .loadFailed _ => "LOAD_FAILED"
  | .stillLoading _ => "STILL_LOADING"

/-- The message of a problem. -/
def message : Problem → String
  | .missingBenchmark key => "Benchmark '" ++ key ++ "' does not exist in the suite"
  | .fetchFailed e => e.message
  | .parseFailed e => e.message
  | .loadFailed message => message
  | .stillLoading key => "Benchmark '" ++ key ++ "' is still loading"

/-- The document about a problem that occurred at a given time. -/
def toJson (problem : Problem) (time : String) : Json :=
  .object [
    ("error", .object [("code", .string problem.code), ("message", .string problem.message)]),
    ("meta", .object [("timestamp", .string time)])]

end Problem

end BenchScope.Viewer
