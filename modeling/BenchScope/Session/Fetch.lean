/-!
# Fetches

A session asks for documents by path. An answer is the text of the document or a reason why there is
none; some fetches never get an answer.
-/

namespace BenchScope

/-- Why a document could not be fetched. -/
inductive FetchError where
  | status (path : String) (code : Nat)
  | notFound (path : String)
  | transport (path : String) (reason : String)
  deriving DecidableEq, Repr

namespace FetchError

/-- The path that was asked for. -/
def path : FetchError → String
  | .status path _ => path
  | .notFound path => path
  | .transport path _ => path

/-- The text shown for the error. -/
def message : FetchError → String
  | .status path code => path ++ ": request failed with status " ++ toString code
  | .notFound path => path ++ ": not found"
  | .transport path reason => path ++ ": " ++ reason

end FetchError

/-- What a fetch gives. -/
abbrev Outcome := Except FetchError String

/-- What each path gives; none for a fetch that never ends. -/
abbrev Fetcher := String → Option Outcome

/-- Which document of a benchmark is asked for. -/
inductive Role where
  | results
  | source
  deriving DecidableEq, Repr

/-- A fetch that a session has started. -/
structure Fetch where
  key : String
  role : Role
  path : String
  deriving DecidableEq, Repr

/-- The answer to a fetch. -/
structure Event where
  key : String
  role : Role
  path : String
  outcome : Outcome

/-- The answer to a fetch, with what it gave. -/
def Fetch.answered (fetch : Fetch) (outcome : Outcome) : Event :=
  ⟨fetch.key, fetch.role, fetch.path, outcome⟩

end BenchScope
