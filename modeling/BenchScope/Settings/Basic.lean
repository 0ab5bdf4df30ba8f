import BenchScope.Path

/-!
# Settings

Where the viewer finds its documents and how it is reached. `Settings.default` is what holds without
a settings file and environment variables.
-/

namespace BenchScope

/-- The settings of the viewer. -/
structure Settings where
  dataRoot : String
  specPath : String
  resultsFolder : String
  host : String
  port : Nat
  debug : Bool
  outputDir : String
  staticDir : String
  settleTimeout : Nat
  deriving DecidableEq, Repr

namespace Settings

/-- The settings that hold unless something else is said. -/
def default : Settings where
  dataRoot := "."
  specPath := "bm/specs.json"
  resultsFolder := "bm/"
  host := "localhost"
  port := 8000
  debug := false
  outputDir := "bmxp-report"
  staticDir := "static"
  settleTimeout := 30000

/-- Whether a location is an address on the network and not a path. -/
def isRemote (location : String) : Bool :=
  "http://".toList.isPrefixOf location.toList || "https://".toList.isPrefixOf location.toList

/-- The path of a results document: below the results folder, unless it is an address or there is no
such folder. -/
def resultsPath (settings : Settings) (results : String) : String :=
  if isRemote results || settings.resultsFolder == "" then results
  else Path.withoutTrailingSlashes settings.resultsFolder ++ "/" ++ Path.withoutLeadingSlashes results

/-- The address that the viewer is reached at. -/
def bindAddress (settings : Settings) : String :=
  settings.host ++ ":" ++ toString settings.port

end Settings

end BenchScope
