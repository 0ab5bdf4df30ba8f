import BenchScope.Clock
import BenchScope.CommandLine.Parse
import BenchScope.CommandLine.Run
import Std.Time.DateTime.Timestamp

/-!
# The program

Reads the command line, the environment and the files below the working directory, runs the command,
and writes back the files that have changed.
-/

namespace BenchScope.Program

/-- The names of environment variables that matter. -/
def variableNames : List String :=
  (["DATA_ROOT", "SPEC_PATH", "RESULTS_PREFIX", "HOST", "PORT", "DEBUG", "OUTPUT_DIR", "STATIC_DIR",
    "SETTLE_TIMEOUT_MS"]).map ("BMXP_" ++ ·)

/-- The environment variables that are set, of those that matter. -/
def readEnvironment : IO (List (String × String)) :=
  variableNames.filterMapM fun name => do
    return (← IO.getEnv name).map fun value => (name, value)

/-- The files below a folder, with their paths; hidden folders are passed over. -/
partial def readFiles (folder : String) : IO (List (String × List UInt8)) := do
  let mut files := []
  for entry in ← (← IO.FS.realPath folder).readDir do
    let path := Path.join folder entry.fileName
    if ← entry.path.isDir then
      if !entry.fileName.startsWith "." then files := files ++ (← readFiles path)
    else files := files ++ [(path, (← IO.FS.readBinFile path).toList)]
  return files

/-- Writes a file, after making its folder. -/
def writeFile (names : List String) (content : List UInt8) : IO Unit := do
  IO.FS.createDirAll ("/".intercalate ("." :: names.dropLast))
  IO.FS.writeBinFile ("/".intercalate ("." :: names)) ⟨content.toArray⟩

/-- Writes the files that are not as they were. -/
def writeChanges (before after : FileTree) : IO Unit :=
  after.files.forM fun (names, content) => do
    if before.files.lookup names != some content then writeFile names content

/-- The present time. -/
def now : IO String := do
  let time ← Std.Time.Timestamp.now
  return Clock.textOf time.toSecondsSinceUnixEpoch.val.toNat

/-- The text shown for a command line that is not followed. -/
def faultText : CommandLine.Fault → String
  | .help => "usage: bmxp [options] serve|render|list|deps [options]"
  | .version => "bmxp"
  | .nothingGiven => "usage: bmxp [options] serve|render|list|deps [options]"
  | .missingCommand => "error: a command is missing"
  | .unknownCommand => "error: unknown command"
  | .unknownArgument => "error: unknown argument"
  | .missingValue => "error: an option has no value"
  | .unexpectedValue => "error: a flag has a value"
  | .invalidValue => "error: an option has an invalid value"
  | .conflict => "error: options exclude each other"

/-- Documents on the network are out of reach of this program. -/
def noNetwork (_ : Url) : Fetcher := fun path => some (.error (.transport path "no network"))

/-- Shows an error and gives the exit code for it. -/
def fail (reason : String) : IO UInt32 := do
  IO.eprintln ("Error: " ++ reason)
  return 1

/-- Runs an invocation on the files below the working directory. -/
def runHere (environment : List (String × String)) (invocation : CommandLine.Invocation) :
    IO UInt32 := do
  let files := FileTree.ofFiles (← readFiles ".")
  match CommandLine.run ⟨files, environment, noNetwork, ← now⟩ invocation with
  | .finished output after =>
    writeChanges files after
    IO.print output
    return 0
  | .failed reason after =>
    writeChanges files after
    fail reason
  | .serve settings _ => fail ("cannot listen on " ++ settings.bindAddress)
  | .download folder => fail ("cannot download into " ++ folder)

end BenchScope.Program

def main (args : List String) : IO UInt32 := do
  let environment ← BenchScope.Program.readEnvironment
  match BenchScope.CommandLine.parse environment args with
  | .ok invocation => BenchScope.Program.runHere environment invocation
  | .error .help =>
    IO.println (BenchScope.Program.faultText .help)
    return 0
  | .error .version =>
    IO.println (BenchScope.Program.faultText .version)
    return 0
  | .error fault =>
    IO.eprintln (BenchScope.Program.faultText fault)
    return 2
