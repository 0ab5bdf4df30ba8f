import BenchScope.CommandLine.Basic
import BenchScope.Session.Root
import BenchScope.Session.Run
import BenchScope.Session.View
import BenchScope.Settings.Load

/-!
# Running commands

A command is run on the files below the working directory and the environment. Listing and rendering
end with a text and the files as they then are; serving and downloading are handed on to the outside.
A failure tells every cause below it, so a cause whose text is part of a message is told twice.
-/

namespace BenchScope.CommandLine

/-- What a command is run with. `network` fetches documents below an address, `generated` is the time
that reports show. -/
structure Surroundings where
  files : FileTree
  environment : List (String × String)
  network : Url → Fetcher
  generated : String

/-- How a command ends. -/
inductive Outcome where
  | finished (output : String) (files : FileTree)
  | failed (reason : String) (files : FileTree)
  | serve (settings : Settings) (root : DataRoot)
  | download (folder : String)

/-- The text of a failure to load settings, with its cause. -/
def loadFailure (e : Settings.LoadError) : String := e.message ++ ": " ++ e.reason

/-- The text of a failure to open a session, with its causes. -/
def openFailure (dataRoot : String) (e : OpenError) : String :=
  "failed to load suite from " ++ dataRoot ++ ": " ++ e.message ++
    match e with
    | .document e => ": " ++ e.error.message
    | _ => ""

/-- The text of a failure to write a report, with its cause. -/
def writeFailure (folder : String) (e : FileError) : String :=
  "failed to write report to " ++ folder ++ ": " ++ e.message

/-- The fetches below a data root. -/
def fetcherOf (surroundings : Surroundings) : DataRoot → Fetcher
  | .folder path => Folder.fetcher surroundings.files path
  | .server base => surroundings.network base

/-- The settings of an invocation. -/
def settingsOf (surroundings : Surroundings) (invocation : Invocation) :
    Except Settings.LoadError Settings := do
  let settings ← Settings.load surroundings.files invocation.settingsFile surroundings.environment
  return { settings with dataRoot := invocation.dataRoot.getD settings.dataRoot }

/-- A text of lines. -/
def lines (texts : List String) : String := String.join (texts.map (· ++ "\n"))

/-! ## Listing -/

/-- The lines about a benchmark. -/
def benchmarkLines (settings : Settings) (key : String) (spec : Spec) : List String :=
  ["  " ++ key ++ " " ++ spec.description,
   "    results: " ++ settings.resultsPath spec.results] ++
  if spec.hasSource then ["    source: " ++ spec.source] else []

/-- The lines about a suite. -/
def suiteLines (settings : Settings) (suite : Suite) : List String :=
  ("Benchmarks: " ++ suite.name) ::
    suite.groups.flatMap fun (key, spec) => benchmarkLines settings key spec

/-! ## Rendering -/

/-- The query that makes a selection. -/
def selectionQuery (selection : Selection) (debug : Bool) : Query :=
  let query := match selection with
    | .one key => Query.empty.set Query.benchmarkName key
    | _ => Query.empty
  if debug then query.set Query.debugName "1" else query

/-- The page of a report, once its panels have settled or the time for that is over. None if the fetch
of the suite never ends. -/
def reportPage (fetcher : Fetcher) (settings : Settings) (selection : Selection) (debug : Bool) :
    Option (Except OpenError Report.Page) :=
  (Run.start fetcher settings (selectionQuery selection debug).toText).map fun started =>
    started.map fun run =>
      let run := if selection = .everything then run.requestAll else run
      (run.drainFor fetcher settings.settleTimeout).session.page .standalone

/-- Writes files into a folder one after the other. The tree is what is there in the end, also if one
of them cannot be written. -/
def writeFiles (folder : String) (files : FileTree) :
    List (String × String) → FileTree × Option FileError
  | [] => (files, none)
  | (name, content) :: rest =>
    match files.write (Path.join folder name) (Text.Utf8.encode content.toList) with
    | .error e => (files, some e)
    | .ok files => writeFiles folder files rest

/-- Writes a report into a folder, which is made if it is not there. -/
def writeReport (files : FileTree) (folder : String) (report : List (String × String)) :
    FileTree × Option FileError :=
  match files.ensureDirectory folder with
  | .error e => (files, some e)
  | .ok files => writeFiles folder files report

/-- The lines about the files of a report. -/
def reportLines (folder : String) (names : List String) : List String :=
  ("Rendered " ++ toString names.length ++ " file(s) to " ++ folder) ::
    names.map fun name => "  - " ++ Path.join folder name

/-- Writes the report of a page. -/
def render (surroundings : Surroundings) (settings : Settings) (options : RenderOptions)
    (page : Report.Page) : Outcome :=
  let folder := options.output.getD settings.outputDir
  let report := Report.files page options.format options.assets surroundings.generated
  match writeReport surroundings.files folder report with
  | (files, some e) => .failed (writeFailure folder e) files
  | (files, none) => .finished (lines (reportLines folder (report.map Prod.fst))) files

/-! ## Commands -/

/-- The reason of a failure if the fetch of the suite never ends. -/
def stillLoading : String := "the suite is still loading"

/-- Ends with what opening a session gave. -/
def concluding {α : Type} (surroundings : Surroundings) (settings : Settings)
    (opened : Option (Except OpenError α)) (conclude : α → Outcome) : Outcome :=
  match opened with
  | none => .failed stillLoading surroundings.files
  | some (.error e) => .failed (openFailure settings.dataRoot e) surroundings.files
  | some (.ok value) => conclude value

/-- Runs a command with its settings. -/
def runWith (surroundings : Surroundings) (settings : Settings) (command : Command) : Outcome :=
  match command with
  | .deps folder => .download (folder.getD settings.staticDir)
  | .serve host port debug =>
    let settings := { settings with
      host := host.getD settings.host
      port := port.getD settings.port
      debug := settings.debug || debug }
    match settings.root with
    | .error e => .failed e.message surroundings.files
    | .ok root => .serve settings root
  | .list =>
    match settings.root with
    | .error e => .failed e.message surroundings.files
    | .ok root =>
      concluding surroundings settings (Run.start (fetcherOf surroundings root) settings "") fun run =>
        .finished (lines (suiteLines settings run.session.suite)) surroundings.files
  | .render options =>
    match settings.root with
    | .error e => .failed e.message surroundings.files
    | .ok root =>
      concluding surroundings settings
        (reportPage (fetcherOf surroundings root) settings options.selection options.debug)
        (render surroundings settings options)

/-- Runs an invocation. -/
def run (surroundings : Surroundings) (invocation : Invocation) : Outcome :=
  match settingsOf surroundings invocation with
  | .error e => .failed (loadFailure e) surroundings.files
  | .ok settings => runWith surroundings settings invocation.command

end BenchScope.CommandLine
