import BenchScope.Settings.Basic

/-!
# Served folders

Of a local data root the viewer serves the folder of the suite and the folder of the results, and
nothing else. Hidden folders are not served, nor are folders whose name belongs to the viewer itself. A
folder inside another served one needs no place of its own.
-/

namespace BenchScope.Settings

/-- First names of paths that belong to the viewer itself. -/
def reserved : List String := ["static", "api", "all"]

/-- The parts of a folder's path. -/
def folderParts (folder : String) : List (List Char) := Path.parts folder.toList

/-- Whether a folder may be served. -/
def isServable (folder : String) : Bool :=
  let parts := folderParts folder
  folder != "" && !parts.any (fun part => part.head? == some '.') &&
    !reserved.contains (String.ofList (parts.headD []))

/-- Whether a folder is another one or lies inside it. -/
def isWithin (folder outer : String) : Bool :=
  folder == outer || (outer ++ "/").toList.isPrefixOf folder.toList

/-- The folder of the suite document, empty if it lies in the data root itself. -/
def suiteFolder (settings : Settings) : String :=
  let path := settings.specPath.toList.dropWhile Path.isSlash
  String.ofList ((path.reverse.dropWhile (· ≠ '/')).drop 1).reverse

/-- The folder of the results documents, empty if they lie elsewhere on the network. -/
def localResultsFolder (settings : Settings) : String :=
  if isRemote settings.resultsFolder then ""
  else String.ofList (Text.dropEnds Path.isSlash settings.resultsFolder.toList)

/-- The folders that might be served, the one with the shorter path first. -/
def folderCandidates (settings : Settings) : List String :=
  let suite := settings.suiteFolder
  let results := settings.localResultsFolder
  if results.utf8ByteSize < suite.utf8ByteSize then [results, suite] else [suite, results]

/-- Adds a folder that may be served and does not lie within one that is served already. -/
def serve (kept : List String) (folder : String) : List String :=
  if isServable folder && !kept.any (isWithin folder) then kept ++ [folder] else kept

/-- The folders of the data root that are served. -/
def servedFolders (settings : Settings) : List String := settings.folderCandidates.foldl serve []

/-- The suite document if it lies in the data root itself, where it is served alone. -/
def bareSuite? (settings : Settings) : Option String :=
  let path := Path.withoutLeadingSlashes settings.specPath
  if path = "" ∨ '/' ∈ path.toList ∨ path.toList.head? = some '.' then none else some path

end BenchScope.Settings
