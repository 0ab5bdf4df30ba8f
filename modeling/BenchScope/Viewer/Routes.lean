import BenchScope.Http.Pattern
import BenchScope.Viewer.Served

/-!
# Routes

The paths that the viewer answers: its own pages and documents, the assets below `/static`, and, for a
local data root, the served folders and the suite document. Every route takes a path of its own: a
viewer whose routes would share a path cannot be built. The names of folders and of the suite document
are patterns, so a colon or an asterisk in them stands for more than itself.
-/

namespace BenchScope.Viewer

open Http

/-- A folder and the path that it is served below. -/
structure Mount where
  path : String
  folder : String
  deriving DecidableEq, Repr

/-- What stands behind a path. -/
inductive Endpoint where
  | index
  | all
  | suite
  | benchmark
  | folder (mount : Mount)
  | file (path : String)
  deriving DecidableEq, Repr

/-! ## Mounts -/

/-- The paths that a mount takes: all below it, and its own, with and without a slash. -/
def Mount.paths (mount : Mount) : List String :=
  if mount.path.toList.getLast? = some '/' then [mount.path ++ "*below", mount.path]
  else [mount.path ++ "/*below", mount.path, mount.path ++ "/"]

/-- The mount of the assets. -/
def assetMount (settings : Settings) : Mount := ⟨"/static", settings.staticDir⟩

/-- The mounts of the served folders of a local data root. -/
def dataMounts (settings : Settings) : List Mount :=
  if Settings.isRemote settings.dataRoot then []
  else settings.servedFolders.map fun folder => ⟨"/" ++ folder, Path.join settings.dataRoot folder⟩

/-- The mounts of a viewer. -/
def mounts (settings : Settings) : List Mount := assetMount settings :: dataMounts settings

/-- What is left of a path behind the path of a mount, both by their parts. A part of the mount's path
that is a place holder takes any part. -/
def partsBelow? : List (List Char) → List (List Char) → Option (List Char)
  | parts, [] => some (List.intercalate ['/'] parts)
  | [], _ :: _ => none
  | part :: parts, own :: owns =>
    if own.head? = some ':' ∨ part = own then partsBelow? parts owns
    else if own.isEmpty then some (List.intercalate ['/'] (part :: parts))
    else none

/-- The path below a mount, with a slash in front. A path that only a place holder inside of a part leads
to stays as it is. -/
def Mount.below (mount : Mount) (path : List Char) : List Char :=
  match partsBelow? ((Path.parts path).drop 1) ((Path.parts mount.path.toList).drop 1) with
  | some left => if left.head? = some '/' then left else '/' :: left
  | none => path

/-! ## The table of routes -/

/-- The viewer's own pages and documents. -/
def ownRoutes : List (String × Endpoint) :=
  [("/", .index), ("/all", .all), ("/api/suite", .suite), ("/api/benchmarks/:key", .benchmark)]

/-- The routes of a mount. -/
def Mount.routes (mount : Mount) : List (String × Endpoint) :=
  mount.paths.map fun path => (path, .folder mount)

/-- The route of the suite document if it lies in a local data root itself. -/
def bareRoute? (settings : Settings) : Option (String × Endpoint) :=
  if Settings.isRemote settings.dataRoot then none
  else settings.bareSuite?.map fun name => ("/" ++ name, .file (Path.join settings.dataRoot name))

/-- All routes, in the order they are added. -/
def allRoutes (settings : Settings) : List (String × Endpoint) :=
  ownRoutes ++ (mounts settings).flatMap Mount.routes ++ (bareRoute? settings).toList

/-- The table of routes. The path of a mount has no place holder for the rest of a path. -/
def routes (settings : Settings) : Except PatternError (Routes Endpoint) :=
  if (mounts settings).any fun mount => mount.path.toList.contains '*' then .error .malformed
  else (allRoutes settings).foldlM (fun routes (text, endpoint) => routes.add text endpoint) []

/-- Why the routes of a viewer cannot be built, if that is so. -/
def routeError? (settings : Settings) : Option PatternError :=
  match routes settings with
  | .ok _ => none
  | .error error => some error

/-- What stands behind a path, with the parts of the path that place holders stand for. -/
def route? (settings : Settings) (path : List Char) : Option (Endpoint × List (List Char)) :=
  match routes settings with
  | .ok routes => routes.find? path
  | .error _ => none

end BenchScope.Viewer
