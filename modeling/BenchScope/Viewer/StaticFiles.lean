import BenchScope.FileTree
import BenchScope.Http.MediaType
import BenchScope.Http.Message
import BenchScope.Http.Range
import BenchScope.Http.Time
import BenchScope.Text.Bytes

/-!
# Static files

Files are served from below a folder. The path of the request is unescaped, and a path that would lead
out of the folder leads nowhere. A path to a folder is answered with its `index.html`, and without a
slash at its end with a redirect to the path with one. A request may ask for a file only if it was
written before or after some point in time, and for parts of a file.
-/

namespace BenchScope.Viewer

open Http

/-- The files that are served, and when they were written, in seconds from the start of 1970. -/
structure Disk where
  files : FileTree
  written : Nat

/-- The names in a path below a folder; none if it is no text or might lead out of the folder. -/
def namesBelow? (path : List Char) : Option (List String) :=
  (Text.Percent.decodeText? (path.dropWhile Path.isSlash)).bind fun text =>
    let names := (Path.parts text).filter fun part => part ≠ [] ∧ part ≠ ['.']
    if text.head? = some '/' ∨ ['.', '.'] ∈ names then none else some (names.map String.ofList)

/-- The point in time that a header gives; a header that cannot be read does not count. -/
def time? (request : Request) (header : String) : Option Nat :=
  ((request.header? header).bind Time.ofText?).map Time.toSeconds

/-- The response to a request that has conditions on when a file was written, if it does not meet them:
`if-unmodified-since` comes first. -/
def unmetCondition? (request : Request) (written : Nat) : Option Response :=
  if (time? request "if-unmodified-since").any (· < written) then some (.bare 412)
  else if (time? request "if-modified-since").any (written ≤ ·) then some (.bare 304)
  else none

/-- The response with the content of a file, or with the part of it that is asked for. -/
def contentResponse (request : Request) (contentType : String) (file : FileTree.Opened) : Response :=
  match request.visibleHeader? "range" with
  | none => .withBody 200 contentType (.bytes file.bytes)
  | some value =>
    match Range.select? value file.size with
    | some [(first, last)] =>
      .withBody 206 contentType (.bytes ((file.bytes.drop first).take (last + 1 - first)))
    | some _ => .withBody 416 contentType (.text "Cannot serve multipart range requests")
    | none => .withBody 416 contentType .empty

/-- The response to a request for a file. -/
def serveFile (disk : Disk) (file : String) (request : Request) : Response :=
  if !request.isReading then .methodNotAllowed
  else match disk.files.openAt file with
    | .ok opened =>
      (unmetCondition? request disk.written).getD
        (contentResponse request (MediaType.ofPath file) opened)
    | .error .notFound => .notFound
    | .error .notADirectory => .notFound
    | .error _ => .bare 500

/-- The target with a slash at the end of its path. -/
def withSlash (target : Target) : String :=
  String.ofList (target.origin ++ target.path ++ ['/'] ++
    match target.query with
    | some query => '?' :: query
    | none => [])

/-- The response to a request for a path below a folder. -/
def serveFolder (disk : Disk) (folder : String) (request : Request) : Response :=
  if !request.isReading then .methodNotAllowed
  else match namesBelow? request.target.path with
    | none => .notFound
    | some names =>
      let file := names.foldl Path.join folder
      if !disk.files.isDirectory file then serveFile disk file request
      else if request.target.path.getLast? = some '/' then
        serveFile disk (Path.join file "index.html") request
      else .redirect (withSlash request.target)

end BenchScope.Viewer
