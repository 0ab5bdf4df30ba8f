import BenchScope.Report.Html
import BenchScope.Viewer.Answers
import BenchScope.Viewer.Routes
import BenchScope.Viewer.StaticFiles

/-!
# The site

The viewer as a web site: every request is answered from the settings, the documents that sessions
fetch, and the files on disk.
-/

namespace BenchScope.Viewer

open Http

/-- What a site is made of. `time` is the time that documents about problems show. -/
structure Site where
  settings : Settings
  fetcher : Fetcher
  disk : Disk
  time : String

namespace Site

/-- Where pages find their assets. -/
def assetBase : String := "/static/"

/-- The response about a problem. -/
def problemResponse (site : Site) (problem : Problem) : Response :=
  .withBody problem.status MediaType.json (.text (problem.toJson site.time).compact)

/-- The response with a page. -/
def pageResponse (page : Report.Page) : Response :=
  .withBody 200 MediaType.page (.text (Report.Html.render page assetBase))

/-- The response with a document. -/
def documentResponse (document : Json) : Response :=
  .withBody 200 MediaType.json (.text document.compact)

/-- The response with an answer, made by `shown`. -/
def answerResponse {α : Type} (site : Site) (answer : Answer α) (shown : α → Response) :
    Option Response :=
  answer.map fun result =>
    match result with
    | .ok value => shown value
    | .error problem => site.problemResponse problem

/-- The response about a benchmark, by its key as it stands in the path. -/
def benchmarkResponse (site : Site) (escaped : List Char) : Option Response :=
  match Text.Percent.decodeText? escaped with
  | none => some (.withBody 400 MediaType.message (.text "Invalid URL: Invalid UTF-8 in \x60key\x60"))
  | some key =>
    site.answerResponse (benchmark site.settings site.fetcher (String.ofList key)) fun loaded =>
      documentResponse loaded.toJson

/-- The response of one of the viewer's own pages or documents. -/
def ownResponse (request : Request) (response : Option Response) : Option Response :=
  if request.isReading then response.map (·.answering request) else some .methodNotAllowed

/-- The request as it is seen below a mount. -/
def requestBelow (request : Request) (path : List Char) : Request :=
  { request with target := { request.target with path } }

/-- The response of what stands behind a path, with the parts of the path that place holders stand for.
None if it waits for a fetch that never ends. -/
def endpointResponse (site : Site) (request : Request) (parts : List (List Char)) :
    Endpoint → Option Response
  | .index =>
    ownResponse request
      (site.answerResponse (queryPage site.settings site.fetcher request.query) pageResponse)
  | .all =>
    ownResponse request
      (site.answerResponse (allPage site.settings site.fetcher request.query) pageResponse)
  | .suite =>
    ownResponse request
      (site.answerResponse (suite site.settings site.fetcher) fun suite =>
        documentResponse suite.listing)
  | .benchmark => ownResponse request (site.benchmarkResponse (parts.headD []))
  | .folder mount =>
    let below := requestBelow request (mount.below request.target.path)
    some ((serveFolder site.disk mount.folder below).answering request)
  | .file path => some ((serveFile site.disk path request).answering request)

/-- The response to a request. Every response tells how long it took. None if it waits for a fetch that
never ends. -/
def respond (site : Site) (request : Request) : Option Response :=
  let response := match route? site.settings request.target.path with
    | none => some Response.notFound
    | some (endpoint, parts) => site.endpointResponse request parts endpoint
  response.map fun response => { response with isTimed := true }

end Site

end BenchScope.Viewer
