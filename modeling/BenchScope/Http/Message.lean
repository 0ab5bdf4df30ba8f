import BenchScope.Http.Target

/-!
# Requests and responses

The parts of HTTP messages that the viewer looks at or sets.
-/

namespace BenchScope.Http

/-- A request. Names of headers are in lower case. -/
structure Request where
  method : String
  target : Target
  headers : List (String × String)

/-- Characters of a method or of the name of a header. -/
def isTokenChar (c : Char) : Bool := c.isAlphanum || "!#$%&'*+-.^_|~\x60".toList.contains c

/-- Whether a text is a method or the name of a header. -/
def isToken (text : String) : Bool := text != "" && text.toList.all isTokenChar

/-- Whether a text may be the value of a header. -/
def isHeaderValue (text : String) : Bool :=
  text.toList.all fun c => c == '\t' || (0x20 ≤ c.toNat && c.toNat != 0x7F)

/-- Whether all characters of the value of a header can be seen, those of ASCII alone. -/
def isVisible (text : String) : Bool :=
  text.toList.all fun c => c == '\t' || (0x20 ≤ c.toNat && c.toNat < 0x7F)

namespace Request

/-- A request from its parts; none if they do not make one. -/
def build? (method target : String) (headers : List (String × String)) : Option Request :=
  if !isToken method || !headers.all (fun header => isToken header.1 && isHeaderValue header.2) then none
  else (Target.ofText? target.toList).map fun target =>
    ⟨method, target, headers.map fun header => (String.ofList (header.1.toList.map Char.toLower), header.2)⟩

/-- Whether only the head of the answer is asked for. -/
def isHead (request : Request) : Bool := request.method == "HEAD"

/-- Whether a request asks for something to be shown. -/
def isReading (request : Request) : Bool := request.method == "GET" || request.isHead

/-- The value of a header. -/
def header? (request : Request) (name : String) : Option String := request.headers.lookup name

/-- The value of a header whose characters can all be seen; one with other characters does not count. -/
def visibleHeader? (request : Request) (name : String) : Option String :=
  (request.header? name).filter isVisible

/-- The query, empty if there is none. -/
def query (request : Request) : String := String.ofList (request.target.query.getD [])

end Request

/-- What a response carries. -/
inductive Body where
  | empty
  | text (content : String)
  | bytes (content : List UInt8)
  deriving DecidableEq, Repr

/-- A body as text; bytes that are no text become the replacement character. -/
def Body.toText : Body → String
  | .empty => ""
  | .text content => content
  | .bytes content => String.ofList (Text.Utf8.decodeLossy content)

/-- A response. `isTimed` tells whether a header says how long it took. -/
structure Response where
  status : Nat
  contentType : Option String
  location : Option String
  allow : Option String
  body : Body
  isTimed : Bool
  deriving DecidableEq, Repr

namespace Response

/-- A response without a body. -/
def bare (status : Nat) : Response := ⟨status, none, none, none, .empty, false⟩

/-- A response with a body. -/
def withBody (status : Nat) (contentType : String) (body : Body) : Response :=
  { bare status with contentType := some contentType, body }

/-- Nothing stands at the path. -/
def notFound : Response := bare 404

/-- The path can only be read. -/
def methodNotAllowed : Response := { bare 405 with allow := some "GET,HEAD" }

/-- The thing is to be found elsewhere. -/
def redirect (location : String) : Response := { bare 307 with location := some location }

/-- The response with an empty body if only its head is asked for. -/
def answering (response : Response) (request : Request) : Response :=
  if request.isHead then { response with body := .empty } else response

end Response

end BenchScope.Http
