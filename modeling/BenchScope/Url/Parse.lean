import BenchScope.Text.Characters
import BenchScope.Url.Walk

/-!
# Reading addresses

`Url.parse` reads an absolute address, `Url.join` an address relative to another one. Tabs and line
breaks do not count, nor do blanks and controls at the ends. In the schemes of servers and files a
backslash counts as a slash, and the host must be valid.
-/

namespace BenchScope.Url

/-! ## Escapes -/

/-- Characters that are escaped in a user name or a password. -/
def credentialsEscaped (c : Char) : Bool :=
  pathEscaped c || ['/', ':', ';', '=', '@', '[', '\\', ']', '^', '|'].contains c

/-- Characters that are escaped in a query. -/
def queryEscaped (special : Bool) (c : Char) : Bool :=
  Host.isControl c || [' ', '"', '#', '<', '>'].contains c || (special && c == '\'')

/-! ## Cutting a text -/

/-- A text cut at the first character of a class. -/
def cut (p : Char → Bool) (text : List Char) : List Char × Option (List Char) :=
  match text.dropWhile (!p ·) with
  | [] => (text, none)
  | _ :: rest => (text.takeWhile (!p ·), some rest)

/-- Controls and the space, which do not count at the ends of an address. -/
def isOuterBlank (c : Char) : Bool := c.toNat ≤ 0x20

/-- An address cut into what stands before the query, the query and the fragment. -/
structure Cuts where
  body : List Char
  query : Option (List Char)
  fragment : Option (List Char)

/-- Cuts an address at its first `#` and its first `?` before it. -/
def Cuts.ofText (text : List Char) : Cuts :=
  let (front, fragment) := cut (· == '#') text
  let (body, query) := cut (· == '?') front
  ⟨body, query, fragment⟩

/-- Whether an address ends with its body. -/
def Cuts.isBodyOnly (cuts : Cuts) : Bool := cuts.query.isNone && cuts.fragment.isNone

/-- Characters of a scheme. -/
def isSchemeChar (c : Char) : Bool := c.isAlphanum || c == '+' || c == '-' || c == '.'

/-- The scheme in front of an address, in lower case, and what follows it. -/
def scheme? (text : List Char) : Option (List Char × List Char) :=
  let (name, rest) := cut (· == ':') text
  match counted name, rest with
  | c :: more, some rest =>
    if c.isAlpha ∧ more.all isSchemeChar then some ((c :: more).map Char.toLower, rest) else none
  | _, _ => none

/-! ## Hosts with ports -/

/-- A host and what follows it: a colon outside brackets, or a divider. -/
def cutHost (special inBrackets : Bool) : List Char → List Char × List Char
  | [] => ([], [])
  | c :: rest =>
    if isDivider special c ∨ (c = ':' ∧ ¬ inBrackets) then ([], c :: rest)
    else
      let (host, tail) :=
        cutHost special (if c = '[' then true else if c = ']' then false else inBrackets) rest
      (c :: host, tail)

/-- The port at the start of a text and what follows it; none if it is left out or goes without
saying. -/
def portOf (scheme : List Char) (text : List Char) : Except UrlError (Option Nat × List Char) :=
  let digits := text.takeWhile Char.isDigit
  let rest := text.dropWhile Char.isDigit
  let port := digits.foldl (fun n c => n * 10 + (c.toNat - 0x30)) 0
  if Nat.pow 2 16 ≤ port ∨ ¬ rest.head?.all (isDivider true) then .error .invalidPort
  else .ok (if digits.isEmpty ∨ defaultPort? scheme = some port then none else some port, rest)

/-- User name and password as they stand in an address; an empty password is left out. -/
def credentialsOf (text : List Char) : List Char :=
  let (name, password) := cut (· == ':') text
  Text.Percent.encode credentialsEscaped name ++
    match password with
    | some (c :: rest) => ':' :: Text.Percent.encode credentialsEscaped (c :: rest)
    | _ => []

/-- What stands before the last `@` in front of a divider, and what follows it. -/
def cutCredentials (special : Bool) (text : List Char) : Option (List Char) × List Char :=
  let front := text.takeWhile (!isDivider special ·)
  let after := (front.reverse.takeWhile (· ≠ '@')).reverse
  if after.length = front.length then (none, text)
  else
    let size := front.length - after.length - 1
    (some (front.take size), text.drop (size + 1))

/-- Whether a text behind a lone `@` gives no host although an address follows. -/
def lacksHost (special isBodyOnly : Bool) : List Char → Bool
  | [] => !isBodyOnly
  | c :: _ => isDivider special c

/-- An address whose host stands at the start of a text, and whether the address ends with it. -/
def withAuthority (scheme : List Char) (isBodyOnly : Bool) (text : List Char) :
    Except UrlError Url := do
  let special := isSpecial scheme
  let (before, afterCredentials) := cutCredentials special text
  if before = some [] ∧ lacksHost special isBodyOnly afterCredentials then throw .emptyHost
  let credentials := credentialsOf (before.getD [])
  let (name, tail) := cutHost special false afterCredentials
  if special ∧ name.isEmpty then throw .emptyHost
  let host ← if special then Host.parse name else Host.parseAny name
  if name.isEmpty ∧ tail.head? = some ':' then throw .emptyHost
  let (port, rest) ← if tail.head? = some ':' then portOf scheme (tail.drop 1) else pure (none, tail)
  if name.isEmpty ∧ ¬ credentials.isEmpty then throw .emptyHost
  return { scheme, credentials, host, port, path := .rooted (walkFromHost scheme rest).text
           query := none, fragment := none }

/-! ## Files -/

/-- The scheme of files. -/
def fileScheme : List Char := "file".toList

/-- The address of a file without a host. -/
def fileAt (path : List Char) : Url :=
  ⟨fileScheme, [], some (.domain []), none, .rooted path, none, none⟩

/-- The path of an address from its root. -/
def Path.fromRoot : Path → List Char
  | .rooted text => text
  | .whole _ => []

/-- The address of a file with the host that stands at the start of a text. The own host does not
count, and a drive has no host. -/
def fileWithHost (text : List Char) : Except UrlError Url := do
  let name := counted (text.takeWhile (!isDivider true ·))
  let rest := text.dropWhile (!isDivider true ·)
  if isDrive name then return fileAt (walk fileScheme ['/'] text).text
  else if name.isEmpty then return fileAt (walk fileScheme ['/'] rest).text
  else
    let host ← Host.parse name
    if host = .domain "localhost".toList then return fileAt (walk fileScheme ['/'] rest).text
    else
      let found := walkFromHost fileScheme rest
      return if found.onDrive then fileAt found.text else { fileAt found.text with host := some host }

/-- The address of a path from the root, on the host and the drive of the base; `text` starts with a
divider. -/
def fileFromRoot (base : Option Url) (text : List Char) : Url :=
  let below (start : List Char) : Url := fileAt (walk fileScheme start text).text
  match base with
  | none => below []
  | some base =>
    if startsWithDrive (counted (text.drop 1)) then below []
    else
      let drive := firstStep base.path.fromRoot
      if isPlainDrive drive then below ('/' :: drive) else { below [] with host := base.host }

/-- The address of a path that starts beside the base. -/
def fileBeside (base : Option Url) (text : List Char) : Url :=
  match base with
  | none => fileAt (walk fileScheme ['/'] text).text
  | some base =>
    if startsWithDrive (counted text) then fileAt (walk fileScheme ['/'] text).text
    else
      { fileAt (walk fileScheme (dropStep true base.path.fromRoot) text).text with host := base.host }

/-- The address of a file, relative to another one if there is one. -/
def file (base : Option Url) (text : List Char) : Except UrlError Url :=
  match skipBlanks text with
  | [] => .ok (base.getD (fileAt ['/']))
  | c :: rest =>
    if !isDivider true c then .ok (fileBeside base text)
    else match skipBlanks rest with
      | d :: more =>
        if isDivider true d then fileWithHost more else .ok (fileFromRoot base (c :: rest))
      | [] => .ok (fileFromRoot base (c :: rest))

/-! ## Addresses -/

/-- An address on the server of a base address. -/
def relativeTo (base : Url) (isBodyOnly : Bool) (text : List Char) : Except UrlError Url :=
  let below (start text : List Char) : Url :=
    { base with path := .rooted (walk base.scheme start text).text, query := none }
  match text with
  | [] => .ok base
  | c :: rest =>
    if !isDivider true c then
      let start := upToSlash base.path.fromRoot
      .ok (below (if start.isEmpty then ['/'] else start) text)
    else match rest with
      | [] => .ok (below ['/'] rest)
      | d :: more =>
        if !isDivider true d then .ok (below ['/'] rest)
        else if c = '/' ∧ d = '/' then withAuthority base.scheme isBodyOnly more
        else withAuthority base.scheme isBodyOnly (text.dropWhile (isDivider true))

/-- An address of the scheme of a server. A text without two dividers is relative to a base of the same
scheme. -/
def onServer (base : Option Url) (scheme : List Char) (isBodyOnly : Bool) (text : List Char) :
    Except UrlError Url :=
  match base, decide ((text.takeWhile (isDivider true)).length < 2) with
  | some base, true => relativeTo base isBodyOnly text
  | _, _ => withAuthority scheme isBodyOnly (text.dropWhile (isDivider true))

/-- An address of a scheme that leads to no server or file by itself. -/
def elsewhere (scheme : List Char) (isBodyOnly : Bool) (text : List Char) : Except UrlError Url :=
  match text with
  | '/' :: '/' :: rest => withAuthority scheme isBodyOnly rest
  | '/' :: rest => .ok ⟨scheme, [], none, none, .rooted (walk scheme ['/'] rest).text, none, none⟩
  | _ => .ok ⟨scheme, [], none, none, .whole (Text.Percent.encode Host.isControl text), none, none⟩

/-- An address with a scheme in front. -/
def withScheme (base : Option Url) (scheme : List Char) (isBodyOnly : Bool) (text : List Char) :
    Except UrlError Url :=
  let base := base.filter fun url => url.scheme = scheme
  if isFileScheme scheme then file base text
  else if isSpecial scheme then onServer base scheme isBodyOnly (counted text)
  else elsewhere scheme isBodyOnly (counted text)

/-- An address without a scheme in front. -/
def withoutScheme (base : Option Url) (cuts : Cuts) : Except UrlError Url :=
  match base with
  | none => .error .relativeWithoutBase
  | some base =>
    match base.path with
    | .whole _ =>
      if (counted cuts.body).isEmpty ∧ cuts.query.isNone ∧ cuts.fragment.isSome then .ok base
      else .error .relativeWithWholeBase
    | .rooted _ =>
      if isFileScheme base.scheme then file (some base) cuts.body
      else relativeTo base cuts.isBodyOnly (counted cuts.body)

/-- Reads an address, relative to a base if there is one. The query of the base stays if nothing but a
fragment is given. -/
def read (base : Option Url) (text : String) : Except UrlError Url := do
  let cuts := Cuts.ofText (Text.dropEnds isOuterBlank text.toList)
  let url ← match scheme? cuts.body with
    | some (scheme, rest) => withScheme base scheme cuts.isBodyOnly rest
    | none => withoutScheme base cuts
  let escape := Text.Percent.encode (queryEscaped (isSpecial url.scheme))
  return { url with
    query := (cuts.query.map (escape <| counted ·)).or url.query
    fragment := cuts.fragment.map (Text.Percent.encode fragmentEscaped <| counted ·) }

/-- Reads an absolute address. -/
def parse (text : String) : Except UrlError Url := read none text

/-- Reads an address relative to a base. -/
def join (base : Url) (text : String) : Except UrlError Url := read (some base) text

end BenchScope.Url
