import BenchScope.Text.Bytes

/-!
# Request targets

What a request asks for: a path with an optional query, perhaps behind a scheme and a host. A fragment
does not count. Characters that must be escaped in an address are refused, with some exceptions that
are common in practice.
-/

namespace BenchScope.Http

/-- A request target. `origin` is the scheme and the host in front of the path, if they are given. -/
structure Target where
  origin : List Char
  path : List Char
  query : Option (List Char)
  deriving DecidableEq, Repr

namespace Target

/-- Whether a code point lies in one of a list of ranges. -/
def within (ranges : List (Nat × Nat)) (c : Char) : Bool :=
  ranges.any fun range => range.1 ≤ c.toNat && c.toNat ≤ range.2

/-- Characters of a path. -/
def isPathChar (c : Char) : Bool :=
  0x80 ≤ c.toNat ||
    within [(0x21, 0x22), (0x24, 0x3B), (0x3D, 0x3D), (0x40, 0x5F), (0x61, 0x7E)] c

/-- Characters of a query. -/
def isQueryChar (c : Char) : Bool :=
  0x80 ≤ c.toNat || within [(0x21, 0x21), (0x24, 0x3B), (0x3D, 0x3D), (0x3F, 0x7E)] c

/-- A path with its query; an empty path stands for the root. -/
def ofPath? (origin text : List Char) : Option Target :=
  let text := text.takeWhile (· ≠ '#')
  let path := text.takeWhile (· ≠ '?')
  let query := text.dropWhile (· ≠ '?')
  if path.all isPathChar ∧ (query.drop 1).all isQueryChar then
    some ⟨origin, if path.isEmpty then ['/'] else path, query.head?.map fun _ => query.drop 1⟩
  else none

/-! ## Hosts -/

/-- Characters of a host with user name and port, besides the signs that `HostScan.read?` looks at. -/
def isHostChar (c : Char) : Bool := c.isAlphanum || "!$&'()*+,-.;=_~".toList.contains c

/-- Whether a character ends a host. -/
def endsHost (c : Char) : Bool := c == '/' || c == '?' || c == '#'

/-- What has been seen of a host: the colons since the last user name or bracket, whether brackets have
been opened and closed, whether there has been a percent sign since then, and whether `@` was the last
character. -/
structure HostScan where
  colons : Nat
  isOpened : Bool
  isClosed : Bool
  hasPercent : Bool
  endsInAt : Bool

/-- The most colons that a part of a host may have: those of an address in brackets and of a port. -/
def mostColons : Nat := 8

/-- Reads one character of a host. User names and brackets may hold more colons than a port needs, and
percent signs; what follows them starts anew. -/
def HostScan.read? (scan : HostScan) (c : Char) : Option HostScan :=
  let next := { scan with endsInAt := false }
  if c = ':' then if mostColons ≤ scan.colons then none else some { next with colons := scan.colons + 1 }
  else if c = '[' then
    if scan.hasPercent ∨ scan.isOpened then none else some { next with isOpened := true }
  else if c = ']' then
    if ¬ scan.isOpened ∨ scan.isClosed then none
    else some { next with isClosed := true, colons := 0, hasPercent := false }
  else if c = '@' then some { next with colons := 0, hasPercent := false, endsInAt := true }
  else if c = '%' then some { next with hasPercent := true }
  else if isHostChar c then some next
  else none

/-- Whether a host may end here: brackets are closed, at most one colon leads to a port, and something
follows the user name. -/
def HostScan.mayEnd (scan : HostScan) : Bool :=
  scan.isOpened == scan.isClosed && scan.colons ≤ 1 && !scan.endsInAt && !scan.hasPercent

/-- Whether a text is a host, perhaps with a user name and a port. -/
def isHost (host : List Char) : Bool :=
  (host.foldlM HostScan.read? ⟨0, false, false, false, false⟩).any HostScan.mayEnd

/-! ## Schemes -/

/-- Characters of a scheme. -/
def isSchemeChar (c : Char) : Bool := c.isAlphanum || ['+', '-', '.', '~'].contains c

/-- The longest scheme. -/
def longestScheme : Nat := 64

/-- The schemes that are known, with the signs behind them. -/
def knownSchemes : List (List Char) := ["http://".toList, "https://".toList]

/-- The scheme in front of a target with the signs behind it, and the rest. Known schemes may be written
in any case. -/
def scheme? (text : List Char) : Option (List Char × List Char) :=
  match knownSchemes.find? fun scheme => scheme.isPrefixOf (text.map Char.toLower) with
  | some scheme => some (scheme, text.drop scheme.length)
  | none =>
    match text.dropWhile isSchemeChar with
    | ':' :: '/' :: '/' :: rest =>
      if text.length ≤ 3 then none else some (text.takeWhile isSchemeChar ++ "://".toList, rest)
    | _ => none

/-! ## Targets -/

/-- The longest target, in bytes. -/
def longestTarget : Nat := 65534

/-- Reads a target: a path, a host alone, or an address. -/
def ofText? (text : List Char) : Option Target :=
  if longestTarget < (Text.Utf8.encode text).length then none
  else match text with
    | [] => none
    | ['*'] => some ⟨[], ['*'], none⟩
    | '/' :: _ => ofPath? [] text
    | _ =>
      match scheme? text with
      | none => if isHost text then some ⟨text, [], none⟩ else none
      | some (scheme, rest) =>
        let host := rest.takeWhile (!endsHost ·)
        if host.isEmpty ∨ ¬ isHost host ∨ longestScheme + 3 < scheme.length then none
        else ofPath? (scheme ++ host) (rest.dropWhile (!endsHost ·))

end Target

end BenchScope.Http
