import BenchScope.Url.Host

/-!
# Addresses

An address in its parts. The path leads from the root of a host, or, for schemes such as `mailto`, it is
one whole text that cannot be the base of other addresses.
-/

namespace BenchScope

namespace Url

/-- The path of an address. One from the root is empty or starts with a slash. -/
inductive Path where
  | rooted (text : List Char)
  | whole (text : List Char)
  deriving DecidableEq, Repr

/-- A path as it stands in an address. -/
def Path.toChars : Path → List Char
  | .rooted text => text
  | .whole text => text

end Url

/-- An address. The parts hold what may stand in an address, with the rest escaped. -/
structure Url where
  scheme : List Char
  credentials : List Char
  host : Option Url.Host
  port : Option Nat
  path : Url.Path
  query : Option (List Char)
  fragment : Option (List Char)
  deriving DecidableEq, Repr

namespace Url

/-- Schemes of servers, with the port that goes without saying. -/
def defaultPorts : List (String × Nat) :=
  [("http", 80), ("https", 443), ("ws", 80), ("wss", 443), ("ftp", 21)]

/-- The port of a scheme that goes without saying. -/
def defaultPort? (scheme : List Char) : Option Nat := defaultPorts.lookup (String.ofList scheme)

/-- Whether an address has the scheme of files. -/
def isFileScheme (scheme : List Char) : Bool := scheme == "file".toList

/-- Whether addresses of a scheme lead to servers or files: they always have a host and a path. -/
def isSpecial (scheme : List Char) : Bool :=
  (defaultPort? scheme).isSome || isFileScheme scheme

/-- The part of an address between `//` and the path. -/
def authority (url : Url) : List Char :=
  match url.host with
  | none => []
  | some host =>
    ['/', '/'] ++ (if url.credentials.isEmpty then [] else url.credentials ++ ['@']) ++
      host.toChars ++
      match url.port with
      | some port => ':' :: Nat.toDigits 10 port
      | none => []

/-- What stands before a path without a host that would look like one. -/
def pathGuard (url : Url) : List Char :=
  match url.host, url.path with
  | none, .rooted ('/' :: '/' :: _) => ['/', '.']
  | _, _ => []

/-- A part behind its sign. -/
def marked (sign : Char) : Option (List Char) → List Char
  | some text => sign :: text
  | none => []

/-- An address as text. -/
def toText (url : Url) : String :=
  String.ofList (url.scheme ++ [':'] ++ url.authority ++ url.pathGuard ++ url.path.toChars ++
    marked '?' url.query ++ marked '#' url.fragment)

end Url

end BenchScope
