import BenchScope.Url.Domain

/-!
# Hosts

The host of an address is a domain name, an IPv4 address or, in brackets, an IPv6 address. A name whose
last label is a number is an IPv4 address, and must be a valid one.
-/

namespace BenchScope

/-- Why a text is no address. -/
inductive UrlError where
  | emptyHost
  | invalidDomain
  | invalidDomainCharacter
  | invalidPort
  | invalidIpv4
  | invalidIpv6
  | relativeWithoutBase
  | relativeWithWholeBase
  deriving DecidableEq, Repr

/-- The text shown for an error. -/
def UrlError.message : UrlError → String
  | .emptyHost => "empty host"
  | .invalidDomain => "invalid international domain name"
  | .invalidDomainCharacter => "invalid domain character"
  | .invalidPort => "invalid port number"
  | .invalidIpv4 => "invalid IPv4 address"
  | .invalidIpv6 => "invalid IPv6 address"
  | .relativeWithoutBase => "relative URL without a base"
  | .relativeWithWholeBase => "relative URL with a cannot-be-a-base base"

namespace Url

/-- The host of an address. -/
inductive Host where
  | domain (name : List Char)
  | ipv4 (number : Nat)
  | ipv6 (pieces : List Nat)
  deriving DecidableEq, Repr

namespace Host

/-! ## IPv4 -/

/-- The value of a digit in a base of at most 16. -/
def digit? (base : Nat) (c : Char) : Option Nat :=
  let value :=
    if '0' ≤ c ∧ c ≤ '9' then c.toNat - 0x30
    else if 'a' ≤ c ∧ c ≤ 'f' then c.toNat - 0x57
    else if 'A' ≤ c ∧ c ≤ 'F' then c.toNat - 0x37
    else base
  if value < base then some value else none

/-- The number that digits stand for. -/
def natural? (base : Nat) (text : List Char) : Option Nat :=
  text.foldl (fun n c => do return (← n) * base + (← digit? base c)) (some 0)

/-- A part of an IPv4 address: decimal, octal after `0` or hexadecimal after `0x`. -/
def ipv4Part? : List Char → Option Nat
  | [] => none
  | '0' :: 'x' :: rest => natural? 16 rest
  | '0' :: 'X' :: rest => natural? 16 rest
  | '0' :: c :: rest => natural? 8 (c :: rest)
  | text => natural? 10 text

/-- The parts of a name between dots; a dot at the end does not count. -/
def dotParts (name : List Char) : List (List Char) :=
  let parts := Domain.labels name
  if parts.getLast? = some [] then parts.dropLast else parts

/-- Whether the last label of a name is a number, so that the name is an IPv4 address. -/
def endsInNumber (name : List Char) : Bool :=
  match (dotParts name).getLast? with
  | some label => (!label.isEmpty && label.all Char.isDigit) || (ipv4Part? label).isSome
  | none => false

/-- An IPv4 address: every part but the last is one byte, the last fills the bytes that are left. -/
def ipv4? (name : List Char) : Option Nat := do
  let parts := dotParts name
  if 4 < parts.length then none
  else
    let numbers ← parts.mapM ipv4Part?
    let last ← numbers.getLast?
    let first := numbers.dropLast
    if Nat.pow 256 (4 - first.length) ≤ last ∨ first.any (255 < ·) then none
    else return first.foldl (fun n b => n * 256 + b) 0 * Nat.pow 256 (4 - first.length) + last

/-! ## IPv6 -/

/-- A group of an IPv6 address: one to four hexadecimal digits. -/
def group? (text : List Char) : Option Nat :=
  if text.isEmpty ∨ 4 < text.length then none else natural? 16 text

/-- A byte in the IPv4 part of an IPv6 address: decimal, without zeros in front. -/
def decimalByte? (text : List Char) : Option Nat :=
  match text with
  | [] => none
  | '0' :: _ :: _ => none
  | _ => (natural? 10 text).bind fun n => if n ≤ 255 then some n else none

/-- The two groups of an IPv4 address at the end of an IPv6 address. -/
def dottedGroups? (text : List Char) : Option (List Nat) := do
  match ← (Domain.labels text).mapM decimalByte? with
  | [a, b, c, d] => return [a * 256 + b, c * 256 + d]
  | _ => none

/-- The pieces of a text between colons. -/
def colonPieces : List Char → List (List Char)
  | [] => [[]]
  | c :: rest =>
    match colonPieces rest with
    | [] => [[c]]
    | piece :: more => if c = ':' then [] :: piece :: more else (c :: piece) :: more

/-- Groups between single colons. If `mayEnd`, the last may be an IPv4 address. -/
def groups? (mayEnd : Bool) (text : List Char) : Option (List Nat) :=
  if text.isEmpty then some []
  else
    let pieces := colonPieces text
    match pieces.getLast? with
    | some last =>
      if mayEnd ∧ '.' ∈ last then do
        return (← pieces.dropLast.mapM group?) ++ (← dottedGroups? last)
      else pieces.mapM group?
    | none => none

/-- A text before and after its first double colon. -/
def splitDoubleColon : List Char → Option (List Char × List Char)
  | ':' :: ':' :: rest => some ([], rest)
  | c :: rest => (splitDoubleColon rest).map fun (before, after) => (c :: before, after)
  | [] => none

/-- An IPv6 address: eight groups, or fewer with a double colon for at least one group of zeros. -/
def ipv6? (text : List Char) : Option (List Nat) :=
  match splitDoubleColon text with
  | none => (groups? true text).bind fun groups => if groups.length = 8 then some groups else none
  | some (before, after) => do
    let front ← groups? false before
    let back ← groups? true after
    if 7 < front.length + back.length then none
    else return front ++ List.replicate (8 - front.length - back.length) 0 ++ back

/-- Hexadecimal digits of a number. -/
def hex (n : Nat) : List Char := Nat.toDigits 16 n

/-- The number of zeros at the start of a list. -/
def leadingZeros (groups : List Nat) : Nat := (groups.takeWhile (· = 0)).length

/-- The place and length of the first of the longest runs of zeros. -/
def longestZeros (groups : List Nat) : Nat × Nat :=
  (List.range groups.length).foldl (fun best i =>
    let length := leadingZeros (groups.drop i)
    if best.2 < length then (i, length) else best) (0, 0)

/-- Groups with colons between them. -/
def groupText (groups : List Nat) : List Char := List.intercalate [':'] (groups.map hex)

/-- An IPv6 address with its longest run of at least two zeros as a double colon. -/
def ipv6Text (groups : List Nat) : List Char :=
  let (start, length) := longestZeros groups
  if length < 2 then groupText groups
  else groupText (groups.take start) ++ [':', ':'] ++ groupText (groups.drop (start + length))

/-! ## Hosts of addresses -/

/-- An IPv4 address with dots. -/
def ipv4Text (n : Nat) : List Char :=
  List.intercalate ['.']
    ([n / Nat.pow 256 3, n / Nat.pow 256 2 % 256, n / 256 % 256, n % 256].map (Nat.toDigits 10))

/-- A host as it stands in an address. -/
def toChars : Host → List Char
  | .domain name => name
  | .ipv4 n => ipv4Text n
  | .ipv6 groups => '[' :: ipv6Text groups ++ [']']

/-- The IPv6 address in brackets. -/
def bracketed (text : List Char) : Except UrlError Host :=
  if text.getLast? ≠ some ']' then .error .invalidIpv6
  else match ipv6? (text.drop 1).dropLast with
    | some groups => .ok (.ipv6 groups)
    | none => .error .invalidIpv6

/-- The host of an address that leads to a server. -/
def parse (text : List Char) : Except UrlError Host :=
  if text.head? = some '[' then bracketed text
  else match (Text.Percent.decodeText? text).bind Domain.toAscii? with
    | none => .error .invalidDomain
    | some [] => .error .emptyHost
    | some name =>
      if endsInNumber name then
        match ipv4? name with
        | some n => if n < Nat.pow 2 32 then .ok (.ipv4 n) else .error .invalidIpv4
        | none => .error .invalidIpv4
      else .ok (.domain name)

/-- Characters that no host holds, whatever the scheme. -/
def isForbidden (c : Char) : Bool :=
  ['\x00', '\t', '\n', '\r', ' ', '#', '/', ':', '<', '>', '?', '@', '[', '\\', ']', '^', '|'].contains c

/-- Controls and characters that are not ASCII. -/
def isControl (c : Char) : Bool := c.toNat < 0x20 || 0x7F ≤ c.toNat

/-- The host of an address of a scheme that says nothing about hosts. -/
def parseAny (text : List Char) : Except UrlError Host :=
  if text.head? = some '[' then bracketed text
  else if text.any isForbidden then .error .invalidDomainCharacter
  else .ok (.domain (Text.Percent.encode isControl text))

end Host

end Url

end BenchScope
