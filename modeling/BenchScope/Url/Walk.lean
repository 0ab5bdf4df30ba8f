import BenchScope.Url.Basic

/-!
# Walking along paths

A path is read step by step. A step `.` is left out and a step `..` takes the step before it away. In the
addresses of files a first step that is a letter and `:` or `|` names a drive, which `..` does not leave.
Tabs and line breaks in a step do not count, but a drive that stands before one is complete.
-/

namespace BenchScope.Url

/-! ## Characters -/

/-- Characters that are escaped in a fragment. -/
def fragmentEscaped (c : Char) : Bool :=
  Host.isControl c || [' ', '"', '<', '>', '\x60'].contains c

/-- Characters that are escaped in a path. -/
def pathEscaped (c : Char) : Bool :=
  fragmentEscaped c || ['#', '?', '\x7b', '\x7d'].contains c

/-- Whether a character divides the steps of a path. -/
def isDivider (special : Bool) (c : Char) : Bool := c == '/' || (special && c == '\\')

/-- Tabs and line breaks, which do not count anywhere. -/
def isInnerBlank (c : Char) : Bool := c == '\t' || c == '\n' || c == '\r'

/-- A text from its first character that counts. -/
def skipBlanks (text : List Char) : List Char := text.dropWhile isInnerBlank

/-- A text without the characters that do not count. -/
def counted (text : List Char) : List Char := text.filter (!isInnerBlank ·)

/-! ## Steps -/

/-- A step with its dots written plainly, to tell whether it is `.` or `..`. -/
def plainDots : List Char → List Char
  | '%' :: '2' :: 'e' :: rest => '.' :: plainDots rest
  | '%' :: '2' :: 'E' :: rest => '.' :: plainDots rest
  | c :: rest => c :: plainDots rest
  | [] => []

/-- Whether a text is a letter and `:` or `|`, which names a drive. -/
def isDrive : List Char → Bool
  | [letter, sign] => letter.isAlpha && (sign == ':' || sign == '|')
  | _ => false

/-- Whether a text is the name of a drive with a colon. -/
def isPlainDrive (text : List Char) : Bool := isDrive text && text.getLast? == some ':'

/-- Whether a text starts with the name of a drive that a divider ends. -/
def startsWithDrive (text : List Char) : Bool :=
  isDrive (text.take 2) && (text.drop 2).head?.all (isDivider true)

/-- What follows the last slash of a path. -/
def lastStep (path : List Char) : List Char := (path.reverse.takeWhile (· ≠ '/')).reverse

/-- A path up to its last slash. -/
def upToSlash (path : List Char) : List Char := (path.reverse.dropWhile (· ≠ '/')).reverse

/-- The first step of a path. -/
def firstStep (path : List Char) : List Char := (path.drop 1).takeWhile (· ≠ '/')

/-- A path without its last step; the drive of a file stays. -/
def dropStep (isFile : Bool) (path : List Char) : List Char :=
  if isFile && isPlainDrive (lastStep path) then path else upToSlash path

/-- A path that ends in a slash, without it, unless it is the one of the root or behind a drive. -/
def dropSlash (path : List Char) : List Char :=
  let before := path.dropLast
  if path.getLast? = some '/' ∧ '/' ∈ before ∧ ¬ startsWithDrive (lastStep before) then before
  else path

/-- A path with a slash at its end. -/
def withSlash (path : List Char) : List Char :=
  if path.getLast? = some '/' then path else path ++ ['/']

/-- A path without its last step, when `..` is read behind it; `divided` tells whether a divider
follows. -/
def above (isFile divided : Bool) (path : List Char) : List Char :=
  let path := dropStep isFile (dropSlash path)
  if divided then withSlash path else path

/-! ## Walks -/

/-- A path that is being read: its text so far, the place where the current step starts, the characters
of the step that are not part of the text yet, and whether the path has turned out to name a drive. -/
structure Walk where
  text : List Char
  start : Nat
  pending : List Char
  onDrive : Bool

namespace Walk

/-- The walk that starts behind a text. -/
def startAt (text : List Char) : Walk := ⟨text, text.length, [], false⟩

/-- Adds the pending characters to the text. -/
def flush (w : Walk) : Walk :=
  { w with text := w.text ++ Text.Percent.encode pathEscaped w.pending, pending := [] }

/-- Ends a step; `divided` tells whether a divider follows. -/
def endStep (isFile divided : Bool) (w : Walk) : Walk :=
  let w := w.flush
  let before := w.text.take w.start
  let step := w.text.drop w.start
  let closing := if divided then ['/'] else []
  if plainDots step = ['.', '.'] then { startAt (above isFile divided before) with onDrive := w.onDrive }
  else if plainDots step = ['.'] then { startAt (withSlash before) with onDrive := w.onDrive }
  else match isFile && w.start == 1 && isDrive step, step with
    | true, letter :: _ => { startAt (before ++ [letter, ':'] ++ closing) with onDrive := true }
    | _, _ => { startAt (w.text ++ closing) with onDrive := w.onDrive }

/-- Reads one character. A character behind a complete drive starts a step below it. -/
def read (isFile special : Bool) (w : Walk) (c : Char) : Walk :=
  if isInnerBlank c then w.flush
  else if isDivider special c then w.endStep isFile true
  else if isFile && isPlainDrive (w.text.drop 1) then
    { w with text := w.text ++ ['/'], start := w.start + 1, pending := w.pending ++ [c] }
  else { w with pending := w.pending ++ [c] }

/-- Reads a text to its end. -/
def readAll (isFile special : Bool) (w : Walk) (text : List Char) : Walk :=
  (text.foldl (read isFile special) w).endStep isFile false

end Walk

/-- The path that a text leads to from the end of a given path. In the addresses of files empty steps
at the beginning do not count. -/
def walk (scheme : List Char) (start text : List Char) : Walk :=
  let w := (Walk.startAt start).readAll (isFileScheme scheme) (isSpecial scheme) text
  if isFileScheme scheme then { w with text := '/' :: w.text.dropWhile (· = '/') } else w

/-- The path that a text leads to behind a host. -/
def walkFromHost (scheme : List Char) (text : List Char) : Walk :=
  match text with
  | [] => walk scheme (if isSpecial scheme then ['/'] else []) []
  | c :: rest =>
    if isDivider (isSpecial scheme) c then walk scheme ['/'] rest else walk scheme ['/'] text

/-! ## Folders -/

/-- The path of a folder, which ends in a slash. -/
def Path.toFolder (scheme : List Char) (path : Path) : Path :=
  if path.toChars.getLast? = some '/' then path
  else match path with
    | .rooted text => .rooted (walkFromHost scheme (text ++ ['/'])).text
    | .whole [] => .whole ['%', '2', 'F']
    | .whole text => .whole (text ++ ['/'])

/-- The address of a folder, so that other addresses resolve below it and not beside it. -/
def toFolder (url : Url) : Url := { url with path := url.path.toFolder url.scheme }

end BenchScope.Url
