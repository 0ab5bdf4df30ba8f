import BenchScope.Text.Characters

/-!
# Paths

File paths with `/` between their parts. Empty parts and `.` do not count when a file name is looked
up.
-/

namespace BenchScope.Path

/-- The parts of a path between slashes, also the empty ones. -/
def parts : List Char → List (List Char)
  | [] => [[]]
  | c :: rest =>
    match parts rest with
    | [] => [[c]]
    | part :: more => if c = '/' then [] :: part :: more else (c :: part) :: more

/-- The last part of a path that counts; none for `..` and for a path without parts. -/
def fileName? (path : List Char) : Option (List Char) :=
  match ((parts path).filter fun part => part ≠ [] ∧ part ≠ ['.']).getLast? with
  | some ['.', '.'] => none
  | name => name

/-- What follows the last dot of a file name; none without a dot, or if the only dot comes first. -/
def extension? (path : List Char) : Option (List Char) :=
  (fileName? path).bind fun name =>
    let ext := (name.reverse.takeWhile (· ≠ '.')).reverse
    let stem := name.take (name.length - ext.length - 1)
    if ext.length = name.length ∨ stem.isEmpty then none else some ext

/-- Whether a character is a slash. -/
def isSlash (c : Char) : Bool := c == '/'

/-- A path without the slashes at its start. -/
def withoutLeadingSlashes (path : String) : String := String.ofList (path.toList.dropWhile isSlash)

/-- A path without the slashes at its end. -/
def withoutTrailingSlashes (path : String) : String :=
  String.ofList (Text.dropEnd isSlash path.toList)

/-- A path below a directory; an absolute path stands for itself. -/
def join (directory path : String) : String :=
  if path.toList.head? = some '/' ∨ directory = "" then path
  else if directory.toList.getLast? = some '/' then directory ++ path
  else directory ++ "/" ++ path

end BenchScope.Path
