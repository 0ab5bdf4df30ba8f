import BenchScope.Path
import BenchScope.Text.Bytes

/-!
# File trees

The files below the working directory, as data. A path is followed part by part: every part but the
last must be a directory, `..` goes to the parent, and a slash at the end asks for a directory. Nothing
is known outside the working directory but that the directories above it exist.
-/

namespace BenchScope

/-- Why an operation on a file fails. -/
inductive FileError where
  | notFound
  | exists
  | notADirectory
  | isADirectory
  | nameTooLong
  | nulInName
  | notText
  deriving DecidableEq, Repr

/-- The text of the operating system for an error. -/
def FileError.message : FileError → String
  | .notFound => "No such file or directory (os error 2)"
  | .exists => "File exists (os error 17)"
  | .notADirectory => "Not a directory (os error 20)"
  | .isADirectory => "Is a directory (os error 21)"
  | .nameTooLong => "File name too long (os error 36)"
  | .nulInName => "file name contained an unexpected NUL byte"
  | .notText => "stream did not contain valid UTF-8"

/-- Files by the names on the way to them, and directories that were made without a file in them. -/
structure FileTree where
  files : List (List String × List UInt8)
  directories : List (List String)

namespace FileTree

/-- What stands at a place. -/
inductive Node where
  | absent
  | file (bytes : List UInt8)
  | directory

/-- A place that a path leads to: below the working directory, or outside. -/
inductive Place where
  | inside (names : List String)
  | outside

/-- The names in a path. -/
def namesOf (path : String) : List String :=
  ((Path.parts path.toList).map String.ofList).filter fun name => name ≠ "" ∧ name ≠ "."

/-- A tree with the given files, by their paths. -/
def ofFiles (files : List (String × List UInt8)) : FileTree :=
  ⟨files.map fun (path, bytes) => (namesOf path, bytes), []⟩

/-- What stands at a place. -/
def node (tree : FileTree) : Place → Node
  | .outside => .directory
  | .inside names =>
    match tree.files.find? fun file => file.1 = names with
    | some file => .file file.2
    | none =>
      if names = [] ∨ tree.directories.any (names.isPrefixOf ·) ∨
          tree.files.any (fun file => names.isPrefixOf file.1) then .directory
      else .absent

/-- The longest name of a file, in bytes. -/
def maxName : Nat := 255

/-- The longest path, in bytes, with the byte that ends it. -/
def maxPath : Nat := 4096

/-- One step on a path, from a directory. -/
def step (place : Place) (name : String) : Except FileError Place :=
  if maxName < name.utf8ByteSize then .error .nameTooLong
  else match place with
    | .inside names =>
      if name = "." then .ok place
      else if name = ".." then .ok (if names = [] then .outside else .inside names.dropLast)
      else .ok (.inside (names ++ [name]))
    | .outside => if name = "." ∨ name = ".." then .ok .outside else .error .notFound

/-- Follows names from a place. Only the last name may be absent. -/
def walk (tree : FileTree) : Place → List String → Except FileError Place
  | place, [] => .ok place
  | place, name :: rest =>
    match tree.node place with
    | .absent => .error .notFound
    | .file _ => .error .notADirectory
    | .directory =>
      match step place name with
      | .error e => .error e
      | .ok place => walk tree place rest

/-- The parts of a path that are followed: those that are not empty, and one for a slash at the end. -/
def stepsOf (path : List Char) : List String :=
  let parts := (Path.parts path).filter (!·.isEmpty)
  (parts ++ if path.getLast? = some '/' then [['.']] else []).map String.ofList

/-- The place that a path leads to. -/
def locate (tree : FileTree) (path : String) : Except FileError Place :=
  let chars := path.toList
  if '\x00' ∈ chars then .error .nulInName
  else if path = "" then .error .notFound
  else if maxPath ≤ path.utf8ByteSize then .error .nameTooLong
  else tree.walk (if chars.head? = some '/' then .outside else .inside []) (stepsOf chars)

/-- What a path leads to. -/
def nodeAt (tree : FileTree) (path : String) : Except FileError Node :=
  (tree.locate path).map tree.node

/-- The bytes of a file. -/
def read (tree : FileTree) (path : String) : Except FileError (List UInt8) :=
  match tree.nodeAt path with
  | .error e => .error e
  | .ok .absent => .error .notFound
  | .ok .directory => .error .isADirectory
  | .ok (.file bytes) => .ok bytes

/-- A file that is open: its bytes, and how many there are said to be. -/
structure Opened where
  bytes : List UInt8
  size : Nat

/-- The size that a directory is said to have. -/
def directorySize : Nat := 4096

/-- Opens what stands at a path. A directory can be opened too, but nothing can be read from it. -/
def openAt (tree : FileTree) (path : String) : Except FileError Opened :=
  match tree.nodeAt path with
  | .error e => .error e
  | .ok .absent => .error .notFound
  | .ok .directory => .ok ⟨[], directorySize⟩
  | .ok (.file bytes) => .ok ⟨bytes, bytes.length⟩

/-- The text of a file. -/
def readText (tree : FileTree) (path : String) : Except FileError String :=
  match tree.read path with
  | .error e => .error e
  | .ok bytes =>
    match Text.Utf8.decode? bytes with
    | some chars => .ok (String.ofList chars)
    | none => .error .notText

/-- Whether a path leads to a directory. -/
def isDirectory (tree : FileTree) (path : String) : Bool :=
  match tree.nodeAt path with
  | .ok .directory => true
  | _ => false

/-- The bytes of a path that leads to a file. -/
def file? (tree : FileTree) (path : String) : Option (List UInt8) :=
  match tree.nodeAt path with
  | .ok (.file bytes) => some bytes
  | _ => none

/-! ## Making directories -/

/-- A path without the slashes at its end; the root stays. -/
def withoutFinalSlashes (path : List Char) : List Char :=
  match (path.reverse.dropWhile (· = '/')).reverse with
  | [] => path.take 1
  | trimmed => trimmed

/-- Makes one directory. Slashes at the end of its path do not count. -/
def makeDirectory (tree : FileTree) (path : String) : Except FileError FileTree :=
  match tree.locate (String.ofList (withoutFinalSlashes path.toList)) with
  | .error e => .error e
  | .ok place =>
    match tree.node place, place with
    | .absent, .inside names => .ok { tree with directories := tree.directories ++ [names] }
    | _, _ => .error .exists

/-- The directories on the way to a path, the path itself first. A part `.` counts only at the
beginning. -/
def ancestors (path : String) : List String :=
  let isAbsolute := path.toList.head? = some '/'
  let parts := (Path.parts path.toList).filter (!·.isEmpty)
  let counted := match parts with
    | [] => []
    | first :: more => (if first = ['.'] ∧ isAbsolute then [] else [first]) ++ more.filter (· ≠ ['.'])
  let shorter := (List.range counted.length).reverse.map fun count => counted.take count
  path :: (shorter.filter (!·.isEmpty)).map fun parts =>
    (if isAbsolute then "/" else "") ++ String.ofList (List.intercalate ['/'] parts)

/-- Makes the first of a list of directories, each of which is in the next one, and those after it that
are missing. A directory that is there already stays. -/
def makeMissing (tree : FileTree) : List String → Except FileError FileTree
  | [] => .ok tree
  | path :: above =>
    match tree.makeDirectory path with
    | .ok tree => .ok tree
    | .error .notFound => do
      let tree ← makeMissing tree above
      match tree.makeDirectory path with
      | .ok tree => .ok tree
      | .error e => if e = .exists ∧ tree.isDirectory path then .ok tree else .error e
    | .error e => if e = .exists ∧ tree.isDirectory path then .ok tree else .error e

/-- Makes a directory with all that is missing above it. -/
def ensureDirectory (tree : FileTree) (path : String) : Except FileError FileTree :=
  if path = "" then .ok tree else tree.makeMissing (ancestors path)

/-! ## Writing -/

/-- Writes a file, in place of one that is there. -/
def write (tree : FileTree) (path : String) (bytes : List UInt8) : Except FileError FileTree :=
  match tree.locate path with
  | .error e => .error e
  | .ok .outside => .error .isADirectory
  | .ok (.inside names) =>
    match tree.node (.inside names) with
    | .directory => .error .isADirectory
    | _ =>
      .ok { tree with files := tree.files.filter (fun file => file.1 ≠ names) ++ [(names, bytes)] }

end FileTree

end BenchScope
