import BenchScope.FileTree
import BenchScope.Session.Fetch
import BenchScope.Settings.Basic
import BenchScope.Url.Parse

/-!
# Data roots

The documents of a session lie below its data root, which is a folder or an address on the network. In
a folder they are files, and a slash at the start of a path does not count: every path is meant below
the folder.
-/

namespace BenchScope

/-! ## Documents in a folder -/

namespace Folder

/-- The file that holds the document of a path. -/
def fileOf (folder path : String) : String := Path.join folder (Path.withoutLeadingSlashes path)

/-- Why there is no document when its file cannot be read. -/
def fetchError (path : String) : FileError → FetchError
  | .notFound => .notFound path
  | e => .transport path e.message

/-- Reads a document. -/
def fetch (tree : FileTree) (folder path : String) : Outcome :=
  (tree.readText (fileOf folder path)).mapError (fetchError path)

/-- All documents below a folder; reading a file always ends. -/
def fetcher (tree : FileTree) (folder : String) : Fetcher := fun path => some (fetch tree folder path)

end Folder

/-! ## Folders and addresses -/

/-- Where documents are fetched from. -/
inductive DataRoot where
  | folder (path : String)
  | server (base : Url)

namespace DataRoot

/-- The address that documents resolve against: the folder that a given address names. -/
def serverAt (address : Url) : DataRoot := .server address.toFolder

/-- The address of a document below a base address. -/
def resolve (base : Url) (path : String) : Except FetchError Url :=
  (base.join path).mapError fun e => .transport path e.message

end DataRoot

/-- A data root on the network whose address cannot be read. -/
structure InvalidRoot where
  root : String
  error : UrlError
  deriving DecidableEq, Repr

/-- The text shown for a data root that cannot be used. -/
def InvalidRoot.message (e : InvalidRoot) : String :=
  "Invalid data root '" ++ e.root ++ "': " ++ e.error.message

/-- The data root of the settings. -/
def Settings.root (settings : Settings) : Except InvalidRoot DataRoot :=
  if isRemote settings.dataRoot then
    match Url.parse settings.dataRoot with
    | .ok address => .ok (.serverAt address)
    | .error e => .error ⟨settings.dataRoot, e⟩
  else .ok (.folder settings.dataRoot)

end BenchScope
