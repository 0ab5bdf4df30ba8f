import BenchScope.Report.Files

/-!
# Commands

What the program can be asked for on its command line, and why a command line is not followed.
-/

namespace BenchScope.CommandLine

/-- A report to be written. -/
structure RenderOptions where
  benchmark : Option String
  all : Bool
  output : Option String
  format : Report.Format
  assets : String
  debug : Bool
  deriving DecidableEq, Repr

/-- The commands of the program. -/
inductive Command where
  | serve (host : Option String) (port : Option Nat) (debug : Bool)
  | render (options : RenderOptions)
  | list
  | deps (folder : Option String)
  deriving DecidableEq, Repr

/-- A command with the options that every command takes. -/
structure Invocation where
  settingsFile : Option String
  dataRoot : Option String
  jsonLog : Bool
  command : Command
  deriving DecidableEq, Repr

/-- Which benchmarks a report contains. -/
inductive Selection where
  | nothing
  | one (key : String)
  | everything
  deriving DecidableEq, Repr

/-- The selection that the options of a report make. The key `all` stands for every benchmark. -/
def RenderOptions.selection (options : RenderOptions) : Selection :=
  match options.benchmark, options.all with
  | _, true => .everything
  | some key, false => if key = "all" then .everything else .one key
  | none, false => .nothing

/-- Why a command line does not lead to a command. The first two are not mistakes: the user asks for
the help or for the version. -/
inductive Fault where
  | help
  | version
  | nothingGiven
  | missingCommand
  | unknownCommand
  | unknownArgument
  | missingValue
  | unexpectedValue
  | invalidValue
  | conflict
  deriving DecidableEq, Repr

end BenchScope.CommandLine
