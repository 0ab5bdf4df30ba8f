import BenchScope.CommandLine.Basic
import BenchScope.Decimal.Reading
import BenchScope.Entries

/-!
# Reading a command line

Options are written `--name value`, `--name=value`, `-x value`, `-xvalue` or `-x=value`, and flags may
share one dash. The words before the command are options that every command takes; those may also stand
behind it, and there they win. An option is refused when it occurs twice on one side of the command.

The value of an option may be the next word. Such an option stays pending until the next option or the
end, and only then is its value looked at.
-/

namespace BenchScope.CommandLine

/-- What an option takes. -/
inductive Kind where
  | flag
  | text
  | path
  | port
  | format
  | help
  | version
  deriving DecidableEq, Repr

/-- An option: its long name, its letter and what it takes. -/
structure OptionSpec where
  name : String
  letter : Option Char
  kind : Kind
  deriving DecidableEq, Repr

/-- The option that shows the help. -/
def helpOption : OptionSpec := ⟨"help", some 'h', .help⟩

/-- The options that every command takes. -/
def commonOptions : List OptionSpec :=
  [⟨"config", some 'c', .path⟩, ⟨"data-root", some 'r', .text⟩, ⟨"log-json", none, .flag⟩, helpOption]

/-- The options before the command. -/
def leadingOptions : List OptionSpec := ⟨"version", some 'V', .version⟩ :: commonOptions

/-- The commands with their own options. -/
def commands : List (String × List OptionSpec) :=
  [("serve", [⟨"host", none, .text⟩, ⟨"port", some 'p', .port⟩, ⟨"debug", none, .flag⟩]),
   ("render", [⟨"bm", some 'b', .text⟩, ⟨"all", some 'a', .flag⟩, ⟨"output", some 'o', .path⟩,
     ⟨"format", some 'f', .format⟩, ⟨"assets", none, .text⟩, ⟨"debug", none, .flag⟩]),
   ("list", []),
   ("deps", [⟨"dir", some 'd', .path⟩])]

/-- The word that asks for the help of a command. -/
def helpWord : String := "help"

/-- The words that may stand in the place of the command. -/
def commandWords : List String := commands.map Prod.fst ++ [helpWord]

/-! ## Values -/

/-- A port number: digits, perhaps behind a sign. -/
def port? (text : String) : Option Nat :=
  (Decimal.integer? text.toList).bind fun n => if 0 ≤ n ∧ n < Nat.pow 2 16 then some n.toNat else none

/-- Refuses a value that an option does not take. -/
def Kind.check (kind : Kind) (value : String) : Except Fault Unit :=
  match kind with
  | .path => if value = "" then .error .missingValue else .ok ()
  | .port => if (port? value).isSome then .ok () else .error .invalidValue
  | .format => if (Report.Format.ofName? value).isSome then .ok () else .error .invalidValue
  | _ => .ok ()

/-- What has been read on one side of the command: the options with their values, and an option whose
value may still come or has not been looked at. -/
structure Found where
  values : Entries String
  pending : Option (OptionSpec × Option String)

namespace Found

/-- Nothing has been read. -/
def nothing : Found := ⟨[], none⟩

/-- Takes in an option with its value. -/
def add (found : Found) (option : OptionSpec) (value : String) : Except Fault Found :=
  if found.values.has option.name then .error .conflict
  else match option.kind.check value with
    | .error fault => .error fault
    | .ok () => .ok { found with values := found.values ++ [(option.name, value)] }

/-- Takes in the pending option. -/
def settle (found : Found) : Except Fault Found :=
  match found.pending with
  | none => .ok found
  | some (_, none) => .error .missingValue
  | some (option, some value) => add { found with pending := none } option value

/-- Whether the next word is the value of the pending option. -/
def isWaiting (found : Found) : Bool :=
  match found.pending with
  | some (_, none) => true
  | _ => false

/-- Takes in an option that stands alone. -/
def meet (found : Found) (option : OptionSpec) : Except Fault Found := do
  let found ← found.settle
  match option.kind with
  | .help => throw .help
  | .version => throw .version
  | .flag => found.add option "true"
  | _ => return { found with pending := some (option, none) }

/-- Takes in an option with a value attached to it. -/
def meetWith (found : Found) (option : OptionSpec) (value : String) : Except Fault Found := do
  (← found.settle).add option value

end Found

/-- Whether an option takes a value. -/
def OptionSpec.takesValue (option : OptionSpec) : Bool :=
  match option.kind with
  | .text => true
  | .path => true
  | .port => true
  | .format => true
  | _ => false

/-! ## Words -/

/-- Reads `--name` or `--name=value`, without the dashes. -/
def readLong (options : List OptionSpec) (found : Found) (text : List Char) : Except Fault Found :=
  let name := String.ofList (text.takeWhile (· ≠ '='))
  match options.find? (·.name = name), text.dropWhile (· ≠ '=') with
  | none, _ => .error .unknownArgument
  | some option, [] => found.meet option
  | some option, _ :: value =>
    if option.takesValue then found.meetWith option (String.ofList value) else .error .unexpectedValue

/-- Reads letters behind one dash; a letter that takes a value takes the rest as its value. -/
def readShort (options : List OptionSpec) (found : Found) : List Char → Except Fault Found
  | [] => .ok found
  | c :: rest =>
    match options.find? (·.letter = some c) with
    | none => .error .unknownArgument
    | some option =>
      if option.takesValue then
        match rest with
        | [] => found.meet option
        | '=' :: value => found.meetWith option (String.ofList value)
        | value => found.meetWith option (String.ofList value)
      else
        match found.meet option with
        | .error fault => .error fault
        | .ok found => readShort options found rest

/-- The fault of a word that is no option and no value. -/
def strayWord (words : List String) : Fault :=
  if words.isEmpty then .unknownArgument else .unknownCommand

/-- The fault of a word behind `--`. -/
def wordAfterDashes (words : List String) (word : String) : Fault :=
  if words.contains word then .unknownArgument else strayWord words

/-- Reads words up to the one in the place of the command, which is one of `words`. The result has that
word and those behind it. -/
def readWords (options : List OptionSpec) (words : List String) :
    Found → List String → Except Fault (Found × Option (String × List String))
  | found, [] => .ok (found, none)
  | found, word :: rest =>
    if !found.isWaiting && words.contains word then .ok (found, some (word, rest))
    else match word.toList with
      | ['-', '-'] =>
        match rest with
        | [] => .ok (found, none)
        | next :: _ => .error (wordAfterDashes words next)
      | '-' :: '-' :: text =>
        match readLong options found text with
        | .error fault => .error fault
        | .ok found => readWords options words found rest
      | '-' :: c :: text =>
        match readShort options found (c :: text) with
        | .error fault => .error fault
        | .ok found => readWords options words found rest
      | _ =>
        match found.pending with
        | some (option, none) =>
          readWords options words { found with pending := some (option, some word) } rest
        | _ => .error (strayWord words)

/-! ## Commands -/

/-- The variable that gives the data root if no option does. -/
def dataRootVariable : String := "BMXP_DATA_ROOT"

/-- Follows a request for help: every word behind it must be a command, and only one can be. -/
def helpFor : List String → Fault
  | [] => .help
  | [word] => if commandWords.contains word then .help else .unknownCommand
  | _ => .unknownCommand

/-- Whether a flag was given. -/
def flag (values : Entries String) (name : String) : Bool := values.has name

/-- The command with its options. -/
def commandOf (word : String) (values : Entries String) : Command :=
  match word with
  | "serve" => .serve (values.get? "host") ((values.get? "port").bind port?) (flag values "debug")
  | "render" =>
    .render {
      benchmark := values.get? "bm"
      all := flag values "all"
      output := values.get? "output"
      format := ((values.get? "format").bind Report.Format.ofName?).getD .both
      assets := (values.get? "assets").getD "static/"
      debug := flag values "debug" }
  | "deps" => .deps (values.get? "dir")
  | _ => .list

/-- Refuses options that exclude each other. -/
def checkConflicts (values : Entries String) : Except Fault Unit :=
  if values.has "bm" && values.has "all" then .error .conflict else .ok ()

/-- Reads a command line, given the environment. -/
def parse (environment : List (String × String)) (args : List String) : Except Fault Invocation := do
  let rootVariable := Entries.get? environment dataRootVariable
  let (leading, place) ← readWords leadingOptions commandWords .nothing args
  match place with
  | none =>
    let leading ← leading.settle
    throw (if leading.values.isEmpty && rootVariable.isNone then .nothingGiven else .missingCommand)
  | some (word, rest) =>
    if word = helpWord then throw (helpFor rest)
    let own := (commands.lookup word).getD []
    let (found, _) ← readWords (own ++ commonOptions) [] .nothing rest
    let found ← found.settle
    checkConflicts found.values
    let leading ← leading.settle
    let common (name : String) : Option String :=
      (found.values.get? name).or (leading.values.get? name)
    return {
      settingsFile := common "config"
      dataRoot := (common "data-root").or rootVariable
      jsonLog := (common "log-json").isSome
      command := commandOf word found.values }

end BenchScope.CommandLine
