import GoIndex.Command.Arguments
import GoIndex.Command.Platform
import GoIndex.Data.Json
import GoIndex.Report
import GoIndex.Session
import GoIndex.Settings.Environment

/-!
# Running a command

A run ends in one of four ways: it prints the help, it prints a report, it refuses the command with
a message, or it is aborted by a fault. What is refused is decided in a fixed order: an option
without a value, then a limit that is no integer, then what the command itself finds wrong. A fault
of the variables, or of the level of log lines that they name, comes before all of these, and those
of the settings between the first two.

What is printed in the end is up to the console. It may not be able to read the markup in a message;
then there is a fault after all.
-/

namespace GoIndex.Command

open Text Data

/-- What a run sees: the file tree, the current directory, the variables of the environment, and
the user's settings file; and what it relies on. -/
structure World where
  tree : Node
  directory : Path
  assignments : List (String × String) := []
  userSettings : Option Node := none
  platform : Platform := {}

/-! ### Outcomes -/

/-- Why a command is refused. -/
inductive Refusal where
  | missingValue (option : String)
  | invalidLimit (limit : String)
  | unknownSymbol (name : String) (suggestions : List String)
  | invalidKind (kind : String)
  | emptyModule (module : String) (known : List String)
  | unknownType (name : String)
  | unknownCommand (command : String)
  deriving DecidableEq, Repr

/-- Names with commas between them, or a word for there being none. -/
def listed (names : List String) : String :=
  if names.isEmpty then "none" else ", ".intercalate names

/-- What is said about a refusal. -/
def Refusal.message : Refusal → String
  | .missingValue option => "Missing value for " ++ option
  | .invalidLimit limit => "Invalid --limit " ++ quoted limit ++ ": expected an integer"
  | .unknownSymbol name suggestions =>
    "Symbol " ++ quoted name ++ " not found. Did you mean: " ++ listed suggestions
  | .invalidKind kind =>
    "Invalid --kind " ++ quoted kind ++ ". Valid kinds: " ++
      ", ".intercalate (Kind.all.map Kind.label)
  | .emptyModule module known =>
    "Module " ++ quoted module ++ " has no declarations. Known modules: " ++ listed known
  | .unknownType name => "Type " ++ quoted name ++ " not found."
  | .unknownCommand command =>
    "Unknown command: " ++ command ++ "\nRun 'goscope --help' for usage."

/-- How a run ends. -/
inductive Outcome where
  | help
  | report (value : Value)
  | refused (refusal : Refusal)
  | aborted (fault : Fault)

/-- How the program is used. -/
def helpText : String :=
  "Usage: goscope <command> [ARGS] [--dir <path>]\n" ++
  "\n" ++
  "Commands:\n" ++
  "  find <name>                       Exact (then case-insensitive) lookup\n" ++
  "  search <query> [--module <m>] [--kind <k>] [--limit <n>]\n" ++
  "  module <name> [--limit <n>]       Summary of one module\n" ++
  "  stats                             Whole-tree statistics\n" ++
  "  deps                              Per-module imports and exports\n" ++
  "  relations <name>                  Embedded types and referencing declarations\n" ++
  "  topic <topic>                     Ranked hits grouped by module and kind\n" ++
  "\n" ++
  "The source root defaults to $GOSCOPE_REPO_PATH, then the current directory.\n" ++
  "Results are printed as JSON.\n"

/-- What a run leaves behind: what it prints on standard output and on standard error, and its exit
status. -/
structure Display where
  output : String := ""
  complaint : String := ""
  status : Nat
  deriving DecidableEq, Repr

/-- What an outcome leaves behind on a console, if there is no fault. -/
def Outcome.display (console : Console) : Outcome → Except Fault Display
  | .help => .ok { output := helpText ++ "\n", status := 0 }
  | .report value => .ok { output := console.report (value.json .indented), status := 0 }
  | .refused refusal => (console.message refusal.message).map fun text =>
    { complaint := text, status := 1 }
  | .aborted fault => .error fault

/-! ### Commands -/

/-- The limit that an option gives, if there is one, in as many digits as are allowed. -/
def limitOf (digitLimit : Option Nat) (arguments : Arguments) : Except Refusal (Option Int) :=
  match arguments.option? "limit" with
  | none => .ok none
  | some limit =>
    match readInteger? digitLimit limit with
    | some n => .ok (some n)
    | none => .error (.invalidLimit limit)

/-- The limit of a command: zero counts as no limit given. -/
def limitOr (limit : Option Int) (default : Int) : Int :=
  match limit with
  | none => default
  | some n => if n = 0 then default else n

/-- The kind that an option gives, if there is one. -/
def kindOf (arguments : Arguments) : Except Refusal (Option Kind) :=
  match arguments.option? "kind" with
  | none => .ok none
  | some label =>
    match Kind.ofLabel? label with
    | some kind => .ok (some kind)
    | none => .error (.invalidKind label)

/-- Looks a declaration up. -/
def findReport (catalog : Catalog) (name : String) : Except Refusal Value :=
  match catalog.named? name with
  | some d => .ok d.report
  | none => .error (.unknownSymbol name ((catalog.suggestions name 5).map (·.name)))

/-- Searches within a scope. -/
def searchReport (catalog : Catalog) (query : String) (limit : Int) (scope : Scope) : Value :=
  .list ((catalog.search query limit scope).map Hit.report)

/-- Sums a module up. -/
def moduleReport (catalog : Catalog) (module : String) (limit : Int) : Except Refusal Value :=
  let summary := catalog.summary module limit
  if summary.total = 0 then .error (.emptyModule module catalog.modules)
  else .ok (summary.report Declaration.report)

/-- Shows the relations of a declaration. -/
def relationsReport (catalog : Catalog) (name : String) : Except Refusal Value :=
  match catalog.relations? name with
  | some relations => .ok (relations.report Declaration.report)
  | none => .error (.unknownType name)

/-- The commands. -/
inductive Verb where
  | find
  | search
  | module
  | stats
  | deps
  | relations
  | topic
  deriving DecidableEq, Repr

/-- The command that a word names. -/
def Verb.ofWord? : String → Option Verb
  | "find" => some .find
  | "search" => some .search
  | "module" => some .module
  | "stats" => some .stats
  | "deps" => some .deps
  | "relations" => some .relations
  | "topic" => some .topic
  | _ => none

/-- Carries a command out on an index. -/
def Verb.run (verb : Verb) (arguments : Arguments) (limit : Option Int) (settings : SearchSettings)
    (index : Index) (tree : Node) : Except Fault (Except Refusal Value) := do
  let text := arguments.text
  match verb with
  | .find => return findReport (← index.catalog tree) text
  | .search =>
    match kindOf arguments with
    | .error refusal => return .error refusal
    | .ok kind =>
      let scope : Scope := ⟨arguments.option? "module", kind⟩
      let limit := limitOr limit settings.defaultLimit
      return .ok (searchReport (← index.catalog tree) text limit scope)
  | .module =>
    return moduleReport (← index.catalog tree) text (limitOr limit settings.highlightCount)
  | .stats => return .ok (← index.catalog tree).libraryStatistics.report
  | .deps =>
    return .ok (.list ((← (index.dependencies tree).2).map Index.Dependencies.report))
  | .relations => return relationsReport (← index.catalog tree) text
  | .topic =>
    let topic := (← index.catalog tree).topic text (limitOr limit settings.topicLimit)
    return .ok (topic.report Hit.report)

/-- Carries a command line out on an index. -/
def execute (digitLimit : Option Nat) (arguments : Arguments) (settings : SearchSettings)
    (index : Index) (tree : Node) : Except Fault (Except Refusal Value) :=
  match limitOf digitLimit arguments with
  | .error refusal => .ok (.error refusal)
  | .ok limit =>
    match Verb.ofWord? arguments.command with
    | none => .ok (.error (.unknownCommand arguments.command))
    | some verb => verb.run arguments limit settings index tree

/-! ### Runs -/

/-- The settings in the variables, and in the variables file of the current directory. -/
def World.variables (world : World) : Except Fault Environment :=
  match world.tree.contentAt? (world.directory ++ [".env"]) with
  | some (.readable bytes) =>
    match decodeStrictly bytes with
    | .ok text => .ok (.of world.assignments (some (plainLineEnds text)))
    | .error fault => .error (.undecodable fault)
  | _ => .ok (.of world.assignments none)

/-- The settings of the environment. The level of log lines has to be one, if there is need for
it. -/
def World.environment (world : World) : Except Fault Environment := do
  let environment ← world.variables
  unless world.platform.hasLog do
    discard (readLevel environment.logLevel)
  return environment

/-- The first text that is there and not empty. -/
def firstGiven (texts : List (Option String)) : Option String :=
  texts.findSome? fun text => text.filter (!·.isEmpty)

/-- The directory that a command is about, as seen from the current one: the one of the option, else
that of the environment, else the current one. -/
def startOf (environment : Environment) (arguments : Arguments) : String :=
  (firstGiven [arguments.option? "dir", environment.repoPath]).getD "."

/-- The directory whose settings file is the project's, when a command is about `start`. -/
def World.settingsDirectory (world : World) (start : String) : Except Fault Path :=
  let marker := ({} : ScanSettings).rootMarker.fileName
  (world.tree.projectRoot world.directory start marker).mapError .unusable

/-- The settings of a run about `start`. -/
def World.settings (world : World) (start : String) : Except Fault Settings := do
  let directory ← world.settingsDirectory start
  world.platform.load world.userSettings (world.tree.at? (directory ++ settingsFile))

/-- Carries out a command line that has been taken apart, about `start`. -/
def World.carryOut (world : World) (start : String) (arguments : Arguments) :
    Except Fault (Except Refusal Value) := do
  let settings ← world.settings start
  let index ← Index.openAt world.tree world.directory start settings.scan
  execute world.platform.digitLimit arguments settings.search index world.tree

/-- Runs a command line that has been taken apart, about `start`. -/
def World.runArguments (world : World) (start : String) (arguments : Arguments) : Outcome :=
  match world.carryOut start arguments with
  | .error fault => .aborted fault
  | .ok (.error refusal) => .refused refusal
  | .ok (.ok value) => .report value

/-- Whether a word asks for help. -/
def isHelp (word : String) : Bool :=
  word == "--help" || word == "-h"

/-- Runs a command line. -/
def World.run (world : World) (line : List String) : Outcome :=
  if line.head?.all isHelp then .help
  else
    match world.environment, Arguments.parse? line with
    | .error fault, _ => .aborted fault
    | _, none => .help
    | _, some (.error option) => .refused (.missingValue option)
    | .ok environment, some (.ok arguments) =>
      world.runArguments (startOf environment arguments) arguments

/-- What the run of a command line leaves behind, if there is no fault. -/
def World.display (world : World) (line : List String) : Except Fault Display :=
  (world.run line).display world.platform.console

end GoIndex.Command
