import CdsDeclarations.CommandLine.Invocation
import CdsDeclarations.Generation.Conversion
import CdsDeclarations.Log.Filter

/-!
# Runs

One run of the command over a file system: its exit status, what it prints, what it logs, and the
report of a failure.
-/

namespace CdsDeclarations

structure Outcome where
  status : Nat
  output : String := ""
  logLines : List String := []
  report : String := ""
  deriving DecidableEq, Repr

def versionLine : String := "cds2ts 0.1.0\n"

namespace CommandOption

/-- What follows the long name of an option in the help: the name of its value, or the sign of an
option that may be repeated. -/
def helpSuffix : CommandOption → String
  | value .model => " <FILE.json>"
  | value .output => " <PATH>"
  | value .interfacePrefix => " <I>"
  | switch .verbose => "..."
  | switch _ => ""

def description : CommandOption → String
  | value .model => "CSN file to convert (output of `cds compile --to csn`)"
  | value .output => "Output location: a `.ts` file, or a directory. Prints to stdout if absent"
  | value .interfacePrefix => "Interface prefix [default: ]"
  | switch .split => "Write one file per definition into the output directory"
  | switch .entityIndex => "Add an `Entity` enum mapping entity names to model names"
  | switch .verbose => "Increase verbosity (-v, -vv)"
  | switch .help => "Print help"
  | switch .version => "Print version"

end CommandOption

/-- How the help spells an option, with room for a letter where there is none. -/
def helpSpelling : CommandOption × String × Option Char → String
  | (option, name, letter) =>
    let short := letter.elim "    " fun c => String.ofList ['-', c, ',', ' ']
    short ++ "--" ++ name ++ option.helpSuffix

def helpText : String :=
  let width := (optionNames.map fun entry => (helpSpelling entry).length).foldl max 0
  let optionLine := fun entry =>
    let spelling := (helpSpelling entry).toList.rightpad width ' '
    "  " ++ String.ofList spelling ++ "  " ++ entry.1.description ++ "\n"
  "Convert CDS models to TypeScript type declarations\n\n" ++
    "Usage: cds2ts [OPTIONS] --cds <FILE.json>\n\n" ++
    "Options:\n" ++ String.join (optionNames.map optionLine)

/-- The text of a cause, indented by a width on all lines but the first. -/
def indentRest (width : Nat) (text : String) : String :=
  String.ofList (text.toList.flatMap fun c =>
    if c = '\n' then '\n' :: List.replicate width ' ' else [c])

/-- Causes in order, each behind its number. -/
def numberedCauses (number : Nat) : List String → List String
  | [] => []
  | cause :: rest =>
    let figure := toString number
    (String.ofList (List.replicate (5 - figure.toList.length) ' ') ++ figure ++ ": " ++
      indentRest 7 cause) :: numberedCauses (number + 1) rest

/-- The lines of the causes; a single one has no number. -/
def causeLines : List String → List String
  | [cause] => ["    " ++ indentRest 4 cause]
  | causes => numberedCauses 0 causes

/-- The report of a failure: what could not be done, and why. -/
def failureReport (attempt : String) (failure : Failure) : String :=
  "\n".intercalate
    (["Error: " ++ attempt, "", "Caused by:"] ++ causeLines failure.chain)

/-- The level that is shown when nothing else asks for one. -/
def verbosityLevel : Nat → LogLevel
  | 0 => .warn
  | 1 => .info
  | _ => .debug

/-- The filter that the environment asks for, if it is well-formed; else that of the verbosity. -/
def chosenFilter (requested : Option String) (verbosity : Nat) : LogFilter :=
  (requested.bind LogFilter.read?).getD (.ofLevel (verbosityLevel verbosity))

namespace Command

/-- A run that failed in an attempt, after some events. -/
def failed (filter : LogFilter) (events : List Event) (attempt : String) (failure : Failure) :
    Outcome where
  status := 1
  logLines := filter.lines events
  report := failureReport attempt failure

def succeeded (filter : LogFilter) (events : List Event) (output : String) : Outcome where
  status := 0
  output := output
  logLines := filter.lines events

variable {m : Type → Type} [Monad m]

/-- Puts the documents where the command wants them. -/
def deliver (command : Command) (system : FileSystem m) (filter : LogFilter)
    (earlier : List Event) (documents : List Document) : m Outcome :=
  match command.output with
  | none => return succeeded filter earlier (String.join (documents.map (·.content)))
  | some path => do
    let report ← system.writeDocuments documents path
    let events := earlier ++ report.events
    match report.result with
    | .ok written =>
      return succeeded filter (events ++ [.generated written.length]) ""
    | .error failure => return failed filter events ("failed to write " ++ path) failure

def run (command : Command) (system : FileSystem m) (filter : LogFilter) : m Outcome := do
  let started := [Event.converting command.model]
  match ← system.convertFile command.config command.model with
  | .error failure =>
    return failed filter started ("failed to convert " ++ command.model) failure
  | .ok conversion =>
    command.deliver system filter (started ++ conversion.events) conversion.documents

end Command

variable {m : Type → Type} [Monad m]

/-- Runs the command line with its arguments and the log filter that the environment asks for. -/
def runArguments (system : FileSystem m) (requestedFilter : Option String)
    (arguments : List String) : m Outcome :=
  match Invocation.ofArguments arguments with
  | .convert command =>
    command.run system (chosenFilter requestedFilter command.verbosity)
  | .version => return { status := 0, output := versionLine }
  | .help => return { status := 0, output := helpText }
  | .refused => return { status := 2 }

end CdsDeclarations
