import CdsDeclarations.Generation.Unit

/-!
# Invocations

What a list of arguments asks for. Arguments are taken from left to right, and the first one that
does not fit, or asks for the version or for help, settles the matter.
-/

namespace CdsDeclarations

/-- The options with a value. -/
inductive ValueOption
  | model
  | output
  | interfacePrefix
  deriving DecidableEq, Repr

/-- The options without a value. -/
inductive Switch
  | split
  | entityIndex
  | verbose
  | version
  | help
  deriving DecidableEq, Repr

inductive CommandOption
  | value (option : ValueOption)
  | switch (switch : Switch)
  deriving DecidableEq, Repr

/-- Every option with its long name and its letter, in the order of the help. -/
def optionNames : List (CommandOption × String × Option Char) :=
  [(.value .model, "cds", some 'c'), (.value .output, "output", some 'o'),
    (.value .interfacePrefix, "prefix", some 'p'), (.switch .split, "split", none),
    (.switch .entityIndex, "entity-index", none), (.switch .verbose, "verbose", some 'v'),
    (.switch .help, "help", some 'h'), (.switch .version, "version", some 'V')]

namespace CommandOption

def ofLongName? (name : List Char) : Option CommandOption :=
  (optionNames.find? fun entry => entry.2.1.toList = name).map Prod.fst

def ofLetter? (letter : Char) : Option CommandOption :=
  (optionNames.find? fun entry => entry.2.2 = some letter).map Prod.fst

end CommandOption

/-- The options that have been given. -/
structure Options where
  model : Option String := none
  output : Option String := none
  interfacePrefix : Option String := none
  split : Bool := false
  entityIndex : Bool := false
  verbosity : Nat := 0
  deriving DecidableEq, Repr

/-- What a complete command asks to convert, and where to. -/
structure Command where
  model : String
  output : Option String
  config : Config
  verbosity : Nat
  deriving DecidableEq, Repr

inductive Invocation
  | convert (command : Command)
  | version
  | help
  | refused
  deriving DecidableEq, Repr

namespace Options

/-- Takes the value of an option, which may be given once. A path has at least one character. -/
def setValue? (options : Options) (value : String) : ValueOption → Option Options
  | .model =>
    if options.model.isSome || value = "" then none else some { options with model := some value }
  | .output =>
    if options.output.isSome || value = "" then none
    else some { options with output := some value }
  | .interfacePrefix =>
    if options.interfacePrefix.isSome then none
    else some { options with interfacePrefix := some value }

/-- Turns a switch on; only the one for verbosity may be repeated. -/
def turnOn (options : Options) : Switch → Except Invocation Options
  | .split => if options.split then .error .refused else .ok { options with split := true }
  | .entityIndex =>
    if options.entityIndex then .error .refused else .ok { options with entityIndex := true }
  | .verbose => .ok { options with verbosity := options.verbosity + 1 }
  | .version => .error .version
  | .help => .error .help

/-- The command that the options make up. A model is needed, and for split output a place. -/
def command? (options : Options) : Option Command :=
  match options.model with
  | none => none
  | some model =>
    if options.split && options.output.isNone then none
    else
      some {
        model := model
        output := options.output
        config := {
          interfacePrefix := options.interfacePrefix.getD ""
          mode := if options.split then .perDefinition else .single
          entityIndex := options.entityIndex }
        verbosity := options.verbosity }

def finish (options : Options) : Invocation :=
  options.command?.elim .refused .convert

end Options

/-- A word that stands alone as a value does not begin with a dash, unless it is a dash. -/
def isSeparateValue (word : String) : Bool :=
  word = "-" || !List.isPrefixOf ['-'] word.toList

/-- An argument word after reading it: new options, an option that waits for its value, or the
answer to the whole command. -/
inductive WordResult
  | options (options : Options)
  | awaits (option : ValueOption) (options : Options)
  | settled (invocation : Invocation)

namespace WordResult

def ofValue (options : Options) (option : ValueOption) (value : List Char) : WordResult :=
  (options.setValue? (String.ofList value) option).elim (settled .refused) WordResult.options

/-- A word with a long name, and perhaps a value after an equals sign. -/
def ofLong (options : Options) (word : List Char) : WordResult :=
  let name := word.takeWhile (· ≠ '=')
  match CommandOption.ofLongName? name, word.dropWhile (· ≠ '=') with
  | none, _ => settled .refused
  | some (.value option), [] => awaits option options
  | some (.value option), _ :: value => ofValue options option value
  | some (.switch switch), [] =>
    match options.turnOn switch with
    | .ok options => .options options
    | .error invocation => settled invocation
  | some (.switch _), _ :: _ => settled .refused

/-- The value after a letter may have an equals sign in front. -/
def attachedValue : List Char → List Char
  | [] => []
  | c :: rest => if c = '=' then rest else c :: rest

/-- A word of letters, the last of which may be followed by its value. -/
def ofLetters (options : Options) : List Char → WordResult
  | [] => .options options
  | letter :: rest =>
    match CommandOption.ofLetter? letter with
    | none => settled .refused
    | some (.value option) =>
      if rest = [] then awaits option options
      else ofValue options option (attachedValue rest)
    | some (.switch switch) =>
      match options.turnOn switch with
      | .ok options => ofLetters options rest
      | .error invocation => settled invocation

def ofWord (options : Options) (word : String) : WordResult :=
  match word.toList with
  | '-' :: '-' :: name => ofLong options name
  | '-' :: letter :: rest => ofLetters options (letter :: rest)
  | _ => settled .refused

end WordResult

namespace Invocation

/-- Reads the words that are left, with the option that waits for a value, if there is one. Two
dashes may only end the list. -/
def readWords (awaiting : Option ValueOption) (options : Options) : List String → Invocation
  | [] => if awaiting.isSome then .refused else options.finish
  | word :: rest =>
    match awaiting with
    | some option =>
      if isSeparateValue word then
        match options.setValue? word option with
        | some options => readWords none options rest
        | none => .refused
      else .refused
    | none =>
      if word = "--" then
        if rest = [] then options.finish else .refused
      else
        match WordResult.ofWord options word with
        | .options options => readWords none options rest
        | .awaits option options => readWords (some option) options rest
        | .settled invocation => invocation

/-- What the arguments ask for. -/
def ofArguments (arguments : List String) : Invocation :=
  readWords none {} arguments

end Invocation

end CdsDeclarations
