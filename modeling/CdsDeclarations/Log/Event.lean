import CdsDeclarations.Rendering.Shape

/-!
# Events

What a run reports while it goes on, each event with its level, its target and its wording.
-/

namespace CdsDeclarations

/-- Levels from the most to the least severe. -/
inductive LogLevel
  | error
  | warn
  | info
  | debug
  | trace
  deriving DecidableEq, Repr

namespace LogLevel

/-- How much a level lets through: the levels up to its own rank. -/
def rank : LogLevel → Nat
  | error => 1
  | warn => 2
  | info => 3
  | debug => 4
  | trace => 5

def name : LogLevel → String
  | error => "ERROR"
  | warn => "WARN"
  | info => "INFO"
  | debug => "DEBUG"
  | trace => "TRACE"

end LogLevel

inductive Event
  | generating (count : Nat) (namespaceName : Option String)
  | skipping (modelName : String)
  | rendering (modelName : String) (shape : Shape) (name : String)
  | collision (previous modelName name : String)
  | indexRenamed (name : String)
  | fileRenamed (modelName stem name : String)
  | wrote (path : String) (size : Nat)
  | converting (path : String)
  | generated (count : Nat)
  deriving DecidableEq, Repr

/-- The name of the declaration that lists all entities. -/
def entityIndexName : String := "Entity"

def Shape.logName : Shape → String
  | interface => "Entity"
  | enumeration => "Enum"
  | typeAlias => "Alias"

namespace Event

def level : Event → LogLevel
  | generating _ _ | skipping _ | rendering _ _ _ => .debug
  | collision _ _ _ | indexRenamed _ | fileRenamed _ _ _ => .warn
  | wrote _ _ | converting _ | generated _ => .info

/-- The part of the program that an event comes from. -/
def target : Event → String
  | wrote _ _ => "cds2ts_codegen::output"
  | converting _ | generated _ => "cds2ts"
  | _ => "cds2ts_codegen::generator"

/-- The names of what an event carries: its message alone. -/
def fields (_ : Event) : List String :=
  ["message"]

def message : Event → String
  | generating count namespaceName =>
    "Generating " ++ toString count ++ " definitions (namespace: " ++
      namespaceName.getD "<none>" ++ ")"
  | skipping modelName => "Skipping " ++ modelName ++ " (Other)"
  | rendering modelName shape name =>
    "Rendering " ++ modelName ++ " as " ++ shape.logName ++ " " ++ name
  | collision previous modelName name =>
    previous ++ " and " ++ modelName ++ " are both declared as " ++ name
  | indexRenamed name =>
    entityIndexName ++ " is already declared, entity index renamed to " ++ name
  | fileRenamed modelName stem name =>
    modelName ++ " written to " ++ stem ++ ".ts, " ++ name ++ ".ts is already taken"
  | wrote path size => "Wrote " ++ path ++ " (" ++ toString size ++ " bytes)"
  | converting path => "Converting " ++ path
  | generated count => "Generated " ++ toString count ++ " file(s)"

/-- What an event carries, in the order in which its message mentions it. -/
def carried : Event → List String
  | generating count namespaceName => [toString count, namespaceName.getD "<none>"]
  | skipping modelName => [modelName]
  | rendering modelName shape name => [modelName, shape.logName, name]
  | collision previous modelName name => [previous, modelName, name]
  | indexRenamed name => [entityIndexName, name]
  | fileRenamed modelName stem name => [modelName, stem, name]
  | wrote path size => [path, toString size]
  | converting path => [path]
  | generated count => [toString count]

end Event

/-- A text that holds some words one after the other, with other text before, between and after
them. -/
inductive Mentions : List String → String → Prop
  | nothing (text : String) : Mentions [] text
  | skip {words : List String} {text : String} (h : Mentions words text) (other : String) :
      Mentions words (text ++ other)
  | word {words : List String} {text : String} (h : Mentions words text) (next : String) :
      Mentions (words ++ [next]) (text ++ next)

theorem Mentions.first (word : String) : Mentions [word] word := by
  have h := (Mentions.nothing "").word word
  rwa [String.empty_append] at h

namespace Event

/-- The message of an event mentions all that the event carries, in order. -/
theorem message_mentions (event : Event) : Mentions event.carried event.message := by
  cases event with
  | generating count namespaceName =>
    exact ((((Mentions.nothing _).word _).skip _).word _).skip _
  | skipping modelName => exact ((Mentions.nothing _).word _).skip _
  | rendering modelName shape name =>
    exact (((((Mentions.nothing _).word _).skip _).word _).skip _).word _
  | collision previous modelName name =>
    exact ((((Mentions.first _).skip _).word _).skip _).word _
  | indexRenamed name => exact ((Mentions.first _).skip _).word _
  | fileRenamed modelName stem name =>
    exact (((((Mentions.first _).skip _).word _).skip _).word _).skip _
  | wrote path size => exact ((((Mentions.nothing _).word _).skip _).word _).skip _
  | converting path => exact (Mentions.nothing _).word _
  | generated count => exact ((Mentions.nothing _).word _).skip _

end Event

end CdsDeclarations
