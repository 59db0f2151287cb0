import CdsDeclarations.Log.Event
import CdsDeclarations.Log.FieldValue
import CdsDeclarations.Text.Bytes

/-!
# Log directives

A directive limits what is shown of the events whose target begins with a text. It is written as a
limit alone, as a target alone, or as a target with a limit after an equals sign; after the target
brackets may ask for a span, for a field, or for both.
-/

namespace CdsDeclarations

/-- What a directive asks of an event beside its target. -/
inductive LogCondition
  | always
  | carries (field : List Char)
  | inSpan
  deriving DecidableEq, Repr

namespace LogCondition

/-- Whether an event meets the condition; no event happens inside a span. -/
def holds (condition : LogCondition) (event : Event) : Bool :=
  match condition with
  | always => true
  | carries field => event.fields.any fun name => name.toList = field
  | inSpan => false

/-- Of two directives for one target the one that asks for a field is the more specific. -/
def weight : LogCondition → Nat
  | always => 0
  | carries _ => 1
  | inSpan => 1

end LogCondition

/-- A limit is the rank of the least severe level that is shown; zero shows nothing. -/
structure LogDirective where
  target : List Char
  condition : LogCondition := .always
  limit : Nat
  deriving DecidableEq, Repr

namespace LogDirective

def covers (directive : LogDirective) (event : Event) : Bool :=
  directive.target.isPrefixOf event.target.toList && directive.condition.holds event

/-- Limits by rank, and their names. -/
def limitNames : List (List Char) :=
  ["off", "error", "warn", "info", "debug", "trace"].map String.toList

/-- A rank in decimal digits, with or without a plus sign. -/
def readRank? (chars : List Char) : Option Nat :=
  let digits := if chars.head? = some '+' then chars.tail else chars
  if digits ≠ [] ∧ digits.all isDigit ∧ digitsValue digits < limitNames.length then
    some (digitsValue digits)
  else none

/-- A limit by its rank, or by its name in letters of either case. -/
def readLimit? (chars : List Char) : Option Nat :=
  (readRank? chars).or (limitNames.findIdx? fun name => name = chars.map Char.toLower)

/-- Where no limit is given, everything is shown. -/
def noLimit : Nat := LogLevel.trace.rank

/-- The text from the place of a part. A part has its place in the directive without the blanks in
front, and its text is what the directive with those blanks has at the same place. -/
def textAt (whole body rest : List Char) : List Char :=
  dropBytes (byteLength body - byteLength rest) whole

theorem textAt_self (front rest : List Char) :
    textAt (front ++ rest) (front ++ rest) rest = rest := by
  have h : byteLength (front ++ rest) - byteLength rest = byteLength front := by
    rw [byteLength_append]
    omega
  rw [textAt, h, dropBytes_byteLength_append]

/-- The limit at the end of a directive: none given, or given after an equals sign. -/
def readGivenLimit? (whole body : List Char) : List Char → Option Nat
  | '=' :: rest =>
    let text := textAt whole body rest
    if text = [] then some noLimit else readLimit? text
  | rest => if rest.all isBlank then some noLimit else none

/-- The condition that asks for a field. Only fields of spans have values to ask for; a value goes
up to the next equals sign. -/
def fieldCondition? (field : List Char) : Option LogCondition :=
  match field.dropWhile (· ≠ '=') with
  | _ :: rest => if FieldValue.isValid (rest.takeWhile (· ≠ '=')) then some .inSpan else none
  | [] => some (.carries field)

/-- The condition between brackets, behind the opening one, and what follows the closing one: the
name of a span, a field between braces, or both. -/
def readCondition? (whole body chars : List Char) : Option (LogCondition × List Char) :=
  let isSpanChar (c : Char) : Bool := c ≠ ']' && c ≠ '\x7b'
  let span := chars.takeWhile isSpanChar
  match chars.dropWhile isSpanChar with
  | ']' :: rest => some (.inSpan, rest)
  | '\x7b' :: chars =>
    let field := chars.takeWhile (· ≠ '\x7d')
    match chars.dropWhile (· ≠ '\x7d') with
    | '\x7d' :: ']' :: rest =>
      if field = [] then none
      else
        (fieldCondition? (takeBytes (byteLength field) (textAt whole body chars))).map
          fun condition => (if span = [] then condition else .inSpan, rest)
    | _ => none
  | _ => none

/-- Whether a directive may begin with a character. -/
def isStart (c : Char) : Bool :=
  isAlphabetic c || isNumeric c || c = '_' || c = ':' || c = '-' || c = '['

/-- Reads a directive; none if it is malformed. -/
def read? (whole : List Char) : Option LogDirective :=
  let body := whole.dropWhile isBlank
  let isTargetChar (c : Char) : Bool := c ≠ '=' && c ≠ '['
  let target := takeBytes (byteLength (body.takeWhile isTargetChar)) whole
  if !body.head?.any isStart then none
  else
    match body.dropWhile isTargetChar with
    | [] =>
      match readLimit? whole with
      | some limit => some { target := [], limit := limit }
      | none => some { target := whole, limit := noLimit }
    | '[' :: rest => do
      let (condition, rest) ← readCondition? whole body rest
      let limit ← readGivenLimit? whole body rest
      return { target := target, condition := condition, limit := limit }
    | rest => do
      let limit ← readGivenLimit? whole body rest
      return { target := target, limit := limit }

end LogDirective

end CdsDeclarations
