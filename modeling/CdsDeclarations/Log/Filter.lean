import CdsDeclarations.Log.Directive
import CdsDeclarations.Log.Line

/-!
# Log filters

Which events are shown, and the lines that show them. Of the directives of a filter the most
specific one that covers an event decides; where none does, the event is not shown.
-/

namespace CdsDeclarations

abbrev LogFilter := List LogDirective

namespace LogFilter

/-- One limit for all targets. -/
def ofLevel (level : LogLevel) : LogFilter :=
  [{ target := [], limit := level.rank }]

/-- The pieces between commas. -/
def splitCommas : List Char → List (List Char)
  | [] => [[]]
  | c :: rest =>
    if c = ',' then [] :: splitCommas rest
    else
      match splitCommas rest with
      | [] => [[c]]
      | piece :: others => (c :: piece) :: others

/-- Reads a filter; none if one of its directives is malformed. Without directives only errors are
shown. -/
def read? (text : String) : Option LogFilter :=
  match (splitCommas text.toList).filter (· ≠ []) with
  | [] => some (ofLevel .error)
  | directives => directives.mapM LogDirective.read?

/-- Whether a directive is more specific than another that covers the same event: it has a longer
target, or the same and a weightier condition. -/
def outranks (first second : LogDirective) : Bool :=
  second.target.length < first.target.length ||
    (second.target.length = first.target.length &&
      second.condition.weight < first.condition.weight)

/-- The more specific of two directives that cover an event; of two that are equally specific the
later one. -/
def better (earlier later : LogDirective) : LogDirective :=
  if outranks earlier later then earlier else later

/-- The limit for an event. -/
def limit (filter : LogFilter) (event : Event) : Nat :=
  match filter.filter (·.covers event) with
  | [] => 0
  | directive :: others => (others.foldl better directive).limit

/-- Whether an event is shown. -/
def shows (filter : LogFilter) (event : Event) : Bool :=
  event.level.rank ≤ filter.limit event

/-- The lines of the events that are shown. -/
def lines (filter : LogFilter) (events : List Event) : List String :=
  (events.filter filter.shows).map Event.line

end LogFilter

end CdsDeclarations
