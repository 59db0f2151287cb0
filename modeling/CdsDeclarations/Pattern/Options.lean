/-!
# Options of patterns

A pattern can switch options on and off, for one of its groups or from some place on. Some of them
decide how the pattern is read or whether it can be matched; the others only change what matches.
-/

namespace CdsDeclarations

inductive PatternOption
  | caseless
  | lineAnchors
  | anyCharIsAnyLine
  | lazyRepetition
  | unicode
  | carriageReturns
  | spaced
  deriving DecidableEq, Repr

/-- The option that a letter stands for. -/
def PatternOption.ofLetter? : Char → Option PatternOption
  | 'i' => some .caseless
  | 'm' => some .lineAnchors
  | 's' => some .anyCharIsAnyLine
  | 'U' => some .lazyRepetition
  | 'u' => some .unicode
  | 'R' => some .carriageReturns
  | 'x' => some .spaced
  | _ => none

/-- The options that are switched, each with whether it is switched on. -/
abbrev OptionChanges := List (PatternOption × Bool)

/-- The options after a question mark, up to the colon or parenthesis that ends them. A minus sign
stands before those that are switched off; it stands once and before at least one. No option stands
twice. -/
def OptionChanges.read? (on : Bool) (changes : OptionChanges) :
    List Char → Option (OptionChanges × List Char)
  | [] => none
  | c :: rest =>
    if c = ':' ∨ c = ')' then some (changes, c :: rest)
    else if c = '-' then
      if !on || rest.head?.any fun next => next = ':' || next = ')' then none
      else OptionChanges.read? false changes rest
    else
      match PatternOption.ofLetter? c with
      | none => none
      | some option =>
        if (changes.lookup option).isSome then none
        else OptionChanges.read? on (changes ++ [(option, on)]) rest

/-- The state of the options that decide how a pattern is read and whether it can be matched. -/
structure PatternMode where
  spaced : Bool := false
  caseless : Bool := false
  unicode : Bool := true
  deriving DecidableEq, Repr

def PatternMode.change (mode : PatternMode) (changes : OptionChanges) : PatternMode where
  spaced := (changes.lookup .spaced).getD mode.spaced
  caseless := (changes.lookup .caseless).getD mode.caseless
  unicode := (changes.lookup .unicode).getD mode.unicode

end CdsDeclarations
