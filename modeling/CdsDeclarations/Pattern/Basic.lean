import CdsDeclarations.Pattern.Options

/-!
# Patterns

The structure of a pattern for texts: characters, classes of characters, groups, alternatives and
repetitions. It keeps what decides whether the pattern can be matched, not what it matches.
-/

namespace CdsDeclarations

/-- What stands for one character, or for a place between two. -/
inductive PatternAtom
  | char (c : Char) (asByte : Bool)
  | anyChar
  | category (negated : Bool)
  | edge (ofWord : Bool)
  deriving DecidableEq, Repr

/-- A class of characters between brackets, and the parts it is made of. -/
inductive CharClass
  | atom (atom : PatternAtom)
  | range (first last : PatternAtom)
  | named (negated : Bool)
  | brackets (negated : Bool) (content : CharClass)
  | union (parts : List CharClass)
  | combined (first second : CharClass)

/-- The class of what is in any of the parts; a single part stands for itself. -/
def CharClass.ofParts : List CharClass → CharClass
  | [part] => part
  | parts => .union parts

inductive Pattern
  | options (changes : OptionChanges)
  | atom (atom : PatternAtom)
  | charClass (content : CharClass)
  | repeated (body : Pattern)
  | group (name : Option (List Char)) (changes : OptionChanges) (body : Pattern)
  | sequence (parts : List Pattern)
  | choice (branches : List Pattern)

namespace Pattern

/-- The parts one after the other; a single part stands for itself. -/
def ofParts : List Pattern → Pattern
  | [part] => part
  | parts => .sequence parts

/-- The branches as alternatives; a single branch stands for itself. -/
def ofBranches : List Pattern → Pattern
  | [branch] => branch
  | branches => .choice branches

end Pattern

end CdsDeclarations
