import CdsDeclarations.Pattern.Reader

/-!
# Patterns that can be matched

A matcher works byte by byte and has no tables of character properties. So it supports neither the
categories and word edges of all scripts nor characters of either case among them, and where a
pattern is read byte by byte, nothing in it may match a part of a character. Nesting is limited, and
no two groups share a name.
-/

namespace CdsDeclarations

namespace PatternAtom

/-- Whether an atom of its own can be matched. -/
def isSupported (mode : PatternMode) : PatternAtom → Bool
  | .char c asByte =>
    if mode.unicode then !mode.caseless else !asByte || c.toNat < 128
  | .anyChar => mode.unicode
  | .category negated => !mode.unicode && !negated
  | .edge ofWord => !(ofWord && mode.unicode)

/-- Whether an atom can be matched as part of a class. -/
def isSupportedInClass (mode : PatternMode) : PatternAtom → Bool
  | .char c _ => if mode.unicode then !mode.caseless else c.toNat < 128
  | atom => atom.isSupported mode

end PatternAtom

namespace CharClass

mutual

def isSupported (mode : PatternMode) : CharClass → Bool
  | .atom a => a.isSupportedInClass mode
  | .range first last => first.isSupportedInClass mode && last.isSupportedInClass mode
  | .named negated => if mode.unicode then !mode.caseless else !negated
  | .brackets negated content => (mode.unicode || !negated) && content.isSupported mode
  | .union parts => areSupported mode parts
  | .combined first second => first.isSupported mode && second.isSupported mode

def areSupported (mode : PatternMode) : List CharClass → Bool
  | [] => true
  | part :: parts => part.isSupported mode && areSupported mode parts

end

mutual

/-- How deep the parts of a class are nested. -/
def height : CharClass → Nat
  | .atom _ => 0
  | .range _ _ => 0
  | .named _ => 0
  | .brackets _ content => content.height + 1
  | .union parts => maxHeight parts
  | .combined first second => max first.height second.height + 1

/-- How deep a row of parts is nested; an empty row is not. -/
def maxHeight : List CharClass → Nat
  | [] => 0
  | part :: parts => max (part.height + 1) (maxHeight parts)

end

end CharClass

namespace Pattern

mutual

/-- The mode behind a pattern that can be matched in a mode. -/
def modeAfter? : Pattern → PatternMode → Option PatternMode
  | .options changes, mode => some (mode.change changes)
  | .atom a, mode => if a.isSupported mode then some mode else none
  | .charClass content, mode => if content.isSupported mode then some mode else none
  | .repeated body, mode => body.modeAfter? mode
  | .group _ changes body, mode => (body.modeAfter? (mode.change changes)).map fun _ => mode
  | .sequence parts, mode => modeAfterAll? parts mode
  | .choice branches, mode => modeAfterAll? branches mode

def modeAfterAll? : List Pattern → PatternMode → Option PatternMode
  | [], mode => some mode
  | part :: parts, mode =>
    match part.modeAfter? mode with
    | none => none
    | some mode => modeAfterAll? parts mode

end

mutual

/-- How deep the parts of a pattern are nested. -/
def height : Pattern → Nat
  | .options _ => 0
  | .atom _ => 0
  | .charClass content => content.height
  | .repeated body => body.height + 1
  | .group _ _ body => body.height + 1
  | .sequence parts => maxHeight parts
  | .choice branches => maxHeight branches

/-- How deep a row of parts is nested; an empty row is not. -/
def maxHeight : List Pattern → Nat
  | [] => 0
  | part :: parts => max (part.height + 1) (maxHeight parts)

end

mutual

/-- The names of the groups. -/
def groupNames : Pattern → List (List Char)
  | .options _ => []
  | .atom _ => []
  | .charClass _ => []
  | .repeated body => body.groupNames
  | .group name _ body => name.toList ++ body.groupNames
  | .sequence parts => allGroupNames parts
  | .choice branches => allGroupNames branches

def allGroupNames : List Pattern → List (List Char)
  | [] => []
  | part :: parts => part.groupNames ++ allGroupNames parts

end

/-- The deepest nesting that is supported. -/
def heightLimit : Nat := 250

def isSupported (pattern : Pattern) : Bool :=
  pattern.height ≤ heightLimit && pattern.groupNames.Nodup && (pattern.modeAfter? {}).isSome

end Pattern

/-- Whether a text writes a pattern that can be matched. -/
def isPattern (chars : List Char) : Bool :=
  (Pattern.read? chars).any Pattern.isSupported

end CdsDeclarations
