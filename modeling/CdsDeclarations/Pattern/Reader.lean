import CdsDeclarations.Pattern.Brackets
import CdsDeclarations.Text.Alphabetic
import CdsDeclarations.Text.Numeric

/-!
# Reading patterns

The pattern that a text writes, if it writes one: every group is closed and every repetition has
something to repeat. Repetitions with counts and whatever else stands between braces are not read:
a value that a directive asks for ends at a closing brace.
-/

namespace CdsDeclarations.Pattern

/-- What an opening parenthesis may open: a change of options from there on, or a group. -/
inductive Opening
  | options (changes : OptionChanges)
  | group (name : Option (List Char)) (changes : OptionChanges)
  deriving DecidableEq, Repr

def isNameStart (c : Char) : Bool :=
  c = '_' || isAlphabetic c

def isNameChar (c : Char) : Bool :=
  c = '_' || c = '.' || c = '[' || c = ']' || isAlphabetic c || isNumeric c

/-- The name of a group, up to the angle bracket that ends it. -/
def readName? (chars : List Char) : Option (List Char × List Char) :=
  let name := chars.takeWhile (· ≠ '>')
  match chars.dropWhile (· ≠ '>') with
  | '>' :: rest =>
    if name.head?.any isNameStart && name.tail.all isNameChar then some (name, rest) else none
  | _ => none

/-- What stands behind an opening parenthesis. Looking around is not supported. -/
def readOpening? : List Char → Option (Opening × List Char)
  | '?' :: '=' :: _ => none
  | '?' :: '!' :: _ => none
  | '?' :: '<' :: '=' :: _ => none
  | '?' :: '<' :: '!' :: _ => none
  | '?' :: 'P' :: '<' :: rest => (readName? rest).map fun (name, rest) => (.group name [], rest)
  | '?' :: '<' :: rest => (readName? rest).map fun (name, rest) => (.group name [], rest)
  | '?' :: rest =>
    match OptionChanges.read? true [] rest with
    | some (changes, ')' :: rest) => if changes = [] then none else some (.options changes, rest)
    | some (changes, ':' :: rest) => some (.group none changes, rest)
    | _ => none
  | rest => some (.group none [], rest)

/-- A sign of repetition, applied to the last part; a change of options cannot be repeated. -/
def repeatLast? : List Pattern → Option (List Pattern)
  | [] => none
  | .options _ :: _ => none
  | part :: parts => some (.repeated part :: parts)

/-- A question mark behind a sign of repetition belongs to it. -/
def skipLazyMark : List Char → List Char
  | '?' :: rest => rest
  | rest => rest

/-- The part that a character begins when it is neither a parenthesis nor an operator. -/
def readPart? (spaced : Bool) (c : Char) (rest : List Char) : Option (Pattern × List Char) :=
  if c = '[' then (CharClass.readBrackets? spaced rest).map fun (content, rest) =>
    (.charClass content, rest)
  else if c = '\\' then (PatternAtom.readEscape? spaced rest).map fun (escaped, rest) =>
    (.atom escaped, rest)
  else if c = '\x7b' then none
  else if c = '.' then some (.atom .anyChar, rest)
  else if c = '^' ∨ c = '$' then some (.atom (.edge false), rest)
  else some (.atom (.char c false), rest)

/-- The branches read so far and the last one. -/
def closeBranches (branches parts : List Pattern) : Pattern :=
  ofBranches (ofParts parts.reverse :: branches).reverse

/-- The body of a group or of the whole pattern, up to the closing parenthesis or the end. Every
step takes at least one character. -/
def readBody? : (steps : Nat) → (spaced : Bool) → (branches parts : List Pattern) → List Char →
    Option (Pattern × List Char)
  | 0, _, _, _, _ => none
  | steps + 1, spaced, branches, parts, chars =>
    match skipSpacing spaced chars with
    | [] => some (closeBranches branches parts, [])
    | c :: rest =>
      if c = ')' then some (closeBranches branches parts, c :: rest)
      else if c = '|' then
        readBody? steps spaced (ofParts parts.reverse :: branches) [] rest
      else if c = '*' ∨ c = '+' ∨ c = '?' then
        match repeatLast? parts with
        | none => none
        | some parts => readBody? steps spaced branches parts (skipLazyMark rest)
      else if c = '(' then
        match readOpening? (skipSpacing spaced rest) with
        | none => none
        | some (.options changes, rest) =>
          readBody? steps ((changes.lookup .spaced).getD spaced) branches
            (.options changes :: parts) rest
        | some (.group name changes, rest) =>
          match readBody? steps ((changes.lookup .spaced).getD spaced) [] [] rest with
          | some (body, ')' :: rest) =>
            readBody? steps spaced branches (.group name changes body :: parts) rest
          | _ => none
      else
        match readPart? spaced c rest with
        | none => none
        | some (part, rest) => readBody? steps spaced branches (part :: parts) rest

/-- The pattern that a text writes. -/
def read? (chars : List Char) : Option Pattern :=
  match readBody? (chars.length + 1) false [] [] chars with
  | some (pattern, []) => some pattern
  | _ => none

end CdsDeclarations.Pattern
