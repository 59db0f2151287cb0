import CdsDeclarations.Pattern.Escape

/-!
# Classes between brackets

Reads a class of characters: characters, ranges, named classes and classes in brackets of their
own, joined by intersection and difference.
-/

namespace CdsDeclarations.CharClass

/-- The classes that have a name. -/
def classNames : List (List Char) :=
  ["alnum", "alpha", "ascii", "blank", "cntrl", "digit", "graph", "lower", "print", "punct",
    "space", "upper", "word", "xdigit"].map String.toList

/-- A named class behind the bracket that opens it: the name between colons, behind a circumflex if
it is negated, and the bracket that closes it. -/
def readNamed? : List Char → Option (CharClass × List Char)
  | ':' :: chars =>
    let negated := chars.head? = some '^'
    let chars := if negated then chars.tail else chars
    match chars.dropWhile (· ≠ ':') with
    | ':' :: ']' :: rest =>
      if chars.takeWhile (· ≠ ':') ∈ classNames then some (.named negated, rest) else none
    | _ => none
  | _ => none

/-- A character between brackets: escaped, or as itself. -/
def readChar? (spaced : Bool) : List Char → Option (PatternAtom × List Char)
  | [] => none
  | c :: rest =>
    if c = '\\' then PatternAtom.readEscape? spaced rest else some (.char c false, rest)

/-- The atom as a class; a place between two characters is none. -/
def ofAtom? : PatternAtom → Option CharClass
  | .edge _ => none
  | a => some (.atom a)

/-- A range from one character to another that does not come before it. -/
def ofRange? : PatternAtom → PatternAtom → Option CharClass
  | .char first b, .char last b' =>
    if first ≤ last then some (.range (.char first b) (.char last b')) else none
  | _, _ => none

/-- The next character that counts. One number sign among the blanks is passed over; where there
are only blanks, it is the first of them. -/
def peekSpaced (spaced : Bool) (chars : List Char) : Option Char :=
  if spaced then
    let ahead := chars.dropWhile isBlank
    let ahead := if ahead.head? = some '#' then ahead.tail.dropWhile isBlank else ahead
    ahead.head?.or chars.head?
  else chars.head?

/-- A character or a range. A hyphen before the closing bracket or another hyphen makes no range. -/
def readItem? (spaced : Bool) (chars : List Char) : Option (CharClass × List Char) := do
  let (first, rest) ← readChar? spaced chars
  match skipSpacing spaced rest with
  | '-' :: behind =>
    let ahead := peekSpaced spaced behind
    if ahead = some ']' ∨ ahead = some '-' then return (← ofAtom? first, '-' :: behind)
    else
      let (last, rest) ← readChar? spaced (skipSpacing spaced behind)
      return (← ofRange? first last, rest)
  | rest => return (← ofAtom? first, rest)

/-- What was read before an operator, combined with the parts read since. -/
def joined (earlier : Option CharClass) (parts : List CharClass) : CharClass :=
  let part := ofParts parts.reverse
  match earlier with
  | none => part
  | some first => .combined first part

/-- The mark of negation behind an opening bracket. -/
def readNegation (spaced : Bool) (chars : List Char) : Bool × List Char :=
  match skipSpacing spaced chars with
  | '^' :: rest => (true, rest)
  | rest => (false, rest)

/-- The content up to the closing bracket. Hyphens that lead it stand for themselves, and so does a
closing bracket that leads it. Every step takes at least one character. -/
def readContent? (spaced : Bool) : (steps : Nat) → (leading : Bool) → Option CharClass →
    List CharClass → List Char → Option (CharClass × List Char)
  | 0, _, _, _, _ => none
  | steps + 1, leading, earlier, parts, chars =>
    match skipSpacing spaced chars with
    | [] => none
    | '-' :: '-' :: rest =>
      if leading then
        readContent? spaced steps true earlier (.atom (.char '-' false) :: parts) ('-' :: rest)
      else readContent? spaced steps false (some (joined earlier parts)) [] rest
    | '&' :: '&' :: rest =>
      readContent? spaced steps false (some (joined earlier parts)) [] rest
    | '~' :: '~' :: rest =>
      readContent? spaced steps false (some (joined earlier parts)) [] rest
    | ']' :: rest =>
      if leading && parts.isEmpty then
        readContent? spaced steps false earlier (.atom (.char ']' false) :: parts) rest
      else some (joined earlier parts, rest)
    | '[' :: rest =>
      match readNamed? rest with
      | some (part, rest) => readContent? spaced steps false earlier (part :: parts) rest
      | none =>
        let (negated, rest) := readNegation spaced rest
        match readContent? spaced steps true none [] rest with
        | none => none
        | some (content, rest) =>
          readContent? spaced steps false earlier (.brackets negated content :: parts) rest
    | c :: rest =>
      if leading && c = '-' then
        readContent? spaced steps true earlier (.atom (.char '-' false) :: parts) rest
      else
        match readItem? spaced (c :: rest) with
        | none => none
        | some (part, rest) => readContent? spaced steps false earlier (part :: parts) rest

/-- A class behind the bracket that opens it. -/
def readBrackets? (spaced : Bool) (chars : List Char) : Option (CharClass × List Char) :=
  let (negated, rest) := readNegation spaced chars
  (readContent? spaced (rest.length + 1) true none [] rest).map fun (content, rest) =>
    (.brackets negated content, rest)

end CdsDeclarations.CharClass
