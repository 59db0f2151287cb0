import CdsDeclarations.Pattern.Basic
import CdsDeclarations.Text.Blank
import CdsDeclarations.Text.Digits

/-!
# Escapes and spacing in patterns

What a backslash makes of the characters behind it, and what is skipped between the parts of a
pattern that is spaced out.
-/

namespace CdsDeclarations

/-- The text behind blanks and comments. A comment goes from a number sign to the end of its
line. -/
def skipComments (inComment : Bool) : List Char → List Char
  | [] => []
  | c :: rest =>
    if inComment then skipComments (c ≠ '\n') rest
    else if isBlank c then skipComments false rest
    else if c = '#' then skipComments true rest
    else c :: rest

/-- The text behind what a pattern may be spaced out with. -/
def skipSpacing (spaced : Bool) (chars : List Char) : List Char :=
  if spaced then skipComments false chars else chars

namespace PatternAtom

/-- The control characters that have a letter. -/
def controlOf? : Char → Option Char
  | 'a' => some '\x07'
  | 'f' => some '\x0c'
  | 'n' => some '\n'
  | 'r' => some '\r'
  | 't' => some '\t'
  | 'v' => some '\x0b'
  | _ => none

/-- Whether a character stands for itself behind a backslash. -/
def isEscapable (c : Char) : Bool :=
  c.toNat < 128 && !c.isAlphanum && c ≠ '<' && c ≠ '>'

/-- The number that a count of hexadecimal digits goes on to write. -/
def readHex? (spaced : Bool) (value : Nat) : Nat → List Char → Option (Nat × List Char)
  | 0, chars => some (value, skipSpacing spaced chars)
  | count + 1, chars =>
    match skipSpacing spaced chars with
    | [] => none
    | c :: rest =>
      match hexDigit? c with
      | none => none
      | some digit => readHex? spaced (16 * value + digit) count rest

/-- A character by its code point in a count of hexadecimal digits. -/
def readCodePoint? (spaced : Bool) (count : Nat) (asByte : Bool) (chars : List Char) :
    Option (PatternAtom × List Char) :=
  match readHex? spaced 0 count chars with
  | none => none
  | some (value, rest) =>
    if value.isValidChar then some (.char (Char.ofNat value) asByte, rest) else none

/-- What stands behind a backslash. Numbers and properties name nothing that could be matched. -/
def readEscape? (spaced : Bool) : List Char → Option (PatternAtom × List Char)
  | [] => none
  | c :: rest =>
    if c = 'x' then readCodePoint? spaced 2 true rest
    else if c = 'u' then readCodePoint? spaced 4 false rest
    else if c = 'U' then readCodePoint? spaced 8 false rest
    else if c = 'd' ∨ c = 's' ∨ c = 'w' then some (.category false, rest)
    else if c = 'D' ∨ c = 'S' ∨ c = 'W' then some (.category true, rest)
    else if c = 'b' ∨ c = 'B' ∨ c = '<' ∨ c = '>' then some (.edge true, rest)
    else if c = 'A' ∨ c = 'z' then some (.edge false, rest)
    else if isEscapable c then some (.char c false, rest)
    else (controlOf? c).map fun control => (.char control false, rest)

end PatternAtom

end CdsDeclarations
