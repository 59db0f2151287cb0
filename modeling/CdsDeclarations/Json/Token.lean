import CdsDeclarations.Json.Numeral
import CdsDeclarations.Json.TextLiteral

/-!
# Tokens

A text as a list of tokens, without the blanks between them. The list ends with the text or with
the first token that breaks off; what comes after that one is never looked at.
-/

namespace CdsDeclarations.Json

inductive Token
  | null
  | boolean (value : Bool)
  | number (numeral : Numeral)
  | text (literal : TextLiteral)
  | openList
  | closeList
  | openObject
  | closeObject
  | comma
  | colon
  /-- A word that begins like a literal, and whether it breaks off because the text ends. -/
  | brokenWord (textEnds : Bool)
  /-- A character that begins no token. -/
  | unknown
  deriving DecidableEq, Repr

def isBlank (c : Char) : Bool :=
  c = ' ' || c = '\t' || c = '\n' || c = '\r'

namespace Token

/-- What follows the letters of a word, or whether the word breaks off because the text ends. -/
def readWord : List Char → List Char → Except Bool (List Char)
  | [], rest => .ok rest
  | _ :: _, [] => .error true
  | letter :: word, c :: rest => if c = letter then readWord word rest else .error false

/-- A word of which the first letter is read. -/
def wordToken (token : Token) (letters : String) (text : List Char) : Token × List Char :=
  match readWord letters.toList text with
  | .ok rest => (token, rest)
  | .error textEnds => (.brokenWord textEnds, [])

def numberToken (numeral : Numeral × List Char) : Token × List Char :=
  (.number numeral.1, numeral.2)

/-- The token that begins with a character, and the text after it. -/
def next (c : Char) (rest : List Char) : Token × List Char :=
  if c = '\x7b' then (.openObject, rest)
  else if c = '\x7d' then (.closeObject, rest)
  else if c = '[' then (.openList, rest)
  else if c = ']' then (.closeList, rest)
  else if c = ',' then (.comma, rest)
  else if c = ':' then (.colon, rest)
  else if c = '"' then
    let scanned := TextLiteral.scan [] rest
    (.text scanned.1, scanned.2)
  else if c = '-' then numberToken (Numeral.readUnsigned true rest)
  else if isDigit c then numberToken (Numeral.readUnsigned false (c :: rest))
  else if c = 'n' then wordToken .null "ull" rest
  else if c = 't' then wordToken (.boolean true) "rue" rest
  else if c = 'f' then wordToken (.boolean false) "alse" rest
  else (.unknown, rest)

/-- Whether the text can be read on after a token. -/
def isWhole : Token → Bool
  | number numeral => numeral.ending = .complete
  | text literal => literal.ending = .closed
  | brokenWord _ => false
  | unknown => false
  | _ => true

/-- Every step takes at least one character, so as many steps as characters are enough. -/
def scanSteps : Nat → List Char → List Token
  | 0, _ => []
  | _ + 1, [] => []
  | steps + 1, c :: rest =>
    if isBlank c then scanSteps steps rest
    else
      let (token, rest) := next c rest
      token :: (if token.isWhole then scanSteps steps rest else [])

/-- The tokens of a text. -/
def scan (text : List Char) : List Token :=
  scanSteps text.length text

end Token

end CdsDeclarations.Json
