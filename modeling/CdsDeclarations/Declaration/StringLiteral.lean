/-!
# String literals

A text between double quotes. Quotes, backslashes, line ends and tabs are escaped, so that a literal
stays on its line and ends at its own closing quote; every other character stands for itself.
-/

namespace CdsDeclarations.StringLiteral

def escapeChar (c : Char) : List Char :=
  if c = '"' then ['\\', '"']
  else if c = '\\' then ['\\', '\\']
  else if c = '\n' then ['\\', 'n']
  else if c = '\r' then ['\\', 'r']
  else if c = '\t' then ['\\', 't']
  else [c]

def encodeChars (chars : List Char) : List Char :=
  '"' :: chars.flatMap escapeChar ++ ['"']

/-- The literal that stands for a text. -/
def encode (text : String) : String :=
  String.ofList (encodeChars text.toList)

end CdsDeclarations.StringLiteral
