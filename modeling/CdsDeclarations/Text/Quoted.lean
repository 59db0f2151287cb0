import CdsDeclarations.Text.Printable

/-!
# Quoted texts in messages

A text that a message shows stands between quotes, with everything that does not print escaped.
-/

namespace CdsDeclarations

/-- A character by its code point in hexadecimal, between braces. -/
def codePointEscape (c : Char) : List Char :=
  ['\\', 'u', Char.ofNat 0x7B] ++ Nat.toDigits 16 c.toNat ++ [Char.ofNat 0x7D]

def quotedChar (c : Char) : List Char :=
  if c = '\x00' then ['\\', '0']
  else if c = '\t' then ['\\', 't']
  else if c = '\r' then ['\\', 'r']
  else if c = '\n' then ['\\', 'n']
  else if c = '"' then ['\\', '"']
  else if c = '\\' then ['\\', '\\']
  else if isPrintable c then [c]
  else codePointEscape c

/-- The text between double quotes, one escape for every character that does not print. -/
def quotedForMessage (text : String) : String :=
  String.ofList ('"' :: text.toList.flatMap quotedChar ++ ['"'])

end CdsDeclarations
