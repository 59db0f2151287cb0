import CdsDeclarations.Log.Event
import CdsDeclarations.Text.Quoted

/-!
# Log lines

An event on its line: its level, its target and its message. Line breaks and tabs of the message
stand as they are; the controls that a terminal would obey are escaped.
-/

namespace CdsDeclarations

/-- The controls below the code point 128 that a log line escapes. -/
def escapedControls : List Char :=
  ['\x07', '\x08', '\x0c', '\x1b', '\x7f']

/-- A character below the code point 256 by two hexadecimal digits. -/
def byteEscape (c : Char) : List Char :=
  ['\\', 'x', Nat.digitChar (c.toNat / 16), Nat.digitChar (c.toNat % 16)]

/-- A character of a message on a log line. -/
def loggedChar (c : Char) : List Char :=
  if c ∈ escapedControls then byteEscape c
  else if 0x80 ≤ c.toNat ∧ c.toNat ≤ 0x9F then codePointEscape c
  else [c]

/-- A message on a log line. -/
def loggedMessage (message : String) : String :=
  String.ofList (message.toList.flatMap loggedChar)

def Event.line (event : Event) : String :=
  event.level.name ++ " " ++ event.target ++ ": " ++ loggedMessage event.message

end CdsDeclarations
