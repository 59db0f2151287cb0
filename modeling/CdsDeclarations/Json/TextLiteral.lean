import CdsDeclarations.Json.Fault
import CdsDeclarations.Text.Digits

/-!
# Text literals

A quoted text as it stands, split into characters and 16-bit units from escapes, and the text it
denotes. Pairs of surrogate units make one character; a text that is only skimmed may hold them
unpaired.
-/

namespace CdsDeclarations.Json

/-- A character that stands for itself or by a short escape, or a unit given by its number. -/
inductive TextPiece
  | char (c : Char)
  | unit (value : Nat)
  deriving DecidableEq, Repr

/-- How a quoted text comes to its end: at the closing quote, where the text ends, at a control
character, at an unknown escape, or at a unit escape without four hexadecimal digits. -/
inductive TextEnd
  | closed
  | textEnds
  | controlCharacter
  | unknownEscape
  | badUnit
  deriving DecidableEq, Repr

structure TextLiteral where
  pieces : List TextPiece
  ending : TextEnd
  deriving DecidableEq, Repr

/-- The character of a short escape. -/
def shortEscape? : Char → Option Char
  | '"' => some '"'
  | '\\' => some '\\'
  | '/' => some '/'
  | 'b' => some '\x08'
  | 'f' => some '\x0c'
  | 'n' => some '\n'
  | 'r' => some '\r'
  | 't' => some '\t'
  | _ => none

/-- The unit written by four hexadecimal digits. -/
def hexUnit? (a b c d : Char) : Option Nat := do
  let a ← hexDigit? a
  let b ← hexDigit? b
  let c ← hexDigit? c
  let d ← hexDigit? d
  return ((a * 16 + b) * 16 + c) * 16 + d

/-- A unit escape needs four bytes before the text ends. -/
def badUnitEnd (rest : List Char) : TextEnd :=
  if rest.foldl (fun size c => size + c.utf8Size) 0 < 4 then .textEnds else .badUnit

namespace TextLiteral

/-- The pieces up to the closing quote, and what follows it. -/
def scan (reversed : List TextPiece) : List Char → TextLiteral × List Char
  | [] => (⟨reversed.reverse, .textEnds⟩, [])
  | ['\\'] => (⟨reversed.reverse, .textEnds⟩, [])
  | '"' :: rest => (⟨reversed.reverse, .closed⟩, rest)
  | '\\' :: 'u' :: a :: b :: c :: d :: rest =>
    match hexUnit? a b c d with
    | some value => scan (.unit value :: reversed) rest
    | none => (⟨reversed.reverse, badUnitEnd (a :: b :: c :: d :: rest)⟩, rest)
  | '\\' :: 'u' :: rest => (⟨reversed.reverse, badUnitEnd rest⟩, rest)
  | '\\' :: e :: rest =>
    match shortEscape? e with
    | some c => scan (.char c :: reversed) rest
    | none => (⟨reversed.reverse, .unknownEscape⟩, rest)
  | c :: rest =>
    if c.toNat < 0x20 then (⟨reversed.reverse, .controlCharacter⟩, rest)
    else scan (.char c :: reversed) rest

def isLeading (value : Nat) : Bool :=
  0xD800 ≤ value && value ≤ 0xDBFF

def isTrailing (value : Nat) : Bool :=
  0xDC00 ≤ value && value ≤ 0xDFFF

/-- The character of a leading and a trailing unit. -/
def paired (leading trailing : Nat) : Char :=
  Char.ofNat ((leading - 0xD800) * 0x400 + (trailing - 0xDC00) + 0x10000)

/-- The fault at the end of the pieces, `none` if the text is closed. -/
def endFault? : TextEnd → Option Fault
  | .closed => none
  | .textEnds => some .endInText
  | .controlCharacter => some .controlCharacter
  | .unknownEscape | .badUnit => some .invalidEscape

/-- The fault of a leading unit that the pieces end with: another unit has to begin right there. -/
def afterLeading : TextEnd → Fault
  | .textEnds => .endInText
  | .badUnit => .invalidEscape
  | .closed | .controlCharacter | .unknownEscape => .unexpectedEndOfEscape

def readPieces (ending : TextEnd) (reversed : List Char) : List TextPiece → Except Fault String
  | [] =>
    match endFault? ending with
    | none => .ok (String.ofList reversed.reverse)
    | some fault => .error fault
  | .char c :: rest => readPieces ending (c :: reversed) rest
  | [.unit value] =>
    if isTrailing value then .error .loneSurrogate
    else if isLeading value then .error (afterLeading ending)
    else readPieces ending (Char.ofNat value :: reversed) []
  | .unit value :: .unit next :: rest =>
    if isTrailing value then .error .loneSurrogate
    else if isLeading value then
      if isTrailing next then readPieces ending (paired value next :: reversed) rest
      else .error .loneSurrogate
    else readPieces ending (Char.ofNat value :: reversed) (.unit next :: rest)
  | .unit value :: .char c :: rest =>
    if isTrailing value then .error .loneSurrogate
    else if isLeading value then .error .unexpectedEndOfEscape
    else readPieces ending (Char.ofNat value :: reversed) (.char c :: rest)

/-- The text that a literal denotes. -/
def read (literal : TextLiteral) : Except Fault String :=
  readPieces literal.ending [] literal.pieces

/-- A skimmed literal has to be closed, but may hold any units. -/
def skim (literal : TextLiteral) : Except Fault Unit :=
  match endFault? literal.ending with
  | none => .ok ()
  | some fault => .error fault

end TextLiteral

end CdsDeclarations.Json
