import CdsDeclarations.Json.Token

/-!
# Nodes

The structure of a text as far as it can be read: values, items of lists and members of objects, in
the order in which they stand. Where the structure breaks off, the cause stands in place of the
rest, so that a reader meets it exactly when it comes to that place.
-/

namespace CdsDeclarations.Json

/-- Why the items of a list break off. -/
inductive ListBreak
  | textEnds
  | noSeparator
  | closedAfterComma
  deriving DecidableEq, Repr

/-- Why the members of an object break off. -/
inductive ObjectBreak
  | textEnds
  | textEndsAfterComma
  | noSeparator
  | closedAfterComma
  | noKey
  deriving DecidableEq, Repr

mutual

/-- What stands where a value should. -/
inductive Node
  | missing
  | unknown
  | brokenWord (textEnds : Bool)
  | null
  | boolean (value : Bool)
  | number (numeral : Numeral)
  | text (literal : TextLiteral)
  | list (items : Items)
  | object (members : Members)

/-- The rest of a list. -/
inductive Items
  | close
  | item (value : Node) (rest : Items)
  | broken (cause : ListBreak)

/-- The rest of an object. A key may lack its colon, where the text ends or goes on otherwise. -/
inductive Members
  | close
  | member (key : TextLiteral) (value : Node) (rest : Members)
  | noColon (key : TextLiteral) (textEnds : Bool)
  | broken (cause : ObjectBreak)

end

mutual

/-- The node at the front of the tokens, and the tokens after it. Every step takes a token or goes
from a container to its content, so twice as many steps as tokens are enough. -/
def readNode : Nat → List Token → Node × List Token
  | 0, _ => (.missing, [])
  | _ + 1, [] => (.missing, [])
  | steps + 1, token :: rest =>
    match token with
    | .null => (.null, rest)
    | .boolean value => (.boolean value, rest)
    | .number numeral => (.number numeral, rest)
    | .text literal => (.text literal, rest)
    | .brokenWord textEnds => (.brokenWord textEnds, [])
    | .openList =>
      match rest with
      | [] => (.list (.broken .textEnds), [])
      | .closeList :: rest => (.list .close, rest)
      | _ =>
        let (items, rest) := readItem steps rest
        (.list items, rest)
    | .openObject =>
      match rest with
      | [] => (.object (.broken .textEnds), [])
      | .closeObject :: rest => (.object .close, rest)
      | _ =>
        let (members, rest) := readMember steps rest
        (.object members, rest)
    | _ => (.unknown, [])

/-- An item and the rest of its list. -/
def readItem : Nat → List Token → Items × List Token
  | 0, _ => (.broken .textEnds, [])
  | steps + 1, tokens =>
    let (value, rest) := readNode steps tokens
    match rest with
    | [] => (.item value (.broken .textEnds), [])
    | .closeList :: rest => (.item value .close, rest)
    | .comma :: .closeList :: _ => (.item value (.broken .closedAfterComma), [])
    | .comma :: rest =>
      let (items, rest) := readItem steps rest
      (.item value items, rest)
    | _ => (.item value (.broken .noSeparator), [])

/-- A member and the rest of its object. -/
def readMember : Nat → List Token → Members × List Token
  | 0, _ => (.broken .textEnds, [])
  | steps + 1, tokens =>
    match tokens with
    | .text key :: .colon :: rest =>
      let (value, rest) := readNode steps rest
      match rest with
      | [] => (.member key value (.broken .textEnds), [])
      | .closeObject :: rest => (.member key value .close, rest)
      | [.comma] => (.member key value (.broken .textEndsAfterComma), [])
      | .comma :: .closeObject :: _ => (.member key value (.broken .closedAfterComma), [])
      | .comma :: rest =>
        let (members, rest) := readMember steps rest
        (.member key value members, rest)
      | _ => (.member key value (.broken .noSeparator), [])
    | .text key :: rest => (.noColon key rest.isEmpty, [])
    | _ => (.broken .noKey, [])

end

/-- A whole text: its node, and whether something other than blanks follows. -/
structure Text where
  root : Node
  hasTrailing : Bool

def Text.ofString (text : String) : Text :=
  let tokens := Token.scan text.toList
  let (root, rest) := readNode (2 * tokens.length + 1) tokens
  ⟨root, !rest.isEmpty⟩

end CdsDeclarations.Json
