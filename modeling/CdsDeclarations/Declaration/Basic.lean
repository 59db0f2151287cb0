import CdsDeclarations.Number.Basic
import CdsDeclarations.Declaration.StringLiteral

/-!
# Declarations

Interfaces, enums and type aliases as data, and the lines they are written on: one line for every
property or member, between a header and a closing brace, and a single line for an alias.
-/

namespace CdsDeclarations

/-- A named type under so many array suffixes. -/
structure TypeExpression where
  name : String
  depth : Nat
  deriving DecidableEq, Repr

def TypeExpression.text (type : TypeExpression) : String :=
  type.name ++ String.join (List.replicate type.depth "[]")

structure Property where
  name : String
  isOptional : Bool
  type : TypeExpression
  deriving DecidableEq, Repr

/-- The indentation of properties and members. -/
def indent : String := "    "

def Property.line (property : Property) : String :=
  indent ++ property.name ++ (if property.isOptional then "?" else "") ++ ": " ++
    property.type.text ++ ";"

inductive EnumLiteral
  | number (value : Number)
  | text (value : String)
  deriving DecidableEq, Repr

def EnumLiteral.source : EnumLiteral → String
  | number value => value.text
  | text value => StringLiteral.encode value

/-- A member of an enum. Without a literal it is counted on from the member before it. -/
structure EnumMember where
  name : String
  literal : Option EnumLiteral
  deriving DecidableEq, Repr

def EnumMember.line (member : EnumMember) : String :=
  indent ++ member.name ++ (member.literal.elim "" fun literal => " = " ++ literal.source) ++ ","

inductive Declaration
  | interface (name : String) (properties : List Property)
  | enumeration (name : String) (members : List EnumMember)
  | typeAlias (name : String) (type : TypeExpression)
  deriving DecidableEq, Repr

/-- The line that opens an interface. -/
def interfaceHeader (name : String) : String :=
  "export interface " ++ name ++ " \x7b"

/-- The line that opens an enum. -/
def enumHeader (name : String) : String :=
  "export enum " ++ name ++ " \x7b"

def closingBrace : String := "\x7d"

namespace Declaration

def name : Declaration → String
  | interface name _ => name
  | enumeration name _ => name
  | typeAlias name _ => name

def lines : Declaration → List String
  | interface name properties =>
    interfaceHeader name :: properties.map Property.line ++ [closingBrace]
  | enumeration name members => enumHeader name :: members.map EnumMember.line ++ [closingBrace]
  | typeAlias name type => ["export type " ++ name ++ " = " ++ type.text ++ ";"]

def text (declaration : Declaration) : String :=
  "\n".intercalate declaration.lines

end Declaration

/-- The text of declarations, with a blank line between one and the next. -/
def blocksText (blocks : List String) : String :=
  "\n\n".intercalate blocks

/-- The import of a type from the file with a stem next to this one. -/
structure TypeImport where
  name : String
  stem : String
  deriving DecidableEq, Repr

def TypeImport.line (type : TypeImport) : String :=
  "import type \x7b " ++ type.name ++ " \x7d from \"./" ++ type.stem ++ "\";"

end CdsDeclarations
