import CdsDeclarations.Json.Node

/-!
# Skimming

A value that nobody asks for is only skimmed: its structure has to be sound, but numbers may have
any size, surrogates may stand alone and nesting may have any depth.
-/

namespace CdsDeclarations.Json

def colonFault (textEnds : Bool) : Fault :=
  if textEnds then .endInObject else .expectedColon

def wordFault (textEnds : Bool) : Fault :=
  if textEnds then .endInValue else .expectedIdentifier

def ListBreak.skimFault : ListBreak → Fault
  | textEnds => .endInList
  | noSeparator => .expectedListSeparator
  | closedAfterComma => .expectedValue

def ObjectBreak.skimFault : ObjectBreak → Fault
  | textEnds => .endInObject
  | textEndsAfterComma => .endInObject
  | noSeparator => .expectedObjectSeparator
  | closedAfterComma => .keyNotText
  | noKey => .keyNotText

mutual

def Node.skim : Node → Except Fault Unit
  | .missing => .error .endInValue
  | .unknown => .error .expectedValue
  | .brokenWord textEnds => .error (wordFault textEnds)
  | .null => .ok ()
  | .boolean _ => .ok ()
  | .number numeral => numeral.skim
  | .text literal => literal.skim
  | .list items => items.skim
  | .object members => members.skim

def Items.skim : Items → Except Fault Unit
  | .close => .ok ()
  | .item value rest => do
    value.skim
    rest.skim
  | .broken cause => .error cause.skimFault

def Members.skim : Members → Except Fault Unit
  | .close => .ok ()
  | .member key value rest => do
    key.skim
    value.skim
    rest.skim
  | .noColon key textEnds => do
    key.skim
    .error (colonFault textEnds)
  | .broken cause => .error cause.skimFault

end

end CdsDeclarations.Json
