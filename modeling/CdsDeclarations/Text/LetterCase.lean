import CdsDeclarations.Text.CaseTables

/-!
# Upper and lower case

Case conversion of whole texts by the full Unicode mappings. Upper-casing looks at one character at
a time. Lower-casing looks around a capital sigma, which is written differently where a word ends.
-/

namespace CdsDeclarations

def upperMapping : CaseMapping := ⟨upperExpansions, upperRuns⟩

def lowerMapping : CaseMapping := ⟨lowerExpansions, lowerRuns⟩

def isCased (c : Char) : Bool :=
  casedRanges.contains c

def isCaseIgnorable (c : Char) : Bool :=
  caseIgnorableRanges.contains c

/-- Whether the nearest character that counts for word boundaries has a case. -/
def nearestIsCased (chars : List Char) : Bool :=
  match chars.dropWhile isCaseIgnorable with
  | [] => false
  | c :: _ => isCased c

/-- A capital sigma ends a word if something with a case comes before it and nothing after it. -/
def lowerSigma (reversedBefore after : List Char) : Char :=
  if nearestIsCased reversedBefore && !nearestIsCased after then 'ς' else 'σ'

/-- Lower case of the characters that follow `reversedBefore` in a text. -/
def lowercaseAfter (reversedBefore : List Char) : List Char → List Char
  | [] => []
  | c :: after =>
    (if c = 'Σ' then [lowerSigma reversedBefore after] else lowerMapping.apply c) ++
      lowercaseAfter (c :: reversedBefore) after

def lowercase (text : String) : String :=
  String.ofList (lowercaseAfter [] text.toList)

/-- The text with its first character in upper case and the rest untouched. -/
def capitalize (text : String) : String :=
  match text.toList with
  | [] => ""
  | first :: rest => String.ofList (upperMapping.apply first ++ rest)

end CdsDeclarations
