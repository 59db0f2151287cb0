/-!
# Sets of characters

A set of characters is written as the ascending ranges of its code points, and a case mapping as
runs of characters that move by the same distance.
-/

namespace CdsDeclarations

/-- A set of characters: the first and last code point of each range. -/
abbrev CharRanges := List (Nat × Nat)

def CharRanges.contains (ranges : CharRanges) (c : Char) : Bool :=
  ranges.any fun range => range.1 ≤ c.toNat && c.toNat ≤ range.2

/-- Every `stride`-th character from `first` to `last`, each moved by `offset` code points. -/
structure CaseRun where
  first : Nat
  last : Nat
  stride : Nat
  offset : Int

def CaseRun.covers (run : CaseRun) (c : Char) : Bool :=
  run.first ≤ c.toNat && c.toNat ≤ run.last && (c.toNat - run.first) % run.stride = 0

def CaseRun.apply (run : CaseRun) (c : Char) : Char :=
  Char.ofNat (c.toNat + run.offset).toNat

/-- A case mapping: single characters that become several, and runs that stay single. -/
structure CaseMapping where
  expansions : List (Char × List Char)
  runs : List CaseRun

/-- The characters that `c` becomes; a character that the mapping does not list stays itself. -/
def CaseMapping.apply (mapping : CaseMapping) (c : Char) : List Char :=
  match mapping.expansions.lookup c with
  | some expansion => expansion
  | none =>
    match mapping.runs.find? (·.covers c) with
    | some run => [run.apply c]
    | none => [c]

end CdsDeclarations
