import CdsDeclarations.Text.CharRanges

/-!
# Blanks

The characters with the Unicode property `White_Space`.
-/

namespace CdsDeclarations

/-- The Unicode property `White_Space`. -/
def blankRanges : CharRanges :=
  [
    (0x9, 0xD), (0x20, 0x20), (0x85, 0x85), (0xA0, 0xA0), (0x1680, 0x1680), (0x2000, 0x200A),
    (0x2028, 0x2029), (0x202F, 0x202F), (0x205F, 0x205F), (0x3000, 0x3000)
  ]

def isBlank (c : Char) : Bool :=
  blankRanges.contains c

theorem isBlank_of_isWhitespace {c : Char} (h : c.isWhitespace) : isBlank c := by
  simp only [Char.isWhitespace, Bool.or_eq_true, decide_eq_true_eq] at h
  rcases h with ((rfl | rfl) | rfl) | rfl <;> rfl

end CdsDeclarations
