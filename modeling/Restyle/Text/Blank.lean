import Restyle.Text.Ranges

/-!
# Blank text

A text is blank when every character of it carries the Unicode property White_Space. The no-break
space and the ideographic space are blank; the zero-width space is not.
-/

namespace Restyle.Text

/-- The code points that carry the Unicode property White_Space, as inclusive ranges. -/
def blankRanges : List (Nat × Nat) := [
  (0x9, 0xD), (0x20, 0x20), (0x85, 0x85), (0xA0, 0xA0), (0x1680, 0x1680), (0x2000, 0x200A),
  (0x2028, 0x2029), (0x202F, 0x202F), (0x205F, 0x205F), (0x3000, 0x3000)
]

/-- Whether `c` carries the Unicode property White_Space. -/
def isBlank (c : Char) : Bool := covers blankRanges c

/-- Whether `s` has no character that is not blank. The empty text is blank. -/
def isBlankText (s : String) : Bool := s.toList.all isBlank

/-- A text is blank exactly when each of its characters is. -/
theorem isBlankText_iff (s : String) : isBlankText s = true ↔ ∀ c ∈ s.toList, isBlank c = true := by
  simp [isBlankText]

end Restyle.Text
