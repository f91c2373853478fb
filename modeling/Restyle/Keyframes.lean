import Restyle.Decimal.Numeral

/-!
# Keyframes keys

A keyframes block has a heading and a timeline of offsets. The heading may be given in full or by
the name of the animation alone, and a whole number among the offsets stands for a percentage.
-/

namespace Restyle

/-- How the heading of a keyframes block starts. -/
def keyframesMark : String := "@keyframes"

/-- The heading of the block that a key names: the key itself if it is given in full, else the mark
before the animation's name, which is the key without its leading at signs. -/
def keyframesHeading (name : String) : String :=
  if keyframesMark.toList.isPrefixOf name.toList then name
  else keyframesMark ++ " " ++ String.ofList (name.toList.dropWhile (· == '@'))

/-- Whether a selector is the heading of a keyframes block. -/
def isKeyframesHeading (selector : String) : Bool :=
  keyframesMark.toList.isPrefixOf selector.toList

/-- Whether an offset is a whole number of 64 bits: an optional sign and decimal digits. -/
def isWholeOffset (key : String) : Bool :=
  match Decimal.signedDigits? key.toList with
  | some n => decide (-(Int.pow 2 63) ≤ n) && decide (n < Int.pow 2 63)
  | none => false

/-- The offset that a key of a timeline stands for: whole numbers gain a percent sign. -/
def frameOffset (key : String) : String := if isWholeOffset key then key ++ "%" else key

/-- Every heading starts with the mark. -/
theorem isKeyframesHeading_keyframesHeading (name : String) :
    isKeyframesHeading (keyframesHeading name) = true := by
  unfold isKeyframesHeading keyframesHeading
  split
  · assumption
  · rw [List.isPrefixOf_iff_prefix]
    simp [String.toList_append]

end Restyle
