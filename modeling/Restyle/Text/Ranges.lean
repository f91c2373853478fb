/-!
# Code point ranges

Character properties are given as tables of inclusive code point ranges. A table answers membership
for characters above U+007F; the seven-bit characters are decided by their class, so the common case
never reads a table.
-/

namespace Restyle.Text

/-- Whether `c` lies in one of the inclusive code point ranges. -/
def covers (ranges : List (Nat × Nat)) (c : Char) : Bool :=
  ranges.any fun r => decide (r.1 ≤ c.toNat) && decide (c.toNat ≤ r.2)

/-- Membership in a table is membership in one of its ranges. -/
theorem covers_eq_true_iff (ranges : List (Nat × Nat)) (c : Char) :
    covers ranges c = true ↔ ∃ r ∈ ranges, r.1 ≤ c.toNat ∧ c.toNat ≤ r.2 := by
  simp [covers]

/-- Whether `c` is one of the 128 seven-bit characters. -/
def isSevenBit (c : Char) : Bool := c.toNat < 0x80

end Restyle.Text
