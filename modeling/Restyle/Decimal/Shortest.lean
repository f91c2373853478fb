import Restyle.Decimal.Binary

/-!
# Shortest decimals

The decimal that stands for a double has the fewest digits that still read back as that double, and
among those it is the nearest. A double owns an interval of reals, half a unit to each side, the
ends included when the significand is even; a grid of decimals has a point in the interval exactly
when one of the two grid points around the double is in it, so looking at those two settles each
grid.
-/

namespace Restyle.Decimal

/-- Which neighbour a value halfway between two decimals of the same length takes. -/
inductive Tie where
  /-- The neighbour away from zero. -/
  | up
  /-- The neighbour with an even last digit. -/
  | even
deriving Repr, DecidableEq

/-- The decimal `coefficient * 10 ^ exponent`. -/
structure Digits where
  /-- The digits, as a whole number. -/
  coefficient : Nat
  /-- The power of ten. -/
  exponent : Int
deriving Repr, DecidableEq

/-- Drops trailing zeros of the coefficient, at most `fuel` of them. -/
def Digits.trimmed : Nat → Digits → Digits
  | 0, d => d
  | fuel + 1, d =>
    if d.coefficient ≠ 0 ∧ d.coefficient % 10 = 0 then
      Digits.trimmed fuel ⟨d.coefficient / 10, d.exponent + 1⟩
    else d

/-- The exponent of the greatest power of ten that is at most `num / den`, for positive arguments.
The estimate from the binary order is off by at most one. -/
def decimalOrder (num den : Nat) : Int :=
  let estimate := Int.fdiv (binaryOrder num den * 30103) 100000
  let reaches (e : Int) : Bool := den * Nat.pow 10 e.toNat ≤ num * Nat.pow 10 (-e).toNat
  if reaches (estimate + 1) then estimate + 1
  else if reaches estimate then estimate
  else estimate - 1

/-- The interval of a double, in units of a quarter of its unit in the last place: the lower end,
the double itself and the upper end. Below a power of two the next double is half as far away. -/
structure Interval where
  /-- The lower end. -/
  lower : Nat
  /-- The double. -/
  centre : Nat
  /-- The upper end. -/
  upper : Nat
  /-- Whether the ends belong to the interval. -/
  closed : Bool

/-- The interval of reals that round to a positive magnitude of doubles. -/
def Interval.ofMagnitude (x : Magnitude) : Interval :=
  let m := x.significand
  let narrow := m = Nat.pow 2 52 ∧ BinaryFormat.double.minExponent < x.exponent
  { lower := if narrow then 4 * m - 1 else 4 * m - 2
    centre := 4 * m
    upper := 4 * m + 2
    closed := m % 2 = 0 }

/-- The point of the grid of multiples of `10 ^ exponent` that stands for the magnitude, if the grid
has a point in its interval. -/
def nearestOnGrid (tie : Tie) (x : Magnitude) (exponent : Int) : Option Digits :=
  let i := Interval.ofMagnitude x
  let quarter := x.exponent - 2
  -- A coefficient `c` stands at `c * step`, a quarter count `n` at `n * scale`.
  let step := Nat.pow 10 exponent.toNat * Nat.pow 2 (-quarter).toNat
  let scale := Nat.pow 10 (-exponent).toNat * Nat.pow 2 quarter.toNat
  let inside (c : Nat) : Bool :=
    if i.closed then i.lower * scale ≤ c * step && c * step ≤ i.upper * scale
    else i.lower * scale < c * step && c * step < i.upper * scale
  let below := i.centre * scale / step
  let above := below + 1
  match inside below, inside above with
  | false, false => none
  | true, false => some ⟨below, exponent⟩
  | false, true => some ⟨above, exponent⟩
  | true, true =>
    let twice := 2 * (i.centre * scale)
    let middle := (below + above) * step
    if twice < middle then some ⟨below, exponent⟩
    else if middle < twice then some ⟨above, exponent⟩
    else match tie with
      | .up => some ⟨above, exponent⟩
      | .even => some ⟨if below % 2 = 0 then below else above, exponent⟩

/-- The shortest decimal that reads back as the magnitude, and the nearest of those. Seventeen
digits always suffice, so one of the grids has a point. -/
def shortest (tie : Tie) (x : Magnitude) : Digits :=
  if x.significand = 0 then ⟨0, 0⟩
  else
    let order := decimalOrder x.num x.den
    let grids := (List.range 17).map fun k : Nat => order - (k : Int)
    match grids.findSome? (nearestOnGrid tie x) with
    | some d => d.trimmed 18
    | none => ⟨0, 0⟩

end Restyle.Decimal
