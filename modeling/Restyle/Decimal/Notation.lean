import Restyle.Decimal.Shortest

/-!
# Writing decimals

Two notations. The positional one has no exponent however large or small the value; style text uses
it. The marked one always shows that the value is a fraction, by a point or by an exponent, and
changes to an exponent for very large and very small values; data documents and their keys use it.
-/

namespace Restyle.Decimal

/-- The digits of a whole number. -/
def digitsOf (n : Nat) : List Char := Nat.toDigits 10 n

/-- The digits of a whole number after its sign, if it is negative. -/
def signed (n : Int) : String := String.ofList ((if n < 0 then ['-'] else []) ++ digitsOf n.natAbs)

/-- A decimal without exponent: zeros fill the places up to the point or after it. -/
def Digits.positional (d : Digits) : List Char :=
  let ds := digitsOf d.coefficient
  if 0 ≤ d.exponent then ds ++ List.replicate d.exponent.toNat '0'
  else
    let places := (-d.exponent).toNat
    if places < ds.length then
      ds.take (ds.length - places) ++ '.' :: ds.drop (ds.length - places)
    else '0' :: '.' :: (List.replicate (places - ds.length) '0' ++ ds)

/-- The decisions of the marked notation: up to where it keeps the point in place, and how it writes
an exponent. -/
structure Marking where
  /-- The greatest count of digits before the point. -/
  before : Int
  /-- The greatest count of zeros between the point and the first digit. -/
  after : Int
  /-- Whether a positive exponent has a sign. -/
  plus : Bool

/-- The digits of an exponent after its sign. -/
def Marking.power (m : Marking) (n : Int) : List Char :=
  (if m.plus ∧ 0 < n then ['+'] else []) ++ (signed n).toList

/-- A decimal that shows itself a fraction. Inside the range of the point it is positional, with
`.0` after a whole value; outside it has one digit before the point, and an exponent. -/
def Digits.marked (m : Marking) (d : Digits) : List Char :=
  let ds := digitsOf d.coefficient
  let point : Int := (ds.length : Int) + d.exponent
  if 0 ≤ d.exponent ∧ point ≤ m.before then d.positional ++ ['.', '0']
  else if -m.after ≤ point ∧ point ≤ m.before then d.positional
  else
    let power := m.power (point - 1)
    match ds with
    | [] => []
    | [c] => c :: 'e' :: power
    | c :: more => c :: '.' :: more ++ 'e' :: power

/-- The sign of a value as text. -/
def signText (negative : Bool) : List Char := if negative then ['-'] else []

/-- A finite double in the marked notation; a zero keeps its sign. -/
def markedText (m : Marking) (negative : Bool) (x : Magnitude) : String :=
  String.ofList (signText negative ++
    if x.significand = 0 then ['0', '.', '0'] else (shortest .even x).marked m)

end Restyle.Decimal
