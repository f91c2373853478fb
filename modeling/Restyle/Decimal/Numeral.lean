import Restyle.Decimal.Binary

/-!
# Reading decimals

A decimal numeral is a run of digits with at most one point, at least one digit in all, and an
optional exponent. It denotes the double nearest to its exact value: values beyond the format become
infinite, values too small become zero.
-/

namespace Restyle.Decimal

/-- The value of a digit character. -/
def digitValue (c : Char) : Nat := c.toNat - '0'.toNat

/-- The whole number that a run of digits spells. -/
def digitsValue (cs : List Char) : Nat := cs.foldl (fun n c => 10 * n + digitValue c) 0

/-- The number `coefficient * 10 ^ exponent`, as it was written. -/
structure Numeral where
  /-- All digits of the numeral, as a whole number. -/
  coefficient : Nat
  /-- The written exponent less the number of digits after the point. -/
  exponent : Int
deriving Repr, DecidableEq

/-- A whole number as it is read from an optional sign and at least one digit. -/
def signedDigits? : List Char → Option Int
  | '-' :: cs => if cs ≠ [] ∧ cs.all Char.isDigit then some (-(digitsValue cs : Int)) else none
  | '+' :: cs => if cs ≠ [] ∧ cs.all Char.isDigit then some (digitsValue cs) else none
  | cs => if cs ≠ [] ∧ cs.all Char.isDigit then some (digitsValue cs) else none

/-- Reads the exponent that may follow the digits of a numeral. -/
def exponent? : List Char → Option Int
  | [] => some 0
  | c :: cs => if c = 'e' ∨ c = 'E' then signedDigits? cs else none

/-- Reads a numeral without sign. -/
def Numeral.ofChars? (cs : List Char) : Option Numeral :=
  let whole := cs.takeWhile Char.isDigit
  let (places, rest) :=
    match cs.dropWhile Char.isDigit with
    | '.' :: more => (more.takeWhile Char.isDigit, more.dropWhile Char.isDigit)
    | more => ([], more)
  if whole.isEmpty && places.isEmpty then none
  else (exponent? rest).map fun e =>
    ⟨digitsValue (whole ++ places), e - (places.length : Int)⟩

/-- The exact fraction of a numeral. Exponents far outside the doubles are cut off, which changes no
rounded value: the coefficient has `size` digits, so the value lies beyond the format already. -/
def Numeral.fraction (n : Numeral) : Nat × Nat :=
  let size : Int := (Nat.toDigits 10 n.coefficient).length
  let e := max (-400 - size) (min 400 n.exponent)
  (n.coefficient * Nat.pow 10 e.toNat, Nat.pow 10 (-e).toNat)

/-- The double nearest to a numeral. -/
def Numeral.toFloat (negative : Bool) (n : Numeral) : Float :=
  ofFraction negative n.fraction.1 n.fraction.2

/-- The double that equals the single nearest to a numeral. -/
def Numeral.toSingle (negative : Bool) (n : Numeral) : Float :=
  match BinaryFormat.single.round n.fraction.1 n.fraction.2 with
  | some x => ofFraction negative x.num x.den
  | none => Float.ofBits (UInt64.ofNat (infinityBits + if negative then Nat.pow 2 63 else 0))

/-- The double that is not a number. -/
def nanFloat : Float := Float.ofBits 0x7FF8000000000000

/-- The double that is infinite with the given sign. -/
def infiniteFloat (negative : Bool) : Float :=
  Float.ofBits (UInt64.ofNat (infinityBits + if negative then Nat.pow 2 63 else 0))

/-- Splits an optional sign off a text. -/
def splitSign : List Char → Bool × List Char
  | '-' :: cs => (true, cs)
  | '+' :: cs => (false, cs)
  | cs => (false, cs)

/-- Reads a floating-point text: an optional sign before a numeral, before `inf` or `infinity`, or
before `nan`, the words in any case. `convert` turns the numeral into a double. -/
def floatOfChars? (convert : Bool → Numeral → Float) (cs : List Char) : Option Float :=
  let (negative, body) := splitSign cs
  let word := body.map Char.toLower
  if word = "inf".toList ∨ word = "infinity".toList then some (infiniteFloat negative)
  else if word = "nan".toList then some nanFloat
  else (Numeral.ofChars? body).map (convert negative)

/-- Reads a double. -/
def float? (s : String) : Option Float := floatOfChars? Numeral.toFloat s.toList

/-- Reads a single, widened to a double. -/
def single? (s : String) : Option Float := floatOfChars? Numeral.toSingle s.toList

end Restyle.Decimal
