/-!
# Binary floating-point magnitudes

A finite double is a whole significand times a power of two. This module reads that pair off the bit
pattern and, in the other direction, rounds an arbitrary fraction to the nearest representable
magnitude, a half going to the even significand. All arithmetic is on natural numbers, so nothing
here rounds twice.

The main statement is that rounding a fraction to a whole number errs by at most one half.
-/

namespace Restyle.Decimal

/-- A binary floating-point format: the bits of a significand, and the least and the greatest
exponent of its unit in the last place. -/
structure BinaryFormat where
  /-- The number of bits of a full significand. -/
  precision : Nat
  /-- The exponent of the unit in the last place of the smallest magnitudes. -/
  minExponent : Int
  /-- The exponent of the unit in the last place of the largest magnitudes. -/
  maxExponent : Int

/-- The format of 64 bits. -/
def BinaryFormat.double : BinaryFormat := ⟨53, -1074, 971⟩

/-- The format of 32 bits. -/
def BinaryFormat.single : BinaryFormat := ⟨24, -149, 104⟩

/-- The magnitude `significand * 2 ^ exponent`. -/
structure Magnitude where
  /-- The whole factor. -/
  significand : Nat
  /-- The power of two. -/
  exponent : Int
deriving Repr, DecidableEq

/-- The numerator of a magnitude, over `Magnitude.den`. -/
def Magnitude.num (x : Magnitude) : Nat := x.significand * Nat.pow 2 x.exponent.toNat

/-- The denominator of a magnitude, a power of two. -/
def Magnitude.den (x : Magnitude) : Nat := Nat.pow 2 (-x.exponent).toNat

/-- The whole number nearest to `num / den`, a half going to the even neighbour. -/
def roundHalfEven (num den : Nat) : Nat :=
  let whole := num / den
  let twice := 2 * (num % den)
  if twice < den ∨ (twice = den ∧ whole % 2 = 0) then whole else whole + 1

/-- Rounding errs by at most one half. -/
theorem roundHalfEven_le (num den : Nat) :
    2 * (roundHalfEven num den * den) ≤ 2 * num + den := by
  have h : den * (num / den) + num % den = num := Nat.div_add_mod num den
  simp only [roundHalfEven]
  split
  · rw [Nat.mul_comm (num / den) den]
    omega
  · rw [Nat.add_mul, Nat.one_mul, Nat.mul_comm (num / den) den]
    omega

theorem le_roundHalfEven (num den : Nat) (hden : 0 < den) :
    2 * num ≤ 2 * (roundHalfEven num den * den) + den := by
  have h : den * (num / den) + num % den = num := Nat.div_add_mod num den
  have hlt : num % den < den := Nat.mod_lt num hden
  simp only [roundHalfEven]
  split
  · rw [Nat.mul_comm (num / den) den]
    omega
  · rw [Nat.add_mul, Nat.one_mul, Nat.mul_comm (num / den) den]
    omega

/-- The exponent of the greatest power of two that is at most `num / den`, for positive arguments.
-/
def binaryOrder (num den : Nat) : Int :=
  let e : Int := (Nat.log2 num : Int) - (Nat.log2 den : Int)
  if den * Nat.pow 2 e.toNat ≤ num * Nat.pow 2 (-e).toNat then e else e - 1

/-- The magnitude of the format nearest to `num / den`, or `none` where it exceeds the format. -/
def BinaryFormat.round (f : BinaryFormat) (num den : Nat) : Option Magnitude :=
  if num = 0 then some ⟨0, f.minExponent⟩
  else
    let unit := max f.minExponent (binaryOrder num den - (f.precision - 1 : Nat))
    let m := roundHalfEven (num * Nat.pow 2 (-unit).toNat) (den * Nat.pow 2 unit.toNat)
    let (m, unit) :=
      if m = Nat.pow 2 f.precision then (Nat.pow 2 (f.precision - 1), unit + 1) else (m, unit)
    if unit ≤ f.maxExponent then some ⟨m, unit⟩ else none

/-- What a double stands for. -/
inductive Reading where
  /-- No number. -/
  | nan
  /-- An infinity, with its sign. -/
  | infinite (negative : Bool)
  /-- A finite number, with its sign, zero included. -/
  | finite (negative : Bool) (magnitude : Magnitude)
deriving Repr, DecidableEq

/-- Reads a double off its bit pattern: one bit of sign, eleven of exponent, fifty-two of fraction.
-/
def Reading.ofFloat (x : Float) : Reading :=
  let bits : Nat := x.toBits.toNat
  let negative := decide (Nat.pow 2 63 ≤ bits)
  let exponent : Nat := bits / Nat.pow 2 52 % Nat.pow 2 11
  let fraction : Nat := bits % Nat.pow 2 52
  if exponent = 2047 then
    if fraction = 0 then .infinite negative else .nan
  else if exponent = 0 then .finite negative ⟨fraction, -1074⟩
  else .finite negative ⟨Nat.pow 2 52 + fraction, (exponent : Int) - 1075⟩

/-- The bit pattern of the infinity without sign. -/
def infinityBits : Nat := 2047 * Nat.pow 2 52

/-- The bit pattern of a magnitude that `BinaryFormat.double` has produced. -/
def Magnitude.toBits (x : Magnitude) : Nat :=
  if x.significand < Nat.pow 2 52 then x.significand
  else (x.exponent + 1075).toNat * Nat.pow 2 52 + (x.significand - Nat.pow 2 52)

/-- The double with the given sign whose magnitude is nearest to `num / den`. -/
def ofFraction (negative : Bool) (num den : Nat) : Float :=
  let bits := ((BinaryFormat.double.round num den).map Magnitude.toBits).getD infinityBits
  Float.ofBits (UInt64.ofNat (bits + if negative then Nat.pow 2 63 else 0))

/-- The double nearest to a whole number. -/
def ofInt (n : Int) : Float := ofFraction (decide (n < 0)) n.natAbs 1

/-- The whole number that a magnitude equals, if it is whole. -/
def Magnitude.whole? (x : Magnitude) : Option Nat :=
  if x.num % x.den = 0 then some (x.num / x.den) else none

end Restyle.Decimal
