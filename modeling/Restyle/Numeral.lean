import Restyle.Decimal.Notation

/-!
# Numbers of data documents

A number in a document is either whole, and then exact in the range of 64 bits with or without sign,
or a double.
-/

namespace Restyle

/-- A number of a data document. -/
inductive Numeral where
  /-- A whole number, kept exactly. -/
  | whole (n : Int)
  /-- A double. -/
  | real (x : Float)
deriving DecidableEq

namespace Numeral

/-- The double nearest to a number. -/
def toFloat : Numeral → Float
  | .whole n => Decimal.ofInt n
  | .real x => x

/-- The text of a number: whole ones in decimal, finite doubles in the given marked notation. -/
def text (marking : Decimal.Marking) : Numeral → String
  | .whole n => Decimal.signed n
  | .real x =>
    match Decimal.Reading.ofFloat x with
    | .nan => ".nan"
    | .infinite negative => if negative then "-.inf" else ".inf"
    | .finite negative m => Decimal.markedText marking negative m

/-- Whether two numbers count as one key: whole numbers and doubles are kept apart, the two zeros
among the doubles are equal, and not-a-number equals itself. -/
def sameKey : Numeral → Numeral → Bool
  | .whole m, .whole n => m = n
  | .real x, .real y => x == y || (x.isNaN && y.isNaN)
  | _, _ => false

end Numeral

end Restyle
