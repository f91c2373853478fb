import Restyle.Decimal.Notation

/-!
# Style values

A style value is a text or a number. Texts stand for themselves. A whole number below `2 ^ 63` is
written in full; every other number is written positionally with the fewest digits that read back,
so no written value ever has an exponent or a superfluous point.
-/

namespace Restyle

/-- The value of a declaration. -/
inductive Value where
  /-- A text, written as it stands. -/
  | text (content : String)
  /-- A number, written without unit. -/
  | number (x : Float)
deriving DecidableEq

instance : Inhabited Value := ⟨.text ""⟩

/-- Whole numbers below this bound are written in full. -/
def wholeBound : Nat := Nat.pow 2 63

/-- The written form of a number. A zero loses its sign. -/
def writtenNumber (x : Float) : String :=
  match Decimal.Reading.ofFloat x with
  | .nan => "NaN"
  | .infinite negative => if negative then "-inf" else "inf"
  | .finite negative m =>
    match m.whole? with
    | some n =>
      if n < wholeBound then Decimal.signed (if negative then -(n : Int) else n)
      else String.ofList (Decimal.signText negative ++ (Decimal.shortest .up m).positional)
    | none => String.ofList (Decimal.signText negative ++ (Decimal.shortest .up m).positional)

/-- The written form of a value. -/
def Value.written : Value → String
  | .text content => content
  | .number x => writtenNumber x

@[simp] theorem Value.written_text (content : String) :
    (Value.text content).written = content := rfl

end Restyle
