import Restyle.OrderedMap
import Restyle.Value

/-!
# Style definitions

A style definition is an ordered map from keys to entries. An entry is a fixed value, a value that
is produced from the live component at every rendering, or a nested definition. Definitions are
generic in the type `P` of producers: nothing before rendering ever runs one.
-/

namespace Restyle

/-- An entry of a style definition whose producers have type `P`. -/
inductive Entry (P : Type) where
  /-- A value fixed by the definition. -/
  | fixed (value : Value)
  /-- A value produced from the component. -/
  | computed (producer : P)
  /-- A nested definition. -/
  | nested (inner : OrderedMap (Entry P))

/-- A style definition whose producers have type `P`. -/
abbrev Definition (P : Type) := OrderedMap (Entry P)

namespace Definition

variable {P : Type}

/-- Adds a fixed value. -/
def set (d : Definition P) (key : String) (value : Value) : Definition P :=
  d.insert key (.fixed value)

/-- Adds a produced value. -/
def compute (d : Definition P) (key : String) (producer : P) : Definition P :=
  d.insert key (.computed producer)

/-- Adds a nested definition. -/
def nest (d : Definition P) (key : String) (inner : Definition P) : Definition P :=
  d.insert key (.nested inner)

end Definition

end Restyle
