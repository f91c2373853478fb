import Restyle.OrderedMap
import Restyle.Rendering

/-!
# Recipes

A recipe is a producer given as data. It may be a constant, a counter that goes up by one each time
it is asked, a failure, or a field of the component, scaled or wrapped in text on request. All
recipes share one tally, which holds the counters and the number of runs, failing ones included.
-/

namespace Restyle

/-- A component, as its fields. -/
abbrev Component := OrderedMap Value

/-- A producer given as data. -/
inductive Recipe where
  /-- Always the same value. -/
  | constant (value : Value)
  /-- The number of earlier runs of recipes for the same counter. -/
  | counter (name : String)
  /-- A failure with the given text. -/
  | failure (reason : String)
  /-- A field of the component, first scaled, then put between two texts. -/
  | field (name : String) (scale : Option Float) (before after : Option String)

/-- What recipes remember. -/
structure Tally where
  /-- How many recipes have run. -/
  runs : Nat
  /-- The counters that have been asked. -/
  counters : OrderedMap Nat

/-- The tally before any run. -/
def Tally.start : Tally := ⟨0, .empty⟩

namespace Recipe

/-- A value as a multiple of a number; only numbers have one. -/
def scaled (name : String) (scale : Option Float) (value : Value) : Except String Value :=
  match scale, value with
  | none, value => .ok value
  | some factor, .number x => .ok (.number (x * factor))
  | some _, .text _ => .error ("field '" ++ name ++ "' is not a number")

/-- A value between two texts, if there is at least one. -/
def wrapped (before after : Option String) (value : Value) : Value :=
  if before.isNone && after.isNone then value
  else .text (before.getD "" ++ value.written ++ after.getD "")

/-- The value of a field of a component. -/
def fieldValue (component : Component) (name : String) (scale : Option Float)
    (before after : Option String) : Except String Value :=
  match component.get? name with
  | none => .error ("no field '" ++ name ++ "'")
  | some value => (scaled name scale value).map (wrapped before after)

/-- Runs a recipe. The run counts before anything else happens. -/
def run : Evaluator Recipe Component Tally := fun recipe component tally =>
  let tally := { tally with runs := tally.runs + 1 }
  match recipe with
  | .constant value => (.ok value, tally)
  | .counter name =>
    let n := (tally.counters.get? name).getD 0
    (.ok (.number (Decimal.ofInt n)), { tally with counters := tally.counters.insert name (n + 1) })
  | .failure reason => (.error reason, tally)
  | .field name scale before after => (fieldValue component name scale before after, tally)

end Recipe

end Restyle
