import Restyle.Config.Basic
import Restyle.Record

/-!
# The registry

The registry keeps one record per base rule, in order of first storage. The first record stored
under a key stays there; only its texts change.
-/

namespace Restyle

variable {P : Type}

/-- The records by base rule, with the configuration that they share. -/
structure Registry (P : Type) where
  /-- How styles are rendered and written. -/
  config : Config
  /-- The records in order of first storage. -/
  records : OrderedMap (Record P)

/-- How a record was come by. -/
inductive Found where
  /-- It was there. -/
  | hit
  /-- It was compiled just now. -/
  | compiled
deriving Repr, DecidableEq

namespace Registry

/-- The registry without records. -/
def fresh (config : Config) : Registry P := ⟨config, .empty⟩

/-- The record of a base rule. -/
def get? (r : Registry P) (key : String) : Option (Record P) := r.records.get? key

/-- Whether a base rule has a record. -/
def contains (r : Registry P) (key : String) : Bool := r.records.contains key

/-- The base rules in order of first storage. -/
def bases (r : Registry P) : List String := r.records.keys

/-- The number of records. -/
def size (r : Registry P) : Nat := r.records.size

/-- Whether there is no record. -/
def isEmpty (r : Registry P) : Bool := r.records.isEmpty

/-- The stage of a base rule. -/
def stage (r : Registry P) (key : String) : Stage :=
  match r.get? key with
  | some record => record.stage
  | none => .uncompiled

/-- The fixed text written for a base rule. -/
def staticText? (r : Registry P) (key : String) : Option String :=
  (r.get? key).bind Record.staticText

/-- Puts a record under a key. -/
def put (r : Registry P) (key : String) (record : Record P) : Registry P :=
  { r with records := r.records.insert key record }

/-- Stores a record under its base rule unless there is one already, and gives the record that is
stored in the end. -/
def create (r : Registry P) (record : Record P) : Record P × Registry P :=
  match r.get? record.base with
  | some stored => (stored, r)
  | none => (record, r.put record.base record)

/-- Gives the record of a key. If there is none, `compile` makes one, which may use up targets; if
it fails, nothing is stored. -/
def getOrCompile {τ : Type} (r : Registry P) (key : String)
    (compile : τ → Except StyleError (Record P × τ)) (state : τ) :
    Except StyleError ((Found × Record P) × Registry P × τ) :=
  match r.get? key with
  | some record => .ok ((.hit, record), r, state)
  | none => do
    let (record, state) ← compile state
    .ok ((.compiled, record), r.put key record, state)

end Registry

end Restyle
