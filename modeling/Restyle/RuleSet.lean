import Restyle.OrderedMap
import Restyle.Value

/-!
# Rule sets

A rule set maps selectors to blocks of declarations and each block maps properties to values, both
in order of first insertion. No operation leaves an empty block behind: the first declaration of a
selector creates its block and the last one to go takes the block with it.
-/

namespace Restyle

/-- The value of a declaration in a rule set whose producers have type `P`. -/
inductive RuleValue (P : Type) where
  /-- A fixed value. -/
  | fixed (value : Value)
  /-- A value produced from the component. -/
  | computed (producer : P)
  /-- One offset of a keyframes block, with its declarations. -/
  | frame (declarations : OrderedMap (RuleValue P))

/-- A block of declarations. -/
abbrev Declarations (P : Type) := OrderedMap (RuleValue P)

variable {P : Type}

mutual

/-- Whether a value, or any value inside a frame, is produced from the component. -/
def RuleValue.isDynamic : RuleValue P → Bool
  | .fixed _ => false
  | .computed _ => true
  | .frame ⟨declarations⟩ => anyDynamic declarations

/-- Whether some declaration of a list is produced from the component. -/
def anyDynamic : List (String × RuleValue P) → Bool
  | [] => false
  | (_, value) :: rest => value.isDynamic || anyDynamic rest

end

/-- Blocks of declarations by selector. -/
structure RuleSet (P : Type) where
  /-- The blocks, in order of their selectors. -/
  blocks : OrderedMap (Declarations P)

namespace RuleSet

/-- The rule set without selectors. -/
def empty : RuleSet P := ⟨.empty⟩

instance : Inhabited (RuleSet P) := ⟨empty⟩

/-- The declarations of a selector. -/
def get? (rules : RuleSet P) (selector : String) : Option (Declarations P) :=
  rules.blocks.get? selector

/-- The value of a property under a selector. -/
def find? (rules : RuleSet P) (selector property : String) : Option (RuleValue P) :=
  (rules.get? selector).bind fun block => block.get? property

/-- Declares `property` under `selector`. A property that is declared again keeps its place. -/
def insert (rules : RuleSet P) (selector property : String) (value : RuleValue P) : RuleSet P :=
  ⟨rules.blocks.insert selector (((rules.get? selector).getD .empty).insert property value)⟩

/-- Drops `property` from `selector`, and the selector with its last property. -/
def erase (rules : RuleSet P) (selector property : String) : RuleSet P :=
  match rules.get? selector with
  | none => rules
  | some block =>
    let rest := block.erase property
    if rest.isEmpty then ⟨rules.blocks.erase selector⟩ else ⟨rules.blocks.insert selector rest⟩

/-- Drops a selector with all its declarations. -/
def eraseSelector (rules : RuleSet P) (selector : String) : RuleSet P :=
  ⟨rules.blocks.erase selector⟩

/-- Drops `property` from `selector` and gives the value that it had. -/
def remove (rules : RuleSet P) (selector property : String) : Option (RuleValue P) × RuleSet P :=
  (rules.find? selector property, rules.erase selector property)

/-- Drops a selector and gives the declarations that it had. -/
def removeSelector (rules : RuleSet P) (selector : String) :
    Option (Declarations P) × RuleSet P :=
  (rules.get? selector, rules.eraseSelector selector)

/-- The selectors in order. -/
def selectors (rules : RuleSet P) : List String := rules.blocks.keys

/-- The number of selectors. -/
def size (rules : RuleSet P) : Nat := rules.blocks.size

/-- Whether there is no selector. -/
def isEmpty (rules : RuleSet P) : Bool := rules.blocks.isEmpty

/-- Whether rendering the rule set needs a component. -/
def hasDynamic (rules : RuleSet P) : Bool :=
  rules.blocks.entries.any fun e => anyDynamic e.2.entries

/-- Declares each entry of a block under `selector`. -/
def insertAll (rules : RuleSet P) (selector : String) (block : List (String × RuleValue P)) :
    RuleSet P :=
  block.foldl (fun acc e => acc.insert selector e.1 e.2) rules

end RuleSet

end Restyle
