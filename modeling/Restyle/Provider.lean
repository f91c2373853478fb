import Restyle.Definition

/-!
# Providers

A provider gives a style definition each time it is called, and what it gives may change between
calls. Managers and records hold providers by number, so a record sees the changes that the owner of
its provider makes.
-/

namespace Restyle

variable {P : Type}

/-- A provider, by its number. -/
abbrev ProviderId := Nat

/-- All providers, with the calls made to them. -/
structure Providers (P : Type) where
  /-- What each provider gives at present. -/
  current : List (Definition P)
  /-- The provider of each call that was made, oldest first. -/
  called : List ProviderId

namespace Providers

/-- No provider. -/
def empty : Providers P := ⟨[], []⟩

/-- How many calls were made. -/
def calls (p : Providers P) : Nat := p.called.length

/-- Adds a provider. -/
def add (p : Providers P) (d : Definition P) : ProviderId × Providers P :=
  (p.current.length, { p with current := p.current ++ [d] })

/-- Changes what a provider gives from now on. -/
def change (p : Providers P) (id : ProviderId) (d : Definition P) : Providers P :=
  { p with current := p.current.set id d }

/-- What a provider gives at present; a number without provider gives the empty definition. -/
def definition (p : Providers P) (id : ProviderId) : Definition P := p.current.getD id .empty

/-- Calls a provider. -/
def call (p : Providers P) (id : ProviderId) : Definition P × Providers P :=
  (p.definition id, { p with called := p.called ++ [id] })

end Providers

end Restyle
