import Restyle.Definition
import Restyle.Property
import Restyle.Selector
import Restyle.Keyframes

/-!
# Walking a definition

A walk lists the declarations of a definition in document order, each with the selector that its
place in the tree gives it and with its property in dash case. Keyframes blocks are listed as a
whole with their timeline, which has a walk of its own: there an offset stands in place of the
selector.

Fixed and produced values under a qualifying key mean nothing and are left out, as are loose values
in a timeline and nested definitions inside one of its frames.
-/

namespace Restyle

variable {P : Type}

/-- What a walk meets. -/
inductive Event (P : Type) where
  /-- A declaration with a fixed value. -/
  | fixed (selector property : String) (value : Value)
  /-- A declaration with a produced value. -/
  | computed (selector property : String) (producer : P)
  /-- A keyframes block, with its key as written. -/
  | keyframes (selector name : String) (timeline : Definition P)

mutual

/-- The events of one entry, met at `selector` under `key`. -/
def Entry.walk (selector key : String) : Entry P → List (Event P)
  | .fixed value =>
    match whenSuffix? key with
    | some _ => []
    | none => [.fixed selector (dashCase key) value]
  | .computed producer =>
    match whenSuffix? key with
    | some _ => []
    | none => [.computed selector (dashCase key) producer]
  | .nested ⟨entries⟩ =>
    match Role.ofKey key with
    | .qualifier suffix => walkEntries (qualify selector suffix) entries
    | .keyframes => [.keyframes selector key ⟨entries⟩]
    | .absolute other => walkEntries other entries
    | .descendant => walkEntries (descendant selector key) entries

/-- The events of a list of entries, met at `selector`. -/
def walkEntries (selector : String) : List (String × Entry P) → List (Event P)
  | [] => []
  | (key, entry) :: rest => entry.walk selector key ++ walkEntries selector rest

end

/-- The events of a definition rooted at `selector`, in document order. -/
def Definition.walk (d : Definition P) (selector : String) : List (Event P) :=
  walkEntries selector d.entries

/-- The declaration of one entry inside a frame. -/
def frameEvent? (offset : String) : String × Entry P → Option (Event P)
  | (key, .fixed value) => some (.fixed offset (dashCase key) value)
  | (key, .computed producer) => some (.computed offset (dashCase key) producer)
  | (_, .nested _) => none

/-- The declarations of one entry of a timeline. -/
def timelineEvents : String × Entry P → List (Event P)
  | (key, .nested frame) => frame.entries.filterMap (frameEvent? (frameOffset key))
  | _ => []

/-- The events of a timeline, the offset in place of the selector. -/
def Definition.walkTimeline (timeline : Definition P) : List (Event P) :=
  timeline.entries.flatMap timelineEvents

end Restyle
