import Restyle.Layout

/-!
# Configuration

What the managers of a registry share: the layout of their text, and whether a text is written again
although nothing in it has changed.
-/

namespace Restyle

/-- How styles are rendered and written. -/
structure Config where
  /-- The layout of rendered text. -/
  layout : Layout
  /-- Whether a text equal to the last one written is left unwritten. -/
  skipUnchanged : Bool
deriving Repr, DecidableEq

namespace Config

/-- The configuration without any field given. -/
def standard : Config := ⟨.expanded, true⟩

instance : Inhabited Config := ⟨standard⟩

/-- The configuration with another layout. -/
def withLayout (c : Config) (layout : Layout) : Config := { c with layout }

/-- The configuration with another policy for unchanged texts. -/
def withSkipUnchanged (c : Config) (skipUnchanged : Bool) : Config := { c with skipUnchanged }

end Config

end Restyle
