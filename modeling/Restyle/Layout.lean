/-!
# Layouts

The two layouts of a style sheet. The expanded one puts every declaration and every brace on a line
of its own, the compact one has no white space beside the texts it is given.
-/

namespace Restyle

/-- The layout of rendered text. -/
inductive Layout where
  /-- One declaration on a line. -/
  | expanded
  /-- No white space. -/
  | compact
deriving Repr, DecidableEq

namespace Layout

instance : Inhabited Layout := ⟨.expanded⟩

/-- The opening of a block. -/
def opening : Layout → String → String
  | .expanded, heading => heading ++ " \x7b\n"
  | .compact, heading => heading ++ "\x7b"

/-- One declaration. -/
def declaration : Layout → String → String → String
  | .expanded, property, value => property ++ ": " ++ value ++ ";\n"
  | .compact, property, value => property ++ ":" ++ value ++ ";"

/-- The end of a block. -/
def closing : Layout → String
  | .expanded => "\x7d\n"
  | .compact => "\x7d"

/-- The name of a layout in a configuration. -/
def name : Layout → String
  | .expanded => "expanded"
  | .compact => "compact"

/-- The layout with the given name. -/
def ofName? (s : String) : Option Layout :=
  if s = "expanded" then some .expanded
  else if s = "compact" then some .compact
  else none

/-- A layout is found under its name. -/
@[simp] theorem ofName?_name (layout : Layout) : ofName? layout.name = some layout := by
  cases layout <;> rfl

end Layout

end Restyle
