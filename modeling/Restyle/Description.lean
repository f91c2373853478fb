import Restyle.Decimal.Notation
import Restyle.Session.Basic
import Restyle.Text.Quoted

/-!
# Descriptions

One-line descriptions of managers, records, configurations and registries for a reader who debugs. A
description names the type and some of its fields; two dots at the end stand for the fields it
leaves out.
-/

namespace Restyle

variable {P σ : Type}

/-- A field of a description. -/
def describedField (name value : String) : String := name ++ ": " ++ value

/-- The name of a type with its fields. -/
def described (type : String) (fields : List String) : String :=
  type ++ " \x7b " ++ ", ".intercalate fields ++ " \x7d"

/-- The description of a truth value. -/
def describeBool (b : Bool) : String := if b then "true" else "false"

/-- The description of a stage. -/
def Stage.description : Stage → String
  | .uncompiled => "Uncompiled"
  | .staticOnly => "StaticOnly"
  | .staticAndDynamic => "StaticAndDynamic"

/-- The description of a layout. -/
def Layout.description : Layout → String
  | .expanded => "Expanded"
  | .compact => "Compact"

/-- The description of a configuration. -/
def Config.description (c : Config) : String :=
  described "StyleConfig" [
    describedField "format" c.layout.description,
    describedField "skip_unchanged_writes" (describeBool c.skipUnchanged)]

/-- The description of a record. -/
def Record.description (r : Record P) : String :=
  described "StyleRecord" [
    describedField "base_rule" (Text.quoted r.base),
    describedField "state" r.stage.description,
    describedField "static_selectors" (Decimal.signed r.compiled.staticRules.size),
    describedField "dynamic_selectors" (Decimal.signed r.compiled.dynamicRules.size),
    ".."]

/-- The description of a registry. -/
def Registry.description (r : Registry P) : String :=
  described "StyleRegistry" [
    describedField "base_rules" ("[" ++ ", ".intercalate (r.bases.map Text.quoted) ++ "]"),
    describedField "config" r.config.description]

/-- The description of a manager, whose stage depends on its session. -/
def Session.describe (s : Session P σ) (m : Manager P) : String :=
  described "StyleManager" [
    describedField "base_rule" (Text.quoted m.base),
    describedField "state" (s.stageOf m).description,
    ".."]

end Restyle
