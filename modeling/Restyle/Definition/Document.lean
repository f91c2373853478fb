import Restyle.Definition
import Restyle.Error
import Restyle.File
import Restyle.Json.Reader
import Restyle.Yaml.Value

/-!
# Definitions from documents

A document that maps names to values is a definition without producers. Mappings become nested
definitions; texts and numbers become fixed values; truth values, null and sequences are spelled out
as texts, a sequence as its items joined by commas. Tags are looked through. Names keep their order,
and where two names have one spelling the first place and the last value count.
-/

namespace Restyle

variable {P : Type}

namespace Json

/-- The name of a kind of value, with its article. -/
def kindName : Json → String
  | .null => "null"
  | .bool _ => "a boolean"
  | .number _ => "a number"
  | .string _ => "a string"
  | .array _ => "an array"
  | .object _ => "an object"

mutual

/-- The value of a leaf. An object among the items of an array is written as compact text. -/
def leaf : Json → Value
  | .null => .text "null"
  | .bool b => .text (if b then "true" else "false")
  | .number n => .number n.toFloat
  | .string s => .text s
  | .array items => .text (",".intercalate (leafTexts items))
  | .object members => .text (Json.object members).text

/-- The written forms of the items of an array. -/
def leafTexts : List Json → List String
  | [] => []
  | v :: rest => v.leaf.written :: leafTexts rest

end

mutual

/-- The entry for a value: objects are nested, all else is fixed. -/
def entry : Json → Entry P
  | .object members => .nested (.ofList (entries members))
  | v => .fixed v.leaf

/-- The entries for the members of an object, repeated names included. -/
def entries : List (String × Json) → List (String × Entry P)
  | [] => []
  | (name, v) :: rest => (name, v.entry) :: entries rest

end

end Json

namespace Yaml.Value

/-- A name that is a double below `10 ^ 16`, and from `10 ^ -5` on, has the point in place; others
have an exponent, with a sign only if it is negative. -/
def nameMarking : Decimal.Marking := ⟨16, 4, false⟩

/-- The text of a value where only a name or a word has room. -/
def name : Yaml.Value → String
  | .null => "null"
  | .bool b => if b then "true" else "false"
  | .number n => n.text nameMarking
  | .string s => s
  | .sequence _ => "a sequence"
  | .mapping _ => "a mapping"
  | .tagged _ inner => inner.name

mutual

/-- The value of a leaf. A mapping among the items of a sequence is only named as such. -/
def leaf : Yaml.Value → Restyle.Value
  | .null => .text "null"
  | .bool b => .text (if b then "true" else "false")
  | .number n => .number n.toFloat
  | .string s => .text s
  | .sequence items => .text (",".intercalate (leafTexts items))
  | .mapping _ => .text "a mapping"
  | .tagged _ inner => inner.leaf

/-- The written forms of the items of a sequence. -/
def leafTexts : List Yaml.Value → List String
  | [] => []
  | v :: rest => v.leaf.written :: leafTexts rest

end

mutual

/-- The entry for a value: mappings are nested, all else is fixed, and tags are looked through. -/
def entry : Yaml.Value → Entry P
  | .mapping pairs => .nested (.ofList (entries pairs))
  | .tagged _ inner => inner.entry
  | .null => .fixed (leaf .null)
  | .bool b => .fixed (leaf (.bool b))
  | .number n => .fixed (leaf (.number n))
  | .string s => .fixed (leaf (.string s))
  | .sequence items => .fixed (leaf (.sequence items))

/-- The entries for the pairs of a mapping under the names of their keys. -/
def entries : List (Yaml.Value × Yaml.Value) → List (String × Entry P)
  | [] => []
  | (key, v) :: rest => (key.name, v.entry) :: entries rest

end

end Yaml.Value

namespace Definition

/-- The definition that a JSON value describes. It must be an object. -/
def ofJson : Json → Except StyleError (Definition P)
  | .object members => .ok (.ofList (Json.entries members))
  | v => .error (.parse (.notAnObject v.kindName))

/-- The definition that a JSON text describes. -/
def ofJsonText (s : String) : Except StyleError (Definition P) :=
  match Json.read s with
  | .ok v => ofJson v.merged
  | .error _ => .error (.parse .malformed)

/-- The definition that a YAML value describes. It must be a mapping without a tag of its own; null
is the empty definition. -/
def ofYaml : Yaml.Value → Except StyleError (Definition P)
  | .mapping pairs => .ok (.ofList (Yaml.Value.entries pairs))
  | .null => .ok .empty
  | v => .error (.parse (.notAMapping v.name))

/-- The definition that a YAML text describes. -/
def ofYamlText (s : String) : Except StyleError (Definition P) :=
  match Yaml.read s with
  | .ok v => ofYaml v
  | .error _ => .error (.parse .malformed)

/-- The extensions of definition files. -/
def knownExtensions : List String := [".yaml", ".yml", ".json"]

/-- The definition that a file holds. The file is read before its extension is looked at. -/
def ofFile (f : File) : Except StyleError (Definition P) :=
  match f.text? with
  | none => .error (.load f.name .unreadable)
  | some s =>
    match f.format? with
    | some .json => ofJsonText s
    | some .yaml => ofYamlText s
    | none => .error (.load f.name (.unknownExtension knownExtensions))

end Definition

end Restyle
