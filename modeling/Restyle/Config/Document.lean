import Restyle.Config.Basic
import Restyle.Error
import Restyle.File
import Restyle.Json.Reader
import Restyle.Text.Blank
import Restyle.Yaml.Value

/-!
# Configurations from documents

A configuration document has two optional fields. No other field may occur and none may occur twice;
a missing one takes its standard value. A blank YAML text, or one without a document, is the
standard configuration. JSON may also give the fields by position, as an array.
-/

namespace Restyle.Config

/-- The fields as far as they have been read. -/
structure Fields where
  /-- The layout. -/
  layout : Option Layout
  /-- The policy for unchanged texts. -/
  skipUnchanged : Option Bool

/-- No field. -/
def Fields.none : Fields := ⟨.none, .none⟩

/-- The configuration that the fields give. -/
def Fields.config (f : Fields) : Config :=
  ⟨f.layout.getD standard.layout, f.skipUnchanged.getD standard.skipUnchanged⟩

/-- Adds a field by name, unless it is there already. The readers of its value come with it. -/
def Fields.add (f : Fields) (name : String) (layout : Option Layout) (skip : Option Bool) :
    Option Fields :=
  if name = "format" then
    if f.layout.isSome then Option.none else layout.map fun l => { f with layout := some l }
  else if name = "skip_unchanged_writes" then
    if f.skipUnchanged.isSome then Option.none
    else skip.map fun b => { f with skipUnchanged := some b }
  else Option.none

/-- The layout that a JSON value names: by a string, or by an object whose one member holds null. -/
def layoutOfJson? : Json → Option Layout
  | .string s => Layout.ofName? s
  | .object [(name, .null)] => Layout.ofName? name
  | _ => none

/-- The truth value of a JSON value. -/
def boolOfJson? : Json → Option Bool
  | .bool b => some b
  | _ => none

/-- The configuration that a JSON value describes. -/
def ofJson? : Json → Option Config
  | .object members =>
    (members.foldlM
      (fun (f : Fields) m => f.add m.1 (layoutOfJson? m.2) (boolOfJson? m.2))
      .none).map Fields.config
  | .array [] => some standard
  | .array [l] => (layoutOfJson? l).map standard.withLayout
  | .array [l, b] => do
    let layout ← layoutOfJson? l
    let skip ← boolOfJson? b
    some ⟨layout, skip⟩
  | _ => none

/-- The configuration that a JSON text describes. -/
def ofJsonText (s : String) : Except StyleError Config :=
  match (Json.read s).toOption.bind ofJson? with
  | some c => .ok c
  | none => .error (.parse .malformed)

open Yaml in
/-- The layout that a YAML node names: by a scalar, or by the tag of a scalar that is null. -/
def layoutOfNode? : Node → Option Layout
  | .scalar tag text style =>
    match localTag? tag with
    | some name => if style = .plain ∧ (text = "" ∨ isNull text) then Layout.ofName? name else none
    | none => Layout.ofName? text
  | _ => none

open Yaml in
/-- The truth value of a YAML node: a plain scalar, or a literal block tagged as a truth value. -/
def boolOfNode? : Node → Option Bool
  | .scalar tag text style =>
    if style = .plain ∨ (style = .literal ∧ tag = some (commonTag "bool")) then truth? text
    else none
  | _ => none

open Yaml in
/-- Adds the field that a pair of a mapping gives. Its key is a scalar of any style. -/
def addPair (d : Document) (f : Fields) (pair : Node × Node) : Following Fields := do
  match ← d.follow pair.1 with
  | .scalar _ name _ =>
    let value ← d.follow pair.2
    match f.add name (layoutOfNode? value) (boolOfNode? value) with
    | some f => pure f
    | none => throw .badScalar
  | _ => throw .badStructure

open Yaml in
/-- The configuration that the root of a document describes. An empty plain scalar has no fields. -/
def ofDocument (d : Document) : Following Config := do
  match ← d.follow d.root with
  | .mapping _ pairs => pure (← pairs.foldlM (addPair d) Fields.none).config
  | .scalar _ text style =>
    if text = "" ∧ style = .plain then pure standard else throw .badStructure
  | _ => throw .badStructure

/-- The configuration that a YAML text describes. -/
def ofYamlText (s : String) : Except StyleError Config :=
  if Text.isBlankText s then .ok standard
  else
    match Yaml.document s with
    | .ok none => .ok standard
    | .ok (some d) =>
      match (ofDocument d).run' 0 with
      | .ok c => .ok c
      | .error _ => .error (.parse .malformed)
    | .error _ => .error (.parse .malformed)

/-- The configuration that a file holds. The file is read before its extension is looked at. -/
def ofFile (f : File) : Except StyleError Config :=
  match f.text? with
  | none => .error (.load f.name .unreadable)
  | some s =>
    match f.format? with
    | some .json => ofJsonText s
    | some .yaml => ofYamlText s
    | none => .error (.load f.name .unknownConfigExtension)

end Restyle.Config
