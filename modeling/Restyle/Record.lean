import Restyle.Compilation
import Restyle.Provider
import Restyle.Rendering
import Restyle.Target

/-!
# Records

A record is the compiled form of one base rule: its three rule sets, the targets requested for them,
and the texts that reached those targets. The fixed text is rendered and written at most once. The
dynamic text is compared with the latest one that was written, so that equal texts may be left out.

Both kinds of writing answer with the new record and targets only if they succeed; an error carries
neither, so a refused text is not remembered.
-/

namespace Restyle

variable {P : Type}

/-- How far a base rule has come. -/
inductive Stage where
  /-- There is no record yet. -/
  | uncompiled
  /-- The record has nothing to render again. -/
  | staticOnly
  /-- The record has rules that are rendered on every update. -/
  | staticAndDynamic
deriving Repr, DecidableEq

/-- The compiled form of a base rule. -/
structure Record (P : Type) where
  /-- The base rule. -/
  base : String
  /-- The provider of the definition that was compiled. -/
  provider : ProviderId
  /-- The result of the first compilation. -/
  compiled : Compilation P
  /-- The target of the fixed text, if there is any. -/
  staticTarget : Option TargetId
  /-- The fixed text, once written. -/
  staticText : Option String
  /-- The target of the dynamic text, if there is any. -/
  dynamicTarget : Option TargetId
  /-- The latest dynamic text written. -/
  lastDynamic : Option String

namespace Record

/-- Compiles a definition. Targets are requested for the outputs that have content, the fixed one
first; nothing is written. -/
def compile (base : String) (provider : ProviderId) (d : Definition P) (targets : Targets) :
    Record P × Targets :=
  let compiled := d.compile base
  let (staticTarget, targets) := targets.requestIf compiled.hasStatic base .static
  let (dynamicTarget, targets) := targets.requestIf compiled.hasDynamic base .dynamic
  (⟨base, provider, compiled, staticTarget, none, dynamicTarget, none⟩, targets)

/-- The stage that a record has reached; it is never uncompiled. -/
def stage (r : Record P) : Stage :=
  if r.compiled.hasDynamic then .staticAndDynamic else .staticOnly

/-- The rules that are rendered on every update, if there are any. -/
def dynamicRules? (r : Record P) : Option (RuleSet P) :=
  if r.compiled.dynamicRules.isEmpty then none else some r.compiled.dynamicRules

/-- The fixed text: the fixed rules and then the keyframes. -/
def renderStatic (r : Record P) (layout : Layout) : Except StyleError String :=
  RuleSet.renderFixed [r.compiled.staticRules, r.compiled.staticKeyframes] layout

/-- Writes a text to a target of the record. -/
def deliver (r : Record P) (targets : Targets) (id : TargetId) (text : String) :
    Except StyleError Targets :=
  (targets.write id text).mapError (.output r.base)

/-- Renders and writes the fixed text, unless there is none or it was written before. The answer
says whether the target was written. -/
def writeStatic (r : Record P) (layout : Layout) (targets : Targets) :
    Except StyleError (Bool × Record P × Targets) :=
  match r.staticTarget, r.staticText with
  | some id, none => do
    let text ← r.renderStatic layout
    let targets ← r.deliver targets id text
    .ok (true, { r with staticText := some text }, targets)
  | _, _ => .ok (false, r, targets)

/-- Writes a dynamic text, unless the record has no target for it or the text is to be skipped as
unchanged. The answer says whether the target was written. -/
def writeDynamic (r : Record P) (text : String) (skipUnchanged : Bool) (targets : Targets) :
    Except StyleError (Bool × Record P × Targets) :=
  match r.dynamicTarget with
  | none => .ok (false, r, targets)
  | some id =>
    if skipUnchanged && r.lastDynamic == some text then .ok (false, r, targets)
    else do
      let targets ← r.deliver targets id text
      .ok (true, { r with lastDynamic := some text }, targets)

end Record

end Restyle
