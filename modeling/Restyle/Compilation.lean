import Restyle.RuleSet
import Restyle.Walk

/-!
# Compiling definitions

The first compilation of a definition sorts its declarations into three rule sets: fixed
declarations, keyframes blocks without produced values, and everything that must be rendered again
on update. A pair of selector and property lives where its latest declaration puts it. A keyframes
block is never split: one produced value anywhere in its timeline makes the whole block dynamic.

A later compilation keeps the shape of the first: it refreshes the values of a dynamic rule set from
another definition, block by block and property by property, and adds and drops nothing.
-/

namespace Restyle

variable {P : Type}

/-- The result of a first compilation. -/
structure Compilation (P : Type) where
  /-- The fixed declarations. -/
  staticRules : RuleSet P
  /-- The keyframes blocks without produced values. -/
  staticKeyframes : RuleSet P
  /-- The produced declarations, and the keyframes blocks that hold one. -/
  dynamicRules : RuleSet P

/-- The frames of a timeline by offset, as a rule set with offsets in place of selectors. -/
def Definition.frames (timeline : Definition P) : RuleSet P :=
  timeline.walkTimeline.foldl
    (fun frames event =>
      match event with
      | .fixed offset property value => frames.insert offset property (.fixed value)
      | .computed offset property producer => frames.insert offset property (.computed producer)
      | .keyframes _ _ _ => frames)
    .empty

/-- Whether an event is a declaration with a produced value. -/
def Event.isComputed : Event P → Bool
  | .computed _ _ _ => true
  | _ => false

/-- Whether a timeline declares a produced value in some frame. -/
def Definition.isDynamicTimeline (timeline : Definition P) : Bool :=
  timeline.walkTimeline.any Event.isComputed

/-- Puts the frames of a timeline under a heading, in place of what stood there. -/
def RuleSet.putFrames (rules : RuleSet P) (heading : String) (timeline : Definition P) :
    RuleSet P :=
  (rules.eraseSelector heading).insertAll heading
    (timeline.frames.blocks.entries.map fun e => (e.1, .frame e.2))

namespace Compilation

/-- The compilation of nothing. -/
def empty : Compilation P := ⟨.empty, .empty, .empty⟩

/-- Takes one more event into account. -/
def record (c : Compilation P) : Event P → Compilation P
  | .fixed selector property value =>
    { c with
      staticRules := c.staticRules.insert selector property (.fixed value)
      dynamicRules := c.dynamicRules.erase selector property }
  | .computed selector property producer =>
    { c with
      staticRules := c.staticRules.erase selector property
      dynamicRules := c.dynamicRules.insert selector property (.computed producer) }
  | .keyframes _ name timeline =>
    let heading := keyframesHeading name
    if timeline.isDynamicTimeline then
      { c with
        staticKeyframes := c.staticKeyframes.eraseSelector heading
        dynamicRules := c.dynamicRules.putFrames heading timeline }
    else
      { c with
        staticKeyframes := c.staticKeyframes.putFrames heading timeline
        dynamicRules := c.dynamicRules.eraseSelector heading }

/-- Whether there is anything to render once. -/
def hasStatic (c : Compilation P) : Bool := !c.staticRules.isEmpty || !c.staticKeyframes.isEmpty

/-- Whether there is anything to render again on update. -/
def hasDynamic (c : Compilation P) : Bool := !c.dynamicRules.isEmpty

end Compilation

/-- The first compilation of a definition rooted at `base`. -/
def Definition.compile (d : Definition P) (base : String) : Compilation P :=
  (d.walk base).foldl Compilation.record .empty

/-- Takes one more event into account in a rule set that keeps the latest of everything. -/
def RuleSet.recordLatest (rules : RuleSet P) : Event P → RuleSet P
  | .fixed selector property value => rules.insert selector property (.fixed value)
  | .computed selector property producer => rules.insert selector property (.computed producer)
  | .keyframes _ name timeline => rules.putFrames (keyframesHeading name) timeline

/-- The latest declaration of every pair of a definition, fixed and produced ones together. -/
def Definition.latest (d : Definition P) (base : String) : RuleSet P :=
  (d.walk base).foldl RuleSet.recordLatest .empty

/-- The block of `selector` after a refresh: the whole block of `latest` if the selector is a
keyframes heading that `latest` has, else the old block with each value that `latest` knows
exchanged. -/
def refreshBlock (latest : RuleSet P) (selector : String) (block : Declarations P) :
    List (String × RuleValue P) :=
  match latest.get? selector with
  | none => block.entries
  | some fresh =>
    if isKeyframesHeading selector then fresh.entries
    else block.entries.map fun e => (e.1, (fresh.get? e.1).getD e.2)

/-- A later compilation: the selectors of `compiled` with their values refreshed from `d`. -/
def RuleSet.refresh (compiled : RuleSet P) (d : Definition P) (base : String) : RuleSet P :=
  let latest := d.latest base
  compiled.blocks.entries.foldl
    (fun rules e => rules.insertAll e.1 (refreshBlock latest e.1 e.2)) .empty

end Restyle
