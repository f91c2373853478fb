import Mathlib.Data.List.Induction
import Restyle.Compilation
import Restyle.Proofs.RuleSet

/-!
# Where a declaration is placed

A first compilation keeps two rule sets for plain declarations, one for fixed and one for produced
values, and moves a pair of selector and property from one to the other whenever it is declared with
the other kind of value. However often this happens, only the latest declaration counts: a pair is
in the rule set of the kind that it was last declared with, with that value, and not in the other.

The exception are selectors that are headings of keyframes blocks: a block takes its heading over
with everything that was declared under it. `find?_compile` is the law for all other selectors. It
rests on `Compilation.Places`, which every event hands on (`Compilation.Places.record`).
-/

namespace Restyle

variable {P : Type}

/-! ### Events about a pair and events about a heading -/

/-- Whether an event declares a pair of selector and property. -/
def Event.declares (selector property : String) : Event P → Bool
  | .fixed s p _ => s = selector && p = property
  | .computed s p _ => s = selector && p = property
  | .keyframes _ _ _ => false

/-- Whether an event is a keyframes block with the given heading. -/
def Event.heads (heading : String) : Event P → Bool
  | .keyframes _ name _ => keyframesHeading name = heading
  | _ => false

/-- No keyframes block has a heading that does not start like one. -/
lemma Event.heads_eq_false {selector : String} (h : isKeyframesHeading selector = false)
    (event : Event P) : event.heads selector = false := by
  cases event with
  | fixed s p value => rfl
  | computed s p producer => rfl
  | keyframes parent name timeline =>
    have hne : keyframesHeading name ≠ selector := by
      intro heq
      rw [← heq, isKeyframesHeading_keyframesHeading] at h
      cases h
    simpa [Event.heads] using hne

/-- The last element with `p` changes with an element that has `p` and with no other. -/
lemma getLast?_filter_concat {α : Type} (p : α → Bool) (xs : List α) (x : α) :
    ((xs ++ [x]).filter p).getLast? = if p x then some x else (xs.filter p).getLast? := by
  rw [List.filter_append]
  by_cases h : p x = true
  · simp [h]
  · simp [h]

/-- The latest declaration of a pair in a list of events. -/
def latestDeclaration (selector property : String) (events : List (Event P)) : Option (Event P) :=
  (events.filter (Event.declares selector property)).getLast?

/-- The latest declaration of a pair is one of the events and declares the pair. -/
lemma of_latestDeclaration {selector property : String} {events : List (Event P)} {event : Event P}
    (h : latestDeclaration selector property events = some event) :
    event ∈ events ∧ event.declares selector property = true :=
  List.mem_filter.mp (List.mem_of_getLast? h)

/-- One more event is the latest declaration if it declares the pair at all. -/
lemma latestDeclaration_concat (selector property : String) (events : List (Event P))
    (event : Event P) :
    latestDeclaration selector property (events ++ [event]) =
      if event.declares selector property then some event
      else latestDeclaration selector property events :=
  getLast?_filter_concat ..

/-! ### Keyframes blocks -/

/-- The frames of a timeline as the entries of a block. -/
def Definition.frameEntries (timeline : Definition P) : List (String × RuleValue P) :=
  timeline.frames.blocks.entries.map fun e => (e.1, .frame e.2)

/-- A block that is put under its heading replaces what stood there; an empty one only removes. -/
lemma RuleSet.get?_putFrames (rules : RuleSet P) (heading : String) (timeline : Definition P)
    (s : String) :
    (rules.putFrames heading timeline).get? s =
      if heading = s then
        if timeline.frameEntries = [] then none else some (.ofList timeline.frameEntries)
      else rules.get? s := by
  change ((rules.eraseSelector heading).insertAll heading timeline.frameEntries).get? s = _
  by_cases hs : heading = s
  · subst hs
    have hgone : (rules.eraseSelector heading).get? heading = none := by
      rw [get?_eraseSelector, if_pos rfl]
    rw [get?_insertAll_of_get?_eq_none hgone, if_pos rfl]
  · rw [get?_insertAll_of_ne hs, get?_eraseSelector, if_neg hs, if_neg hs]

lemma RuleSet.find?_putFrames_of_ne {rules : RuleSet P} {heading s : String} (h : heading ≠ s)
    (timeline : Definition P) (p : String) :
    (rules.putFrames heading timeline).find? s p = rules.find? s p := by
  rw [find?_eq, get?_putFrames, if_neg h, find?_eq]

namespace Compilation

/-- A timeline with a produced value goes to the dynamic rules as a whole. -/
lemma record_keyframes_of_dynamic (c : Compilation P) (parent name : String)
    {timeline : Definition P} (h : timeline.isDynamicTimeline = true) :
    c.record (.keyframes parent name timeline) =
      { c with
        staticKeyframes := c.staticKeyframes.eraseSelector (keyframesHeading name)
        dynamicRules := c.dynamicRules.putFrames (keyframesHeading name) timeline } := by
  simp only [record, h, if_true]

/-- A timeline without produced values goes to the fixed keyframes. -/
lemma record_keyframes_of_static (c : Compilation P) (parent name : String)
    {timeline : Definition P} (h : timeline.isDynamicTimeline = false) :
    c.record (.keyframes parent name timeline) =
      { c with
        staticKeyframes := c.staticKeyframes.putFrames (keyframesHeading name) timeline
        dynamicRules := c.dynamicRules.eraseSelector (keyframesHeading name) } := by
  simp only [record, h, Bool.false_eq_true, if_false]

/-- A keyframes block leaves the fixed rules alone. -/
lemma staticRules_record_keyframes (c : Compilation P) (parent name : String)
    (timeline : Definition P) :
    (c.record (.keyframes parent name timeline)).staticRules = c.staticRules := by
  cases h : timeline.isDynamicTimeline with
  | true => rw [record_keyframes_of_dynamic c parent name h]
  | false => rw [record_keyframes_of_static c parent name h]

/-- A keyframes block changes nothing under selectors other than its heading. -/
lemma find?_dynamicRules_record_keyframes (c : Compilation P) (parent : String) {name s : String}
    (hne : keyframesHeading name ≠ s) (timeline : Definition P) (p : String) :
    (c.record (.keyframes parent name timeline)).dynamicRules.find? s p =
      c.dynamicRules.find? s p := by
  cases h : timeline.isDynamicTimeline with
  | true =>
    rw [record_keyframes_of_dynamic c parent name h]
    exact RuleSet.find?_putFrames_of_ne hne timeline p
  | false =>
    rw [record_keyframes_of_static c parent name h]
    exact RuleSet.find?_eraseSelector_of_ne hne p

end Compilation

/-! ### What one event does to a pair -/

/-- The value that an event leaves in the fixed rules for a pair that it declares. -/
def Event.fixedValue? : Event P → Option (RuleValue P)
  | .fixed _ _ value => some (.fixed value)
  | _ => none

/-- The value that an event leaves in the dynamic rules for a pair that it declares. -/
def Event.computedValue? : Event P → Option (RuleValue P)
  | .computed _ _ producer => some (.computed producer)
  | _ => none

namespace Compilation

/-- An event changes the fixed rules at the pair that it declares and nowhere else. -/
lemma find?_staticRules_record (c : Compilation P) (event : Event P)
    (selector property : String) :
    (c.record event).staticRules.find? selector property =
      if event.declares selector property then event.fixedValue?
      else c.staticRules.find? selector property := by
  cases event with
  | fixed s p value =>
    simp [Compilation.record, RuleSet.find?_insert, Event.declares, Event.fixedValue?]
  | computed s p producer =>
    simp [Compilation.record, RuleSet.find?_erase, Event.declares, Event.fixedValue?]
  | keyframes parent name timeline =>
    rw [c.staticRules_record_keyframes parent name timeline]
    rfl

/-- Outside its heading, an event changes the dynamic rules at the pair that it declares and nowhere
else. -/
lemma find?_dynamicRules_record (c : Compilation P) {event : Event P} {selector : String}
    (h : event.heads selector = false) (property : String) :
    (c.record event).dynamicRules.find? selector property =
      if event.declares selector property then event.computedValue?
      else c.dynamicRules.find? selector property := by
  cases event with
  | fixed s p value =>
    simp [Compilation.record, RuleSet.find?_erase, Event.declares, Event.computedValue?]
  | computed s p producer =>
    simp [Compilation.record, RuleSet.find?_insert, Event.declares, Event.computedValue?]
  | keyframes parent name timeline =>
    have hne : keyframesHeading name ≠ selector := by simpa [Event.heads] using h
    exact c.find?_dynamicRules_record_keyframes parent hne timeline property

end Compilation

/-! ### The latest declaration decides -/

namespace Compilation

/-- The place of a pair in a compilation is the one that its latest declaration asks for. -/
def Places (c : Compilation P) (selector property : String) : Option (Event P) → Prop
  | some (.fixed _ _ value) =>
    c.staticRules.find? selector property = some (.fixed value) ∧
      c.dynamicRules.find? selector property = none
  | some (.computed _ _ producer) =>
    c.staticRules.find? selector property = none ∧
      c.dynamicRules.find? selector property = some (.computed producer)
  | _ =>
    c.staticRules.find? selector property = none ∧
      c.dynamicRules.find? selector property = none

/-- Only the two values that a pair has matter for its place. -/
lemma Places.congr {c c' : Compilation P} {selector property : String} {latest : Option (Event P)}
    (h : c.Places selector property latest)
    (hstatic : c'.staticRules.find? selector property = c.staticRules.find? selector property)
    (hdynamic : c'.dynamicRules.find? selector property = c.dynamicRules.find? selector property) :
    c'.Places selector property latest := by
  match latest with
  | none => exact ⟨hstatic.trans h.1, hdynamic.trans h.2⟩
  | some (.fixed _ _ _) => exact ⟨hstatic.trans h.1, hdynamic.trans h.2⟩
  | some (.computed _ _ _) => exact ⟨hstatic.trans h.1, hdynamic.trans h.2⟩
  | some (.keyframes _ _ _) => exact ⟨hstatic.trans h.1, hdynamic.trans h.2⟩

/-- One more event keeps every pair in its place, apart from the heading of a keyframes block. -/
lemma Places.record {c : Compilation P} {selector property : String} {latest : Option (Event P)}
    (h : c.Places selector property latest) {event : Event P}
    (hevent : event.heads selector = false) :
    (c.record event).Places selector property
      (if event.declares selector property then some event else latest) := by
  have hstatic := c.find?_staticRules_record event selector property
  have hdynamic := c.find?_dynamicRules_record hevent property
  cases hdeclares : event.declares selector property with
  | true =>
    rw [hdeclares, if_pos rfl] at hstatic hdynamic
    rw [if_pos rfl]
    cases event with
    | fixed s p value => exact ⟨hstatic, hdynamic⟩
    | computed s p producer => exact ⟨hstatic, hdynamic⟩
    | keyframes parent name timeline => cases hdeclares
  | false =>
    rw [hdeclares, if_neg Bool.false_ne_true] at hstatic hdynamic
    rw [if_neg Bool.false_ne_true]
    exact h.congr hstatic hdynamic

/-- After any list of events, every pair is where its latest declaration puts it, unless a keyframes
block took its selector as heading. -/
lemma places_foldl_record {selector property : String} {events : List (Event P)}
    (hevents : ∀ event ∈ events, event.heads selector = false) :
    (events.foldl Compilation.record .empty).Places selector property
      (latestDeclaration selector property events) := by
  induction events using List.reverseRecOn with
  | nil => exact ⟨rfl, rfl⟩
  | append_singleton events event ih =>
    rw [List.foldl_concat, latestDeclaration_concat]
    exact (ih fun e he => hevents e (List.mem_append_left _ he)).record
      (hevents event (by simp))

end Compilation

/-- For every selector that is not the heading of a keyframes block of the definition, the latest
declaration of a pair decides where a first compilation puts it: with the value of that declaration
among the fixed rules or among the dynamic ones, and never in both; a pair that is not declared is
in neither. -/
theorem find?_compile (d : Definition P) (base selector property : String)
    (hblocks : ∀ parent name timeline, Event.keyframes parent name timeline ∈ d.walk base →
      keyframesHeading name ≠ selector) :
    (∀ value, latestDeclaration selector property (d.walk base) =
        some (.fixed selector property value) →
      (d.compile base).staticRules.find? selector property = some (.fixed value) ∧
        (d.compile base).dynamicRules.find? selector property = none) ∧
    (∀ producer, latestDeclaration selector property (d.walk base) =
        some (.computed selector property producer) →
      (d.compile base).staticRules.find? selector property = none ∧
        (d.compile base).dynamicRules.find? selector property = some (.computed producer)) ∧
    (latestDeclaration selector property (d.walk base) = none →
      (d.compile base).staticRules.find? selector property = none ∧
        (d.compile base).dynamicRules.find? selector property = none) := by
  have hplaces : (d.compile base).Places selector property
      (latestDeclaration selector property (d.walk base)) := by
    refine Compilation.places_foldl_record fun event hevent => ?_
    cases event with
    | fixed s p value => rfl
    | computed s p producer => rfl
    | keyframes parent name timeline =>
      simpa [Event.heads] using hblocks parent name timeline hevent
  refine ⟨fun value h => ?_, fun producer h => ?_, fun h => ?_⟩
  · rw [h] at hplaces
    exact hplaces
  · rw [h] at hplaces
    exact hplaces
  · rw [h] at hplaces
    exact hplaces

/-- A definition that declares one pair twice, in two spellings and below an absolute selector, with
a keyframes block in between. -/
def redeclared : Definition Unit :=
  ⟨[("backgroundColor", .fixed (.text "red")),
    ("@spin", .nested ⟨[("from", .nested ⟨[("opacity", .fixed (.text "0"))]⟩)]⟩),
    ("div", .nested ⟨[("=.A", .nested ⟨[("background-color", .computed ())]⟩)]⟩)]⟩

/-- The pair that `redeclared` declares twice ends among the dynamic rules. -/
theorem find?_compile_redeclared :
    (∀ parent name timeline, Event.keyframes parent name timeline ∈ redeclared.walk ".A" →
      keyframesHeading name ≠ ".A") ∧
    (redeclared.compile ".A").staticRules.find? ".A" "background-color" = none ∧
    (redeclared.compile ".A").dynamicRules.find? ".A" "background-color" = some (.computed ()) := by
  have hwalk : redeclared.walk ".A" =
      [.fixed ".A" "background-color" (.text "red"),
        .keyframes ".A" "@spin" ⟨[("from", .nested ⟨[("opacity", .fixed (.text "0"))]⟩)]⟩,
        .computed ".A" "background-color" ()] := by rfl
  have hblocks : ∀ parent name timeline,
      Event.keyframes parent name timeline ∈ redeclared.walk ".A" →
        keyframesHeading name ≠ ".A" := by
    intro parent name timeline h
    rw [hwalk] at h
    obtain ⟨-, rfl, -⟩ : parent = ".A" ∧ name = "@spin" ∧ _ := by simpa using h
    decide
  exact ⟨hblocks, (find?_compile redeclared ".A" ".A" "background-color" hblocks).2.1 () rfl⟩

end Restyle
