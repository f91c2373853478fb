import Restyle.Proofs.Compilation.Blocks

/-!
# What a later compilation gives

A later compilation has the shape of the rule set that it starts from: the same selectors in the
same order and, apart from headings of keyframes blocks, the same properties in the same order. Each
pair has the value of its latest declaration in the new definition, of whichever kind, or keeps the
value that it had. A block under a heading is exchanged as a whole if the new definition has a block
with frames there, and kept as a whole if it has none, so that frames of two definitions never meet
in one block. `refresh_latest` puts this together.

Whatever else the new definition declares is without effect. `RuleSet.concerns` says which events
matter to a rule set, and two definitions with the same events of this kind give the same rules
(`RuleSet.refresh_congr`).
-/

namespace Restyle

variable {P : Type}

/-! ### The latest of everything -/

/-- The value of a plain declaration. -/
def Event.value? : Event P → Option (RuleValue P)
  | .fixed _ _ value => some (.fixed value)
  | .computed _ _ producer => some (.computed producer)
  | .keyframes _ _ _ => none

/-- The value of the latest declaration of a pair in a list of events. -/
def latestValue (selector property : String) (events : List (Event P)) : Option (RuleValue P) :=
  (latestDeclaration selector property events).bind Event.value?

/-- One more event has the latest value of the pair that it declares, and of no other. -/
lemma latestValue_concat (selector property : String) (events : List (Event P))
    (event : Event P) :
    latestValue selector property (events ++ [event]) =
      if event.declares selector property then event.value?
      else latestValue selector property events := by
  unfold latestValue
  rw [latestDeclaration_concat]
  split <;> rfl

namespace RuleSet

/-- An event changes the latest value of the pair that it declares, and of no other pair outside
its heading. -/
lemma find?_recordLatest (latest : RuleSet P) {event : Event P} {selector : String}
    (h : event.heads selector = false) (property : String) :
    (latest.recordLatest event).find? selector property =
      if event.declares selector property then event.value?
      else latest.find? selector property := by
  cases event with
  | fixed s p value => simp [recordLatest, find?_insert, Event.declares, Event.value?]
  | computed s p producer => simp [recordLatest, find?_insert, Event.declares, Event.value?]
  | keyframes parent name timeline =>
    have hne : keyframesHeading name ≠ selector := by simpa [Event.heads] using h
    exact find?_putFrames_of_ne hne timeline property

/-- An event that is no plain declaration under a heading changes the block there only by putting a
block of its own in its place. -/
lemma get?_recordLatest (latest : RuleSet P) {event : Event P} {heading : String}
    (h : event.plainSelector? ≠ some heading) :
    (latest.recordLatest event).get? heading =
      match event.timelineUnder? heading with
      | some timeline => timeline.block?
      | none => latest.get? heading := by
  cases event with
  | fixed s p value =>
    have hne : s ≠ heading := fun heq => h (congrArg some heq)
    exact (get?_insert ..).trans (if_neg hne)
  | computed s p producer =>
    have hne : s ≠ heading := fun heq => h (congrArg some heq)
    exact (get?_insert ..).trans (if_neg hne)
  | keyframes parent name timeline =>
    have hget : (latest.recordLatest (.keyframes parent name timeline)).get? heading =
        if keyframesHeading name = heading then timeline.block? else latest.get? heading :=
      get?_putFrames ..
    rw [hget, Event.timelineUnder?]
    by_cases hname : keyframesHeading name = heading
    · simp [hname]
    · simp [hname]

/-- An event makes the same of two blocks that are the same. -/
lemma get?_recordLatest_congr {x y : RuleSet P} {selector : String}
    (h : x.get? selector = y.get? selector) (event : Event P) :
    (x.recordLatest event).get? selector = (y.recordLatest event).get? selector := by
  cases event with
  | fixed s p value =>
    simp only [recordLatest, get?_insert]
    split
    · rename_i heq
      rw [heq, h]
    · exact h
  | computed s p producer =>
    simp only [recordLatest, get?_insert]
    split
    · rename_i heq
      rw [heq, h]
    · exact h
  | keyframes parent name timeline => simp only [recordLatest, get?_putFrames, h]

lemma WellFormed.recordLatest {latest : RuleSet P} (h : latest.WellFormed) (event : Event P) :
    (latest.recordLatest event).WellFormed := by
  cases event with
  | fixed s p value => exact h.insert s p _
  | computed s p producer => exact h.insert s p _
  | keyframes parent name timeline => exact (h.eraseSelector _).insertAll _ _

end RuleSet

lemma wellFormed_latest (d : Definition P) (base : String) : (d.latest base).WellFormed :=
  List.foldlRecOn (d.walk base) _ .empty fun _ h event _ => h.recordLatest event

/-- Outside headings, the collection of everything has the latest value of each pair. -/
lemma find?_latest (d : Definition P) (base : String) {selector : String}
    (h : isKeyframesHeading selector = false) (property : String) :
    (d.latest base).find? selector property = latestValue selector property (d.walk base) := by
  unfold Definition.latest
  induction d.walk base using List.reverseRecOn with
  | nil => rfl
  | append_singleton events event ih =>
    rw [List.foldl_concat, RuleSet.find?_recordLatest _ (event.heads_eq_false h), ih,
      latestValue_concat]

/-- Under a heading without plain declarations, the collection of everything has the latest block.
-/
lemma get?_latest {d : Definition P} {base heading : String}
    (hplain : ∀ event ∈ d.walk base, event.plainSelector? ≠ some heading) :
    (d.latest base).get? heading =
      (latestTimeline heading (d.walk base)).bind Definition.block? := by
  unfold Definition.latest
  generalize d.walk base = events at hplain
  induction events using List.reverseRecOn with
  | nil => rfl
  | append_singleton events event ih =>
    have hbefore := ih fun e he => hplain e (List.mem_append_left _ he)
    rw [List.foldl_concat, RuleSet.get?_recordLatest _ (hplain event (by simp)), hbefore,
      latestTimeline_concat]
    cases event.timelineUnder? heading <;> rfl

/-! ### Refreshed blocks -/

section Block

variable {latest : RuleSet P} {selector : String}

/-- Outside headings, each value of a block is exchanged for the latest one if there is one. -/
lemma refreshBlock_of_not_heading (h : isKeyframesHeading selector = false)
    (block : Declarations P) :
    OrderedMap.mk (refreshBlock latest selector block) =
      block.mapKeyed fun p old => (latest.find? selector p).getD old := by
  unfold refreshBlock
  cases hfresh : latest.get? selector with
  | none => simp [RuleSet.find?_eq, hfresh, OrderedMap.mapKeyed]
  | some fresh => simp [RuleSet.find?_eq, hfresh, h, OrderedMap.mapKeyed]

/-- Under a heading, the block is exchanged for the latest one if there is one. -/
lemma refreshBlock_of_heading (h : isKeyframesHeading selector = true) (block : Declarations P) :
    OrderedMap.mk (refreshBlock latest selector block) = (latest.get? selector).getD block := by
  unfold refreshBlock
  cases latest.get? selector with
  | none => rfl
  | some fresh => simp [h]

/-- A refreshed block has no property twice and is not empty, if this is so of the block before and
of the latest ones. -/
lemma refreshBlock_wellFormed (hlatest : latest.WellFormed) {block : Declarations P}
    (hd : block.Distinct) (hne : block ≠ .empty) :
    (OrderedMap.mk (refreshBlock latest selector block)).Distinct ∧
      OrderedMap.mk (refreshBlock latest selector block) ≠ .empty := by
  cases h : isKeyframesHeading selector with
  | true =>
    rw [refreshBlock_of_heading h]
    cases hfresh : latest.get? selector with
    | none => exact ⟨hd, hne⟩
    | some fresh =>
      have hmem : (selector, fresh) ∈ latest.blocks.entries :=
        OrderedMap.mem_entries_of_get? hfresh
      exact ⟨hlatest.block_distinct _ hmem, hlatest.block_nonempty _ hmem⟩
  | false =>
    rw [refreshBlock_of_not_heading h]
    exact ⟨hd.mapKeyed _, fun hempty => hne (OrderedMap.mapKeyed_eq_empty_iff.mp hempty)⟩

end Block

/-! ### Refreshed rule sets -/

namespace RuleSet

variable {compiled latest : RuleSet P}

/-- A rule set whose blocks are exchanged one by one. -/
def refreshed (compiled latest : RuleSet P) : RuleSet P :=
  ⟨compiled.blocks.mapKeyed fun selector block => ⟨refreshBlock latest selector block⟩⟩

lemma selectors_refreshed : (compiled.refreshed latest).selectors = compiled.selectors :=
  OrderedMap.keys_mapKeyed ..

lemma get?_refreshed (selector : String) :
    (compiled.refreshed latest).get? selector =
      (compiled.get? selector).map fun block => ⟨refreshBlock latest selector block⟩ :=
  OrderedMap.get?_mapKeyed ..

/-- Outside headings, a refreshed block has the same properties. -/
lemma keys_refreshed {selector : String} (h : isKeyframesHeading selector = false) :
    ((compiled.refreshed latest).get? selector).map OrderedMap.keys =
      (compiled.get? selector).map OrderedMap.keys := by
  rw [get?_refreshed, Option.map_map]
  congr 1
  funext block
  change (OrderedMap.mk (refreshBlock latest selector block)).keys = block.keys
  rw [refreshBlock_of_not_heading h]
  exact OrderedMap.keys_mapKeyed ..

/-- Outside headings, a refreshed rule set has the latest values for the pairs that it had. -/
lemma find?_refreshed {selector : String} (h : isKeyframesHeading selector = false)
    (property : String) :
    (compiled.refreshed latest).find? selector property =
      (compiled.find? selector property).map fun old =>
        (latest.find? selector property).getD old := by
  rw [find?_eq, get?_refreshed, find?_eq compiled]
  cases compiled.get? selector with
  | none => rfl
  | some block =>
    change (OrderedMap.mk (refreshBlock latest selector block)).get? property = _
    rw [refreshBlock_of_not_heading h]
    exact OrderedMap.get?_mapKeyed ..

/-- Under a heading, a refreshed rule set has the latest block, or its own if there is none. -/
lemma get?_refreshed_of_heading {heading : String} (h : isKeyframesHeading heading = true) :
    (compiled.refreshed latest).get? heading =
      (compiled.get? heading).map fun old => (latest.get? heading).getD old := by
  rw [get?_refreshed]
  congr 1
  funext old
  rw [refreshBlock_of_heading h]

lemma WellFormed.refreshed (h : compiled.WellFormed) (hlatest : latest.WellFormed) :
    (compiled.refreshed latest).WellFormed := by
  have hblock : ∀ e ∈ (compiled.refreshed latest).blocks.entries,
      e.2.Distinct ∧ e.2 ≠ .empty := by
    intro e he
    obtain ⟨old, hold, rfl⟩ := List.mem_map.mp he
    exact refreshBlock_wellFormed hlatest (h.block_distinct old hold) (h.block_nonempty old hold)
  exact ⟨h.distinct.mapKeyed _, fun e he => (hblock e he).1, fun e he => (hblock e he).2⟩

/-- A refresh exchanges the blocks of a rule set one by one. -/
lemma refresh_eq_refreshed (h : compiled.WellFormed) (d : Definition P) (base : String) :
    compiled.refresh d base = compiled.refreshed (d.latest base) := by
  have hwell : (compiled.refreshed (d.latest base)).WellFormed :=
    h.refreshed (wellFormed_latest d base)
  calc compiled.refresh d base
      = (compiled.refreshed (d.latest base)).blocks.entries.foldl
          (fun rules e => rules.insertAll e.1 e.2.entries) .empty := by
        rw [RuleSet.refreshed, OrderedMap.mapKeyed, List.foldl_map]
        rfl
    _ = compiled.refreshed (d.latest base) := hwell.rebuild

/-! ### Events that matter -/

/-- Whether an event matters to a later compilation of a rule set: a plain declaration if the rule
set has its pair, and whatever there is under a heading if the rule set has the heading. -/
def concerns (rules : RuleSet P) : Event P → Bool
  | .fixed selector property _ =>
    if isKeyframesHeading selector then (rules.get? selector).isSome
    else (rules.find? selector property).isSome
  | .computed selector property _ =>
    if isKeyframesHeading selector then (rules.get? selector).isSome
    else (rules.find? selector property).isSome
  | .keyframes _ name _ => (rules.get? (keyframesHeading name)).isSome

variable {rules : RuleSet P} {event : Event P}

/-- An event that does not matter declares no pair outside headings that the rule set has. -/
lemma declares_eq_false (hevent : rules.concerns event = false) {selector property : String}
    (hselector : isKeyframesHeading selector = false)
    (hhas : (rules.find? selector property).isSome = true) :
    event.declares selector property = false := by
  rw [Bool.eq_false_iff]
  intro hdeclares
  cases event with
  | fixed s p value =>
    obtain ⟨rfl, rfl⟩ : s = selector ∧ p = property := by simpa [Event.declares] using hdeclares
    simp [concerns, hselector, hhas] at hevent
  | computed s p producer =>
    obtain ⟨rfl, rfl⟩ : s = selector ∧ p = property := by simpa [Event.declares] using hdeclares
    simp [concerns, hselector, hhas] at hevent
  | keyframes parent name timeline => cases hdeclares

/-- An event that does not matter has nothing under a heading that the rule set has. -/
lemma avoids_heading (hevent : rules.concerns event = false) {heading : String}
    (hheading : isKeyframesHeading heading = true)
    (hhas : (rules.get? heading).isSome = true) :
    event.plainSelector? ≠ some heading ∧ event.timelineUnder? heading = none := by
  cases event with
  | fixed s p value =>
    refine ⟨fun heq => ?_, rfl⟩
    obtain rfl : s = heading := Option.some.inj heq
    simp [concerns, hheading, hhas] at hevent
  | computed s p producer =>
    refine ⟨fun heq => ?_, rfl⟩
    obtain rfl : s = heading := Option.some.inj heq
    simp [concerns, hheading, hhas] at hevent
  | keyframes parent name timeline =>
    refine ⟨nofun, if_neg fun hname => ?_⟩
    rw [concerns, hname, hhas] at hevent
    cases hevent

/-- Two collections say the same about everything that a rule set has. -/
structure SameOn (rules x y : RuleSet P) : Prop where
  /-- They have the same blocks under its headings. -/
  block : ∀ heading, isKeyframesHeading heading = true → (rules.get? heading).isSome = true →
    x.get? heading = y.get? heading
  /-- They have the same values for its other pairs. -/
  value : ∀ selector property, isKeyframesHeading selector = false →
    (rules.find? selector property).isSome = true →
      x.find? selector property = y.find? selector property

namespace SameOn

variable {x y : RuleSet P}

/-- Both sides take the same event into account. -/
lemma record (h : rules.SameOn x y) (event : Event P) :
    rules.SameOn (x.recordLatest event) (y.recordLatest event) where
  block := fun heading hheading hhas =>
    get?_recordLatest_congr (h.block heading hheading hhas) event
  value := fun selector property hselector hhas => by
    rw [find?_recordLatest x (event.heads_eq_false hselector),
      find?_recordLatest y (event.heads_eq_false hselector),
      h.value selector property hselector hhas]

/-- One side takes an event into account that does not matter. -/
lemma skip (h : rules.SameOn x y) (hevent : rules.concerns event = false) :
    rules.SameOn (x.recordLatest event) y where
  block := fun heading hheading hhas => by
    obtain ⟨hplain, hnone⟩ := avoids_heading hevent hheading hhas
    rw [get?_recordLatest x hplain, hnone]
    exact h.block heading hheading hhas
  value := fun selector property hselector hhas => by
    rw [find?_recordLatest x (event.heads_eq_false hselector),
      declares_eq_false hevent hselector hhas]
    exact h.value selector property hselector hhas

/-- Only the events that matter need to be taken into account. -/
lemma foldl_filter (h : rules.SameOn x y) (events : List (Event P)) :
    rules.SameOn (events.foldl recordLatest x)
      ((events.filter rules.concerns).foldl recordLatest y) := by
  induction events generalizing x y with
  | nil => exact h
  | cons event rest ih =>
    by_cases hevent : rules.concerns event = true
    · rw [List.filter_cons_of_pos hevent]
      exact ih (h.record event)
    · rw [List.filter_cons_of_neg hevent]
      exact ih (h.skip (Bool.eq_false_iff.mpr hevent))

/-- Collections that say the same about a rule set refresh it alike. -/
lemma refreshed_eq (h : rules.SameOn x y) (hrules : rules.WellFormed) :
    rules.refreshed x = rules.refreshed y := by
  refine congrArg RuleSet.mk (OrderedMap.mapKeyed_congr fun e he => ?_)
  have hget : rules.get? e.1 = some e.2 := hrules.distinct.get?_of_mem he
  cases hheading : isKeyframesHeading e.1 with
  | true =>
    rw [refreshBlock_of_heading hheading, refreshBlock_of_heading hheading,
      h.block e.1 hheading (by rw [hget]; rfl)]
  | false =>
    rw [refreshBlock_of_not_heading hheading, refreshBlock_of_not_heading hheading]
    refine OrderedMap.mapKeyed_congr fun e' he' => ?_
    have hfind : rules.find? e.1 e'.1 = some e'.2 := hrules.find?_of_mem he he'
    rw [h.value e.1 e'.1 hheading (by rw [hfind]; rfl)]

end SameOn

/-- Definitions with the same events that matter to a rule set refresh it alike. -/
lemma refresh_congr (h : rules.WellFormed) {d d' : Definition P} {base base' : String}
    (hevents : (d.walk base).filter rules.concerns = (d'.walk base').filter rules.concerns) :
    rules.refresh d base = rules.refresh d' base' := by
  have hstart : rules.SameOn RuleSet.empty RuleSet.empty :=
    ⟨fun _ _ _ => rfl, fun _ _ _ _ => rfl⟩
  have hfiltered : ∀ (d : Definition P) base, rules.refresh d base =
      rules.refreshed (((d.walk base).filter rules.concerns).foldl recordLatest .empty) := by
    intro d base
    rw [refresh_eq_refreshed h]
    exact (hstart.foldl_filter (d.walk base)).refreshed_eq h
  rw [hfiltered d base, hfiltered d' base', hevents]

end RuleSet

/-- A later compilation of rules that were made by the operations of rule sets has the same
selectors in the same order. A selector that does not start like a heading keeps its properties in
order, and each has its latest value in the new definition, or the old one if it is not declared
there. A heading under which the new definition declares nothing in plain has the frames of the
latest timeline if this has any, and else the block that it had. Events about other pairs and
headings are without effect. -/
theorem refresh_latest {compiled : RuleSet P} (h : compiled.Built) (d : Definition P)
    (base : String) :
    (compiled.refresh d base).selectors = compiled.selectors ∧
    (∀ selector, isKeyframesHeading selector = false →
      ((compiled.refresh d base).get? selector).map OrderedMap.keys =
          (compiled.get? selector).map OrderedMap.keys ∧
        ∀ property, (compiled.refresh d base).find? selector property =
          (compiled.find? selector property).map fun old =>
            (latestValue selector property (d.walk base)).getD old) ∧
    (∀ heading, isKeyframesHeading heading = true →
      (∀ event ∈ d.walk base, event.plainSelector? ≠ some heading) →
      ∀ old, compiled.get? heading = some old →
        (∀ timeline, latestTimeline heading (d.walk base) = some timeline →
          timeline.declarations ≠ [] →
            ∃ block, (compiled.refresh d base).get? heading = some block ∧
              timeline.HasBlock block) ∧
        ((∀ timeline, latestTimeline heading (d.walk base) = some timeline →
            timeline.declarations = []) →
          (compiled.refresh d base).get? heading = some old)) ∧
    (∀ (d' : Definition P) (base' : String),
      (d.walk base).filter compiled.concerns = (d'.walk base').filter compiled.concerns →
        compiled.refresh d base = compiled.refresh d' base') := by
  have hwell : compiled.WellFormed := h.wellFormed
  refine ⟨?_, fun selector hselector => ⟨?_, fun property => ?_⟩, ?_, fun d' base' hevents => ?_⟩
  · rw [RuleSet.refresh_eq_refreshed hwell, RuleSet.selectors_refreshed]
  · rw [RuleSet.refresh_eq_refreshed hwell, RuleSet.keys_refreshed hselector]
  · rw [RuleSet.refresh_eq_refreshed hwell, RuleSet.find?_refreshed hselector,
      find?_latest d base hselector]
  · intro heading hheading hplain old hold
    have hget : (compiled.refresh d base).get? heading =
        some (((latestTimeline heading (d.walk base)).bind Definition.block?).getD old) := by
      rw [RuleSet.refresh_eq_refreshed hwell, RuleSet.get?_refreshed_of_heading hheading,
        get?_latest hplain, hold, Option.map_some]
    refine ⟨fun timeline htimeline hdeclares => ?_, fun hnothing => ?_⟩
    · rw [htimeline, Option.bind_some, Definition.block?_of_declarations_ne_nil hdeclares,
        Option.getD_some] at hget
      exact ⟨_, hget, timeline.hasBlock_ofList⟩
    · have hnone : (latestTimeline heading (d.walk base)).bind Definition.block? = none := by
        rw [Option.bind_eq_none_iff]
        intro timeline htimeline
        exact Definition.block?_of_declarations_eq_nil (hnothing timeline htimeline)
      rw [hget, hnone, Option.getD_none]
  · exact RuleSet.refresh_congr hwell hevents

/-- Rules with two produced values and a keyframes block. -/
def earlierRules : RuleSet Nat :=
  ((RuleSet.empty.insert ".A" "color" (.computed 0)).insert ".A" "width" (.computed 1)).insert
    "@keyframes spin" "from" (.frame ⟨[("opacity", .computed 2)]⟩)

/-- A definition that fixes one of these values, says nothing of the other and has a block of its
own. -/
def laterDefinition : Definition Nat :=
  ⟨[("color", .fixed (.text "red")),
    ("@spin", .nested ⟨[("to", .nested ⟨[("opacity", .computed 3)]⟩)]⟩)]⟩

/-- The same definition with one more declaration. -/
def tallerDefinition : Definition Nat :=
  ⟨("height", .fixed (.text "9px")) :: laterDefinition.entries⟩

/-- The earlier rules keep their shape, take one value and the block from the later definition, and
do not see the declaration that is added to it. -/
theorem refresh_latest_earlierRules :
    earlierRules.Built ∧
    (earlierRules.refresh laterDefinition ".A").selectors = [".A", "@keyframes spin"] ∧
    (earlierRules.refresh laterDefinition ".A").find? ".A" "color" =
      some (.fixed (.text "red")) ∧
    (earlierRules.refresh laterDefinition ".A").find? ".A" "width" = some (.computed 1) ∧
    (∃ block, (earlierRules.refresh laterDefinition ".A").get? "@keyframes spin" = some block ∧
      block.keys = ["to"]) ∧
    earlierRules.refresh laterDefinition ".A" = earlierRules.refresh tallerDefinition ".A" := by
  have hbuilt : earlierRules.Built := ((RuleSet.Built.empty.insert ..).insert ..).insert ..
  obtain ⟨hselectors, hvalues, hblocks, hsame⟩ := refresh_latest hbuilt laterDefinition ".A"
  have hplain : ∀ event ∈ laterDefinition.walk ".A",
      event.plainSelector? ≠ some "@keyframes spin" := by
    intro event hevent
    have hwalk : laterDefinition.walk ".A" =
        [.fixed ".A" "color" (.text "red"),
          .keyframes ".A" "@spin" ⟨[("to", .nested ⟨[("opacity", .computed 3)]⟩)]⟩] := rfl
    rw [hwalk] at hevent
    rcases List.mem_pair.mp hevent with rfl | rfl
    · exact fun heq => absurd (Option.some.inj heq) (by decide)
    · nofun
  obtain ⟨block, hblock, hcollects⟩ := (hblocks "@keyframes spin" (by decide) hplain _ rfl).1 _ rfl
    (List.cons_ne_nil _ _)
  have hoffsets : block.keys = ["to"] := hcollects.offsets.trans (by decide)
  exact ⟨hbuilt, hselectors, (hvalues ".A" (by decide)).2 "color",
    (hvalues ".A" (by decide)).2 "width", ⟨block, hblock, hoffsets⟩,
    hsame tallerDefinition ".A" rfl⟩

end Restyle
