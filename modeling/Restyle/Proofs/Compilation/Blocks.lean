import Restyle.Proofs.Compilation.Frames
import Restyle.Proofs.Compilation.Refresh

/-!
# Where a keyframes block is placed

A keyframes block is stored as a whole. One produced value anywhere in its timeline brings all of
its frames to the dynamic rules, those with fixed values included; without one they all go to the
fixed keyframes. A later block with the same heading, in whichever spelling, takes the place of the
earlier one and leaves nothing of it behind, on neither side, even if it declares nothing itself.

`keyframesBlock_compile` is this law for all headings under which nothing is declared in plain. It
rests on `Compilation.Houses`, which every event hands on (`Compilation.Houses.record`).
-/

namespace Restyle

variable {P : Type}

/-! ### The latest block under a heading -/

/-- The timeline of an event that is a keyframes block with the given heading. -/
def Event.timelineUnder? (heading : String) : Event P → Option (Definition P)
  | .keyframes _ name timeline => if keyframesHeading name = heading then some timeline else none
  | _ => none

/-- An event without a timeline under a heading is no block with this heading. -/
lemma Event.timelineUnder?_eq_none_iff {event : Event P} {heading : String} :
    event.timelineUnder? heading = none ↔ event.heads heading = false := by
  cases event with
  | fixed selector property value => simp [timelineUnder?, heads]
  | computed selector property producer => simp [timelineUnder?, heads]
  | keyframes parent name timeline => simp [timelineUnder?, heads]

/-- An event that has a timeline under a heading is a block with this heading. -/
lemma Event.heads_of_timelineUnder? {event : Event P} {heading : String} {timeline : Definition P}
    (h : event.timelineUnder? heading = some timeline) : event.heads heading = true := by
  by_contra hheads
  rw [timelineUnder?_eq_none_iff.mpr (Bool.eq_false_iff.mpr hheads)] at h
  cases h

/-- The timeline of the latest keyframes block with the given heading. -/
def latestTimeline (heading : String) (events : List (Event P)) : Option (Definition P) :=
  (events.filterMap (Event.timelineUnder? heading)).getLast?

/-- One more event has the latest block if it has one at all. -/
lemma latestTimeline_concat (heading : String) (events : List (Event P)) (event : Event P) :
    latestTimeline heading (events ++ [event]) =
      (event.timelineUnder? heading).or (latestTimeline heading events) := by
  unfold latestTimeline
  rw [List.filterMap_append]
  cases h : event.timelineUnder? heading with
  | none => simp [h]
  | some timeline => simp [h]

/-- There is no latest timeline under a heading if and only if no event is a block with it. -/
lemma latestTimeline_eq_none_iff {heading : String} {events : List (Event P)} :
    latestTimeline heading events = none ↔ ∀ event ∈ events, event.heads heading = false := by
  rw [latestTimeline, List.getLast?_eq_none_iff, List.filterMap_eq_nil_iff]
  exact forall₂_congr fun _ _ => Event.timelineUnder?_eq_none_iff

/-- The latest timeline under a heading is the timeline of an event with this heading. -/
lemma of_latestTimeline {heading : String} {events : List (Event P)} {timeline : Definition P}
    (h : latestTimeline heading events = some timeline) :
    ∃ parent name, Event.keyframes parent name timeline ∈ events ∧
      keyframesHeading name = heading := by
  obtain ⟨event, hevent, htimeline⟩ := List.mem_filterMap.mp (List.mem_of_getLast? h)
  cases event with
  | fixed selector property value => cases htimeline
  | computed selector property producer => cases htimeline
  | keyframes parent name timeline' =>
    obtain ⟨hname, hsame⟩ := Option.ite_none_right_eq_some.mp htimeline
    obtain rfl := Option.some.inj hsame
    exact ⟨parent, name, hevent, hname⟩

/-! ### The two sides of a block -/

/-- The block that a timeline has among the dynamic rules: all of it or nothing. -/
def Definition.dynamicBlock? (timeline : Definition P) : Option (Declarations P) :=
  if timeline.isDynamicTimeline then timeline.block? else none

/-- The block that a timeline has among the fixed keyframes: all of it or nothing. -/
def Definition.staticBlock? (timeline : Definition P) : Option (Declarations P) :=
  if timeline.isDynamicTimeline then none else timeline.block?

namespace Definition

variable {timeline : Definition P} {block : Declarations P}

/-- What a timeline has among the dynamic rules, if anything, is its block. -/
lemma of_dynamicBlock? (h : timeline.dynamicBlock? = some block) :
    timeline.ProducesValue ∧ timeline.HasBlock block := by
  unfold dynamicBlock? at h
  split at h
  · rename_i hdynamic
    have hproduces := isDynamicTimeline_iff.mp hdynamic
    rw [block?_of_declarations_ne_nil hproduces.declarations_ne_nil] at h
    exact ⟨hproduces, hasBlock_iff.mpr (Option.some.inj h).symm⟩
  · cases h

/-- A timeline with a produced value has its block among the dynamic rules. -/
lemma ProducesValue.dynamicBlock? (h : timeline.ProducesValue) :
    ∃ block, timeline.dynamicBlock? = some block := by
  rw [Definition.dynamicBlock?, if_pos (isDynamicTimeline_iff.mpr h),
    block?_of_declarations_ne_nil h.declarations_ne_nil]
  exact ⟨_, rfl⟩

/-- A timeline has a block among the dynamic rules if and only if it has a produced value. -/
lemma isSome_dynamicBlock?_iff : timeline.dynamicBlock?.isSome = true ↔ timeline.ProducesValue := by
  rw [Option.isSome_iff_exists]
  exact ⟨fun ⟨_, h⟩ => (of_dynamicBlock? h).1, fun h => h.dynamicBlock?⟩

/-- What a timeline has among the fixed keyframes, if anything, is its block. -/
lemma of_staticBlock? (h : timeline.staticBlock? = some block) : timeline.HasBlock block := by
  unfold staticBlock? block? at h
  split at h
  · cases h
  · obtain ⟨-, hblock⟩ := Option.ite_none_left_eq_some.mp h
    exact hasBlock_iff.mpr (Option.some.inj hblock).symm

end Definition

namespace Compilation

/-- A keyframes block replaces what the dynamic rules have under its heading. -/
lemma get?_dynamicRules_record_keyframes (c : Compilation P) (parent name : String)
    (timeline : Definition P) (s : String) :
    (c.record (.keyframes parent name timeline)).dynamicRules.get? s =
      if keyframesHeading name = s then timeline.dynamicBlock? else c.dynamicRules.get? s := by
  unfold Definition.dynamicBlock?
  cases h : timeline.isDynamicTimeline with
  | true =>
    rw [record_keyframes_of_dynamic c parent name h]
    exact RuleSet.get?_putFrames ..
  | false =>
    rw [record_keyframes_of_static c parent name h]
    exact RuleSet.get?_eraseSelector ..

/-- A keyframes block replaces what the fixed keyframes have under its heading. -/
lemma get?_staticKeyframes_record_keyframes (c : Compilation P) (parent name : String)
    (timeline : Definition P) (s : String) :
    (c.record (.keyframes parent name timeline)).staticKeyframes.get? s =
      if keyframesHeading name = s then timeline.staticBlock? else c.staticKeyframes.get? s := by
  unfold Definition.staticBlock?
  cases h : timeline.isDynamicTimeline with
  | true =>
    rw [record_keyframes_of_dynamic c parent name h]
    exact RuleSet.get?_eraseSelector ..
  | false =>
    rw [record_keyframes_of_static c parent name h]
    exact RuleSet.get?_putFrames ..

/-- Whatever the events are, the fixed keyframes have under a heading what the latest timeline has
there. -/
lemma get?_staticKeyframes_record {c : Compilation P} {heading : String}
    {latest : Option (Definition P)}
    (h : c.staticKeyframes.get? heading = latest.bind Definition.staticBlock?) (event : Event P) :
    (c.record event).staticKeyframes.get? heading =
      ((event.timelineUnder? heading).or latest).bind Definition.staticBlock? := by
  cases event with
  | fixed selector property value => exact h
  | computed selector property producer => exact h
  | keyframes parent name timeline =>
    rw [get?_staticKeyframes_record_keyframes, Event.timelineUnder?]
    split
    · rfl
    · exact h

/-- What a compilation has under a heading is the block of the latest timeline, on the side where
this timeline belongs. -/
structure Houses (c : Compilation P) (heading : String) (latest : Option (Definition P)) :
    Prop where
  /-- The dynamic rules have what the latest timeline has there. -/
  dynamicRules : c.dynamicRules.get? heading = latest.bind Definition.dynamicBlock?
  /-- The fixed keyframes have what the latest timeline has there. -/
  staticKeyframes : c.staticKeyframes.get? heading = latest.bind Definition.staticBlock?

/-- One more event leaves the latest block where it belongs, unless it is a plain declaration under
the heading. -/
lemma Houses.record {c : Compilation P} {heading : String} {latest : Option (Definition P)}
    (h : c.Houses heading latest) {event : Event P}
    (hplain : event.plainSelector? ≠ some heading) :
    (c.record event).Houses heading ((event.timelineUnder? heading).or latest) where
  dynamicRules := by
    cases event with
    | fixed selector property value =>
      have hne : selector ≠ heading := fun heq => hplain (congrArg some heq)
      exact (RuleSet.get?_erase_of_ne hne).trans h.dynamicRules
    | computed selector property producer =>
      have hne : selector ≠ heading := fun heq => hplain (congrArg some heq)
      have hget : (c.dynamicRules.insert selector property (.computed producer)).get? heading =
          c.dynamicRules.get? heading := by rw [RuleSet.get?_insert, if_neg hne]
      exact hget.trans h.dynamicRules
    | keyframes parent name timeline =>
      rw [get?_dynamicRules_record_keyframes, Event.timelineUnder?]
      split
      · rfl
      · exact h.dynamicRules
  staticKeyframes := get?_staticKeyframes_record h.staticKeyframes event

/-- After any list of events without plain declarations under a heading, the latest block is where
it belongs. -/
lemma houses_foldl_record {heading : String} {events : List (Event P)}
    (hplain : ∀ event ∈ events, event.plainSelector? ≠ some heading) :
    (events.foldl Compilation.record .empty).Houses heading (latestTimeline heading events) := by
  induction events using List.reverseRecOn with
  | nil => exact ⟨rfl, rfl⟩
  | append_singleton events event ih =>
    rw [List.foldl_concat, latestTimeline_concat]
    have hbefore := ih fun e he => hplain e (List.mem_append_left _ he)
    exact hbefore.record (hplain event (by simp))

end Compilation

/-- A heading under which nothing is declared in plain has the block of its latest timeline among
the dynamic rules if this timeline has a produced value, and otherwise nothing. -/
lemma get?_dynamicRules_heading {d : Definition P} {base heading : String} {timeline : Definition P}
    (hlatest : latestTimeline heading (d.walk base) = some timeline)
    (hplain : ∀ event ∈ d.walk base, event.plainSelector? ≠ some heading) :
    (d.compile base).dynamicRules.get? heading = timeline.dynamicBlock? := by
  have hhouses : (d.compile base).Houses heading (some timeline) := by
    rw [← hlatest]
    exact Compilation.houses_foldl_record hplain
  exact hhouses.dynamicRules

/-- Consider a heading under which nothing is declared in plain, and the timeline of the latest
keyframes block with this heading. If some frame of the timeline has a produced value, the dynamic
rules have all its frames and the fixed keyframes none; if the timeline declares fixed values only,
it is the other way round; and if it declares nothing, neither side has the heading. The frames are
those of this timeline alone. -/
theorem keyframesBlock_compile (d : Definition P) (base heading : String)
    (timeline : Definition P) (hlatest : latestTimeline heading (d.walk base) = some timeline)
    (hplain : ∀ event ∈ d.walk base, event.plainSelector? ≠ some heading) :
    (timeline.ProducesValue →
      ∃ block, (d.compile base).dynamicRules.get? heading = some block ∧
        timeline.HasBlock block ∧ (d.compile base).staticKeyframes.get? heading = none) ∧
    (¬timeline.ProducesValue → timeline.declarations ≠ [] →
      ∃ block, (d.compile base).staticKeyframes.get? heading = some block ∧
        timeline.HasBlock block ∧ (d.compile base).dynamicRules.get? heading = none) ∧
    (timeline.declarations = [] →
      (d.compile base).dynamicRules.get? heading = none ∧
        (d.compile base).staticKeyframes.get? heading = none) := by
  have hhouses : (d.compile base).Houses heading (some timeline) := by
    rw [← hlatest]
    exact Compilation.houses_foldl_record hplain
  have hdynamicRules : (d.compile base).dynamicRules.get? heading = timeline.dynamicBlock? :=
    hhouses.dynamicRules
  have hstaticKeyframes : (d.compile base).staticKeyframes.get? heading = timeline.staticBlock? :=
    hhouses.staticKeyframes
  rw [hdynamicRules, hstaticKeyframes, Definition.dynamicBlock?, Definition.staticBlock?]
  refine ⟨fun hproduces => ?_, fun hproduces hdeclares => ?_, fun hnothing => ?_⟩
  · have hdynamic : timeline.isDynamicTimeline = true := isDynamicTimeline_iff.mpr hproduces
    rw [if_pos hdynamic, if_pos hdynamic]
    exact ⟨_, Definition.block?_of_declarations_ne_nil hproduces.declarations_ne_nil,
      timeline.hasBlock_ofList, rfl⟩
  · have hdynamic : ¬timeline.isDynamicTimeline = true := fun h =>
      hproduces (isDynamicTimeline_iff.mp h)
    rw [if_neg hdynamic, if_neg hdynamic]
    exact ⟨_, Definition.block?_of_declarations_ne_nil hdeclares, timeline.hasBlock_ofList, rfl⟩
  · rw [Definition.block?_of_declarations_eq_nil hnothing, ite_self]
    exact ⟨rfl, rfl⟩

/-- A timeline that names one offset in two ways and has entries that declare nothing. -/
def spinTimeline : Definition Unit :=
  ⟨[("60", .nested ⟨[("lineHeight", .fixed (.text "1"))]⟩),
    ("delay", .fixed (.text "1s")),
    ("60%", .nested ⟨[("opacity", .computed ()), ("line-height", .fixed (.text "2")),
      ("inner", .nested ⟨[]⟩)]⟩),
    ("to", .nested ⟨[("opacity", .fixed (.text "0"))]⟩)]⟩

/-- A definition with two blocks of one heading, the earlier one in short spelling. -/
def respun : Definition Unit :=
  ⟨[("@spin", .nested ⟨[("from", .nested ⟨[("opacity", .fixed (.text "0"))]⟩)]⟩),
    ("@keyframes spin", .nested spinTimeline)]⟩

/-- The later block of `respun` is dynamic, has two frames and leaves nothing of the earlier one. -/
theorem keyframesBlock_compile_respun :
    latestTimeline "@keyframes spin" (respun.walk ".A") = some spinTimeline ∧
    (∀ event ∈ respun.walk ".A", event.plainSelector? ≠ some "@keyframes spin") ∧
    ∃ block, (respun.compile ".A").dynamicRules.get? "@keyframes spin" = some block ∧
      spinTimeline.HasBlock block ∧ block.keys = ["60%", "to"] ∧
      (respun.compile ".A").staticKeyframes.get? "@keyframes spin" = none := by
  have hlatest : latestTimeline "@keyframes spin" (respun.walk ".A") = some spinTimeline := rfl
  have hplain : ∀ event ∈ respun.walk ".A", event.plainSelector? ≠ some "@keyframes spin" := by
    intro event hevent
    have hwalk : respun.walk ".A" =
        [.keyframes ".A" "@spin" ⟨[("from", .nested ⟨[("opacity", .fixed (.text "0"))]⟩)]⟩,
          .keyframes ".A" "@keyframes spin" spinTimeline] := rfl
    rw [hwalk] at hevent
    rcases List.mem_pair.mp hevent with rfl | rfl
    · nofun
    · nofun
  have hproduces : spinTimeline.ProducesValue :=
    ⟨"60%", _, "opacity", (), List.mem_cons_of_mem _ (List.mem_cons_of_mem _ List.mem_cons_self),
      List.mem_cons_self⟩
  have hlaw := keyframesBlock_compile respun ".A" "@keyframes spin" spinTimeline hlatest hplain
  obtain ⟨block, hblock, hcollects, hnone⟩ := hlaw.1 hproduces
  have hoffsets : block.keys = ["60%", "to"] := hcollects.offsets.trans (by decide)
  exact ⟨hlatest, hplain, block, hblock, hcollects, hoffsets, hnone⟩

end Restyle
