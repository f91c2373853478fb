import Restyle.Proofs.Compilation.Contents
import Restyle.Proofs.Compilation.Overlap
import Restyle.Proofs.Record

/-!
# Dynamic rules without a produced value

Outside the headings of keyframes blocks, whatever is among the dynamic rules is produced: a pair
leaves them with the first fixed declaration that comes later. A keyframes block is different. One
produced declaration in its timeline makes it dynamic as a whole, and so it stays even if later
declarations of the same offset and property replace every produced value by a fixed one. Such a
block is rendered on every update, always to the same text.

`Definition.KeepsProduced` is the exact condition for the block of a timeline to hold a produced
value, and `dynamicBlocks_compile` says what follows for the ways to ask whether there is anything
dynamic.
-/

namespace Restyle

variable {P : Type}

/-! ### What the block of a timeline holds -/

/-- Where no property repeats, a declaration is dynamic if and only if the value of some property
is. -/
lemma anyDynamic_iff_get? {block : Declarations P} (hd : block.Distinct) :
    anyDynamic block.entries = true ↔
      ∃ property rule, block.get? property = some rule ∧ rule.isDynamic = true := by
  rw [anyDynamic_eq, List.any_eq_true]
  constructor
  · rintro ⟨e, he, hdynamic⟩
    exact ⟨e.1, e.2, hd.get?_of_mem he, hdynamic⟩
  · rintro ⟨property, rule, hget, hdynamic⟩
    exact ⟨(property, rule), OrderedMap.mem_entries_of_get? hget, hdynamic⟩

namespace Definition

variable {timeline : Definition P} {block : Declarations P}

/-- At an offset, the last value of some property is produced. -/
def KeepsProducedAt (timeline : Definition P) (offset : String) : Prop :=
  ∃ property producer, OrderedMap.lastValue property (entriesAt timeline.declarations offset) =
    some (.computed producer)

/-- At some offset, the last value of some property is produced. -/
def KeepsProduced (timeline : Definition P) : Prop :=
  ∃ offset, timeline.KeepsProducedAt offset

/-- A declaration of a timeline is dynamic if and only if its value is produced. -/
lemma isDynamic_of_mem_declarations {d : TimedDeclaration P} (h : d ∈ timeline.declarations) :
    d.value.isDynamic = true ↔ ∃ producer, d.value = .computed producer := by
  rw [← filterMap_timed?_walkTimeline] at h
  obtain ⟨event, -, hevent⟩ := List.mem_filterMap.mp h
  cases event with
  | fixed offset property value =>
    obtain rfl := Option.some.inj hevent
    simp [RuleValue.isDynamic]
  | computed offset property producer =>
    obtain rfl := Option.some.inj hevent
    simp [RuleValue.isDynamic]
  | keyframes selector name inner => cases hevent

/-- What is said about an offset was declared there. -/
lemma isDynamic_of_mem_entriesAt {offset : String} {e : String × RuleValue P}
    (h : e ∈ entriesAt timeline.declarations offset) :
    e.2.isDynamic = true ↔ ∃ producer, e.2 = .computed producer := by
  obtain ⟨d, hd, rfl⟩ := List.mem_map.mp h
  exact isDynamic_of_mem_declarations (List.mem_filter.mp hd).1

/-- A timeline that keeps a produced value has one. -/
lemma KeepsProduced.producesValue (h : timeline.KeepsProduced) : timeline.ProducesValue := by
  obtain ⟨offset, property, producer, hlast⟩ := h
  obtain ⟨d, hd, heq⟩ := List.mem_map.mp (OrderedMap.mem_of_lastValue hlast)
  have hvalue : d.value = .computed producer := (Prod.mk.inj heq).2
  have hdeclared := (List.mem_filter.mp hd).1
  rw [← filterMap_timed?_walkTimeline] at hdeclared
  obtain ⟨event, hevent, htimed⟩ := List.mem_filterMap.mp hdeclared
  refine isDynamicTimeline_iff.mp (List.any_eq_true.mpr ⟨event, hevent, ?_⟩)
  cases event with
  | fixed o p value =>
    obtain rfl := Option.some.inj htimed
    cases hvalue
  | computed o p producer' => rfl
  | keyframes selector name inner => cases htimed

/-- A frame holds a produced value if and only if the timeline keeps one at its offset. -/
lemma HasBlock.isDynamic_frame_iff (h : timeline.HasBlock block) (offset : String) :
    (∃ rule, block.get? offset = some rule ∧ rule.isDynamic = true) ↔
      timeline.KeepsProducedAt offset := by
  by_cases hoffset : offset ∈ block.keys
  · obtain ⟨frame, hframe, hproperties, hvalues⟩ := h.frames offset hoffset
    have hdistinct : frame.Distinct := OrderedMap.distinct_of_keys_eq hproperties
    have hentries : (RuleValue.frame frame).isDynamic = anyDynamic frame.entries := by
      rw [RuleValue.isDynamic]
    simp only [hframe, Option.some.injEq, exists_eq_left', hentries, anyDynamic_iff_get? hdistinct,
      hvalues]
    constructor
    · rintro ⟨property, rule, hlast, hdynamic⟩
      obtain ⟨producer, rfl⟩ :=
        (isDynamic_of_mem_entriesAt (OrderedMap.mem_of_lastValue hlast)).mp hdynamic
      exact ⟨property, producer, hlast⟩
    · rintro ⟨property, producer, hlast⟩
      exact ⟨property, _, hlast, by rw [RuleValue.isDynamic]⟩
  · have hnone : block.get? offset = none := OrderedMap.get?_eq_none_iff.mpr hoffset
    have hnothing : entriesAt timeline.declarations offset = [] := by
      rw [h.offsets, List.mem_eraseDups] at hoffset
      exact entriesAt_eq_nil_iff.mpr hoffset
    simp [hnone, KeepsProducedAt, hnothing, OrderedMap.lastValue]

/-- The block of a timeline holds a produced value if and only if the timeline keeps one. -/
lemma HasBlock.anyDynamic_iff (h : timeline.HasBlock block) :
    anyDynamic block.entries = true ↔ timeline.KeepsProduced := by
  rw [anyDynamic_iff_get? (OrderedMap.distinct_of_keys_eq h.offsets)]
  exact exists_congr fun offset => h.isDynamic_frame_iff offset

end Definition

/-! ### Pair by pair -/

/-- Whether an event that settles a pair leaves a produced value for it among the dynamic rules. -/
def Event.LeavesProduced (property : String) : Event P → Prop
  | .fixed _ _ _ => False
  | .computed _ _ _ => True
  | .keyframes _ _ timeline => timeline.KeepsProducedAt property

/-- An event leaves a produced value if and only if what it leaves is dynamic. -/
lemma Event.leavesProduced_iff (property : String) (event : Event P) :
    event.LeavesProduced property ↔
      ∃ rule, event.settledValue? property = some rule ∧ rule.isDynamic = true := by
  cases event with
  | fixed s p value => simp [LeavesProduced, settledValue?]
  | computed s p producer => simp [LeavesProduced, settledValue?, RuleValue.isDynamic]
  | keyframes parent name timeline =>
    rw [LeavesProduced, settledValue?]
    cases hblock : timeline.dynamicBlock? with
    | some block => exact ((Definition.of_dynamicBlock? hblock).2.isDynamic_frame_iff property).symm
    | none =>
      -- a timeline without a block there has no produced value, so it cannot keep one
      have hkeeps : ¬timeline.KeepsProducedAt property := by
        intro hkeeps
        have hproduces : timeline.ProducesValue :=
          Definition.KeepsProduced.producesValue ⟨property, hkeeps⟩
        obtain ⟨block, hsome⟩ := hproduces.dynamicBlock?
        rw [hblock] at hsome
        cases hsome
      simp [hkeeps]

section Compile

variable {d : Definition P} {base : String}

/-- A block of the dynamic rules holds a produced value if and only if the latest event to settle
one of its pairs leaves one. -/
lemma anyDynamic_block_iff {selector : String} {block : Declarations P}
    (h : (d.compile base).dynamicRules.get? selector = some block) :
    anyDynamic block.entries = true ↔ ∃ property event,
      latestSettling selector property (d.walk base) = some event ∧
        event.LeavesProduced property := by
  have hdistinct : block.Distinct := (wellFormed_compile d base).dynamicRules.block_distinct _
    (OrderedMap.mem_entries_of_get? h)
  have hget : ∀ property, block.get? property =
      (latestSettling selector property (d.walk base)).bind (Event.settledValue? property) := by
    intro property
    rw [← find?_dynamicRules_compile, RuleSet.find?_eq, h, Option.bind_some]
  simp only [anyDynamic_iff_get? hdistinct, hget, Option.bind_eq_some_iff,
    Event.leavesProduced_iff]
  constructor
  · rintro ⟨property, rule, ⟨event, hlatest, hvalue⟩, hdynamic⟩
    exact ⟨property, event, hlatest, rule, hvalue, hdynamic⟩
  · rintro ⟨property, event, hlatest, rule, hvalue, hdynamic⟩
    exact ⟨property, rule, ⟨event, hlatest, hvalue⟩, hdynamic⟩

/-- Under a selector that is no heading every dynamic rule is a produced declaration, the latest one
of its pair. -/
lemma computed_of_mem_block {selector : String} {block : Declarations P}
    (hheading : isKeyframesHeading selector = false)
    (h : (d.compile base).dynamicRules.get? selector = some block)
    {e : String × RuleValue P} (he : e ∈ block.entries) :
    ∃ producer, e.2 = .computed producer ∧
      latestDeclaration selector e.1 (d.walk base) = some (.computed selector e.1 producer) := by
  have hfound := (wellFormed_compile d base).dynamicRules.find?_of_mem
    (OrderedMap.mem_entries_of_get? h) he
  rw [find?_dynamicRules_compile] at hfound
  obtain ⟨event, hlatest, hvalue⟩ := Option.bind_eq_some_iff.mp hfound
  have hdeclares : event.declares selector e.1 = true := by
    have hsettles := (of_latestSettling hlatest).2
    rwa [Event.settles, Event.heads_eq_false hheading, Bool.or_false] at hsettles
  have hlast := latestDeclaration_of_latestSettling hlatest hdeclares
  cases event with
  | fixed s p value => cases hvalue
  | computed s p producer =>
    obtain ⟨rfl, rfl⟩ : s = selector ∧ p = e.1 := by simpa [Event.declares] using hdeclares
    exact ⟨producer, (Option.some.inj hvalue).symm, hlast⟩
  | keyframes parent name timeline => cases hdeclares

/-- No block of the dynamic rules is empty. -/
lemma exists_mem_block {selector : String} {block : Declarations P}
    (h : (d.compile base).dynamicRules.get? selector = some block) : ∃ e, e ∈ block.entries := by
  have hne := (wellFormed_compile d base).dynamicRules.block_nonempty _
    (OrderedMap.mem_entries_of_get? h)
  refine List.exists_mem_of_ne_nil _ fun hnil => hne ?_
  exact OrderedMap.isEmpty_iff.mp (List.isEmpty_iff.mpr hnil)

/-- Outside headings every block of the dynamic rules holds a produced value. -/
lemma anyDynamic_of_not_heading {selector : String} {block : Declarations P}
    (hheading : isKeyframesHeading selector = false)
    (h : (d.compile base).dynamicRules.get? selector = some block) :
    anyDynamic block.entries = true := by
  obtain ⟨e, he⟩ := exists_mem_block h
  obtain ⟨producer, hvalue, -⟩ := computed_of_mem_block hheading h he
  rw [anyDynamic_eq, List.any_eq_true]
  exact ⟨e, he, by rw [hvalue, RuleValue.isDynamic]⟩

/-- There is something dynamic if and only if there is a block of dynamic rules. -/
lemma hasDynamic_compile_iff : (d.compile base).hasDynamic = true ↔
    ∃ e, e ∈ (d.compile base).dynamicRules.blocks.entries := by
  unfold Compilation.hasDynamic RuleSet.isEmpty OrderedMap.isEmpty
  rw [Bool.not_eq_true', ← Bool.not_eq_true, List.isEmpty_iff]
  exact ⟨List.exists_mem_of_ne_nil _, fun ⟨_, he⟩ => List.ne_nil_of_mem he⟩

/-- A definition that spares headings declares nothing in plain under a heading. -/
lemma Definition.SparesHeadings.plain_ne (h : d.SparesHeadings base) {heading : String}
    (hheading : isKeyframesHeading heading = true) :
    ∀ event ∈ d.walk base, event.plainSelector? ≠ some heading := by
  intro event hevent hplain
  rw [h event hevent heading hplain] at hheading
  cases hheading

/-- For a definition that spares headings, every block of dynamic rules holds a produced value if
and only if every latest timeline with a produced value keeps one. -/
lemma forall_anyDynamic_iff (h : d.SparesHeadings base) :
    (∀ e ∈ (d.compile base).dynamicRules.blocks.entries, anyDynamic e.2.entries = true) ↔
      ∀ heading timeline, latestTimeline heading (d.walk base) = some timeline →
        timeline.ProducesValue → timeline.KeepsProduced := by
  constructor
  · intro hall heading timeline hlatest hproduces
    have hheading : isKeyframesHeading heading = true := by
      obtain ⟨parent, name, -, rfl⟩ := of_latestTimeline hlatest
      exact isKeyframesHeading_keyframesHeading name
    obtain ⟨block, hblock⟩ := hproduces.dynamicBlock?
    have hget : (d.compile base).dynamicRules.get? heading = some block := by
      rw [get?_dynamicRules_heading hlatest (h.plain_ne hheading), hblock]
    exact (Definition.of_dynamicBlock? hblock).2.anyDynamic_iff.mp
      (hall _ (OrderedMap.mem_entries_of_get? hget))
  · intro hkeeps e he
    have hget : (d.compile base).dynamicRules.get? e.1 = some e.2 :=
      (wellFormed_compile d base).dynamicRules.distinct.get?_of_mem he
    cases hheading : isKeyframesHeading e.1 with
    | false => exact anyDynamic_of_not_heading hheading hget
    | true =>
      have hhouses : (d.compile base).Houses e.1 (latestTimeline e.1 (d.walk base)) :=
        Compilation.houses_foldl_record (h.plain_ne hheading)
      rw [hhouses.dynamicRules] at hget
      obtain ⟨timeline, hlatest, hblock⟩ := Option.bind_eq_some_iff.mp hget
      obtain ⟨hproduces, hhas⟩ := Definition.of_dynamicBlock? hblock
      exact hhas.anyDynamic_iff.mpr (hkeeps e.1 timeline hlatest hproduces)

end Compile

/-- How the dynamic rules of a compilation relate to produced values. A block holds one if and only
if the latest event to settle some pair of it leaves one; outside headings there are only produced
declarations, and there is at least one. Under a heading with nothing declared in plain there is a
block if and only if the latest timeline has a produced value, and it holds one if and only if the
timeline keeps one; without any produced value the frames are among the fixed keyframes. A selector
that is no heading and whose latest declarations are all fixed has no dynamic rules, and its
declarations are among the fixed rules. A record renders on update if and only if there are dynamic
rules, which there are if one of them holds a produced value. The converse, for a definition that
spares headings, is the case exactly if every latest timeline with a produced value keeps one. -/
theorem dynamicBlocks_compile (d : Definition P) (base : String) :
    (∀ selector block, (d.compile base).dynamicRules.get? selector = some block →
      (anyDynamic block.entries = true ↔ ∃ property event,
        latestSettling selector property (d.walk base) = some event ∧
          event.LeavesProduced property) ∧
      (isKeyframesHeading selector = false →
        (∃ e, e ∈ block.entries) ∧ ∀ e ∈ block.entries, ∃ producer, e.2 = .computed producer)) ∧
    (∀ heading timeline, latestTimeline heading (d.walk base) = some timeline →
      (∀ event ∈ d.walk base, event.plainSelector? ≠ some heading) →
      ((d.compile base).dynamicRules.get? heading ≠ none ↔ timeline.ProducesValue) ∧
      (∀ block, (d.compile base).dynamicRules.get? heading = some block →
        (anyDynamic block.entries = true ↔ timeline.KeepsProduced)) ∧
      (¬timeline.ProducesValue →
        (d.compile base).staticKeyframes.get? heading = timeline.block?)) ∧
    (∀ selector, isKeyframesHeading selector = false →
      (∀ property producer, latestDeclaration selector property (d.walk base) ≠
        some (.computed selector property producer)) →
      (d.compile base).dynamicRules.get? selector = none ∧
      ∀ property value, latestDeclaration selector property (d.walk base) =
          some (.fixed selector property value) →
        (d.compile base).staticRules.find? selector property = some (.fixed value)) ∧
    (∀ provider targets, (Record.compile base provider d targets).1.stage = .staticAndDynamic ↔
      (d.compile base).hasDynamic = true) ∧
    ((d.compile base).dynamicRules.hasDynamic = true → (d.compile base).hasDynamic = true) ∧
    (d.SparesHeadings base →
      ((∀ e ∈ (d.compile base).dynamicRules.blocks.entries, anyDynamic e.2.entries = true) ↔
        ∀ heading timeline, latestTimeline heading (d.walk base) = some timeline →
          timeline.ProducesValue → timeline.KeepsProduced) ∧
      ((∀ heading timeline, latestTimeline heading (d.walk base) = some timeline →
          timeline.ProducesValue → timeline.KeepsProduced) →
        (d.compile base).dynamicRules.hasDynamic = (d.compile base).hasDynamic)) := by
  have hsome : (d.compile base).dynamicRules.hasDynamic = true →
      (d.compile base).hasDynamic = true := by
    intro h
    obtain ⟨e, he, -⟩ := List.any_eq_true.mp h
    exact hasDynamic_compile_iff.mpr ⟨e, he⟩
  refine ⟨fun selector block hblock => ⟨anyDynamic_block_iff hblock, fun hheading => ?_⟩,
    fun heading timeline hlatest hplain => ?_, fun selector hheading hfixed => ⟨?_, ?_⟩,
    fun provider targets => ?_, hsome, fun hspares => ⟨forall_anyDynamic_iff hspares, ?_⟩⟩
  · refine ⟨exists_mem_block hblock, fun e he => ?_⟩
    obtain ⟨producer, hvalue, -⟩ := computed_of_mem_block hheading hblock he
    exact ⟨producer, hvalue⟩
  · rw [get?_dynamicRules_heading hlatest hplain]
    refine ⟨⟨fun hne => ?_, fun hproduces => ?_⟩, fun block hblock => ?_, fun hfixed => ?_⟩
    · obtain ⟨block, hblock⟩ := Option.ne_none_iff_exists'.mp hne
      exact (Definition.of_dynamicBlock? hblock).1
    · obtain ⟨block, hblock⟩ := hproduces.dynamicBlock?
      exact hblock ▸ Option.some_ne_none block
    · exact (Definition.of_dynamicBlock? hblock).2.anyDynamic_iff
    · rw [get?_staticKeyframes_compile, hlatest, Option.bind_some, Definition.staticBlock?,
        if_neg (mt isDynamicTimeline_iff.mp hfixed)]
  · by_contra hne
    obtain ⟨block, hblock⟩ := Option.ne_none_iff_exists'.mp hne
    obtain ⟨e, he⟩ := exists_mem_block hblock
    obtain ⟨producer, -, hlatest⟩ := computed_of_mem_block hheading hblock he
    exact hfixed e.1 producer hlatest
  · intro property value hlatest
    rw [find?_staticRules_compile, hlatest]
    rfl
  · unfold Record.stage
    rw [Record.compiled_compile]
    split <;> simp_all
  · intro hkeeps
    cases hdynamic : (d.compile base).hasDynamic with
    | false => exact Bool.eq_false_iff.mpr fun h => absurd (hsome h) (by simp [hdynamic])
    | true =>
      obtain ⟨e, he⟩ := hasDynamic_compile_iff.mp hdynamic
      exact List.any_eq_true.mpr ⟨e, he, (forall_anyDynamic_iff hspares).mpr hkeeps e he⟩

/-- A timeline that keeps its produced value. -/
def fading : Definition Unit := ⟨[("from", .nested ⟨[("opacity", .computed ())]⟩)]⟩

/-- Where the only timeline keeps its produced value, every block of dynamic rules holds one. -/
theorem dynamicBlocks_compile_fading :
    let d : Definition Unit := ⟨[("color", .computed ()), ("@fade", .nested fading)]⟩
    d.SparesHeadings ".A" ∧ fading.KeepsProduced ∧
    (∀ e ∈ (d.compile ".A").dynamicRules.blocks.entries, anyDynamic e.2.entries = true) ∧
    (d.compile ".A").dynamicRules.hasDynamic = (d.compile ".A").hasDynamic := by
  intro d
  have hwalk : d.walk ".A" = [.computed ".A" "color" (), .keyframes ".A" "@fade" fading] := rfl
  have hspares : d.SparesHeadings ".A" := by
    intro event hevent selector hselector
    rw [hwalk] at hevent
    rcases List.mem_pair.mp hevent with rfl | rfl
    · obtain rfl := Option.some.inj hselector
      decide
    · cases hselector
  have hkeeps : fading.KeepsProduced := ⟨"from", "opacity", (), rfl⟩
  have hlatest : ∀ heading timeline, latestTimeline heading (d.walk ".A") = some timeline →
      timeline.ProducesValue → timeline.KeepsProduced := by
    intro heading timeline hlatest _
    obtain ⟨event, hevent, htimeline⟩ := List.mem_filterMap.mp (List.mem_of_getLast? hlatest)
    rw [hwalk] at hevent
    rcases List.mem_pair.mp hevent with rfl | rfl
    · cases htimeline
    · obtain ⟨-, hsame⟩ := Option.ite_none_right_eq_some.mp htimeline
      exact Option.some.inj hsame ▸ hkeeps
  obtain ⟨hiff, hagree⟩ := (dynamicBlocks_compile d ".A").2.2.2.2.2 hspares
  exact ⟨hspares, hkeeps, hiff.mpr hlatest, hagree hlatest⟩

/-- A keyframes block in which a fixed declaration replaces the only produced value, in another
spelling of the property. -/
def overwritten : Definition Unit :=
  ⟨[("@x", .nested ⟨[("from", .nested
    ⟨[("lineHeight", .computed ()), ("line-height", .fixed (.text "2"))]⟩)]⟩)]⟩

/-- The block of `overwritten` is among the dynamic rules and holds no produced value, so the ways
to ask for something dynamic disagree. -/
theorem not_produced_overwritten :
    (overwritten.compile ".A").dynamicRules =
      ⟨⟨[("@keyframes x", ⟨[("from", .frame ⟨[("line-height", .fixed (.text "2"))]⟩)]⟩)]⟩⟩ ∧
    (overwritten.compile ".A").staticKeyframes.isEmpty = true ∧
    ¬(∀ e ∈ (overwritten.compile ".A").dynamicRules.blocks.entries,
      anyDynamic e.2.entries = true) ∧
    (overwritten.compile ".A").hasDynamic = true ∧
    (∀ provider targets,
      (Record.compile ".A" provider overwritten targets).1.stage = .staticAndDynamic) ∧
    (overwritten.compile ".A").dynamicRules.hasDynamic = false := by
  have hcompile : overwritten.compile ".A" = ⟨⟨⟨[]⟩⟩, ⟨⟨[]⟩⟩,
      ⟨⟨[("@keyframes x", ⟨[("from", .frame ⟨[("line-height", .fixed (.text "2"))]⟩)]⟩)]⟩⟩⟩ := rfl
  rw [hcompile]
  refine ⟨rfl, rfl, fun h => ?_, rfl, fun _ _ => rfl, ?_⟩
  · have hblock := h _ List.mem_cons_self
    simp [anyDynamic, RuleValue.isDynamic] at hblock
  · simp [RuleSet.hasDynamic, anyDynamic, RuleValue.isDynamic]

end Restyle
