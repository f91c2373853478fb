import Restyle.Proofs.Compilation.Overlap
import Restyle.Proofs.Roles
import Restyle.Proofs.Walk.Sites

/-!
# Where the mark of qualifying keys ends up

A key that starts with the mark qualifies a selector and names nothing. A walk keeps to this: a
nested definition under such a key is walked under the qualified selector, a value under such a key
is left out, and so no property that a walk reports starts with the mark. Dash case neither makes
nor hides the mark.

A timeline is walked by other rules, which do not know the mark. There a marked key is an offset or
a property like any other, and the mark gets into the frames of the block. `marks_compile` says
exactly when this happens; nowhere else is there a marked name.
-/

namespace Restyle

variable {P : Type}

/-! ### Marked names -/

/-- Dash case changes capitals only, and puts a dash before each. -/
lemma prefix_dashCase_iff {mark : List Char} (h : ∀ c ∈ mark, dashChar c = [c] ∧ c ≠ '-')
    (cs : List Char) : mark <+: cs.flatMap dashChar ↔ mark <+: cs := by
  induction mark generalizing cs with
  | nil => simp
  | cons m mark ih =>
    obtain ⟨⟨hm, hdash⟩, hmark⟩ := List.forall_mem_cons.mp h
    cases cs with
    | nil => simp
    | cons c cs =>
      rw [List.flatMap_cons]
      cases hc : c.isUpper with
      | false =>
        have hsame : dashChar c = [c] := by simp [dashChar, hc]
        rw [hsame, List.singleton_append, List.cons_prefix_cons, List.cons_prefix_cons, ih hmark]
      | true =>
        -- what a capital turns into starts with a dash, and the mark has neither
        have hcapital : dashChar c = ['-', c.toLower] := by simp [dashChar, hc]
        have hne : m ≠ c := by
          rintro rfl
          rw [hm] at hcapital
          cases hcapital
        rw [hcapital, List.cons_append, List.cons_prefix_cons, List.cons_prefix_cons]
        simp [hdash, hne]

@[simp] lemma hasMark_dashCase {key : String} : HasMark (dashCase key) ↔ HasMark key := by
  have hlist : whenMark.toList = ['%', 'w', 'h', 'e', 'n', ':'] := rfl
  have hmark : ∀ c ∈ whenMark.toList, dashChar c = [c] ∧ c ≠ '-' := by
    intro c hc
    simp only [hlist, List.mem_cons, List.not_mem_nil, or_false] at hc
    rcases hc with rfl | rfl | rfl | rfl | rfl | rfl <;> exact ⟨rfl, by decide⟩
  unfold HasMark
  rw [toList_dashCase]
  exact prefix_dashCase_iff hmark _

/-- The percent sign that whole numbers gain does not end the mark. -/
@[simp] lemma hasMark_frameOffset {key : String} : HasMark (frameOffset key) ↔ HasMark key := by
  unfold frameOffset
  split
  · unfold HasMark
    have hpercent : (key ++ "%").toList = key.toList ++ ['%'] := String.toList_append
    rw [hpercent, List.prefix_concat_iff]
    refine or_iff_right fun heq => ?_
    have hlast := congrArg List.getLast? heq
    rw [List.getLast?_concat] at hlast
    cases hlast
  · rfl

/-! ### Walks -/

/-- The property of a declaration. -/
def Event.property? : Event P → Option String
  | .fixed _ property _ => some property
  | .computed _ property _ => some property
  | .keyframes _ _ _ => none

namespace Definition

variable {d : Definition P}

/-- No site has a marked key of its own. -/
lemma not_hasMark_of_mem_sites {site : Site P} (h : site ∈ d.sites) : ¬HasMark site.key := by
  have hreported := (mem_sites_iff.mp h).2.2
  rw [← whenSuffix?_eq_none_iff]
  cases hentry : site.entry with
  | fixed value => simpa [hentry, Entry.IsReported] using hreported
  | computed producer => simpa [hentry, Entry.IsReported] using hreported
  | nested timeline =>
    have hrole : Role.ofKey site.key = .keyframes := by
      simpa [hentry, Entry.IsReported] using hreported
    unfold Role.ofKey at hrole
    split at hrole
    · cases hrole
    · assumption

/-- No property that a walk reports has the mark. -/
lemma not_hasMark_of_mem_walk {base property : String} {event : Event P}
    (hevent : event ∈ d.walk base) (hproperty : event.property? = some property) :
    ¬HasMark property := by
  rw [walk_eq_map_sites] at hevent
  obtain ⟨site, hsite, rfl⟩ := List.mem_map.mp hevent
  have hkey := not_hasMark_of_mem_sites hsite
  unfold Site.event at hproperty
  split at hproperty
  · obtain rfl := Option.some.inj hproperty
    simpa using hkey
  · obtain rfl := Option.some.inj hproperty
    simpa using hkey
  · cases hproperty

/-- A nested definition under a marked key is walked under the selector that the suffix of the key
qualifies. -/
lemma Holds.qualified_infix {path : List String} {key : String} {inner : Definition P}
    (h : d.Holds path key (.nested inner)) (hpath : ∀ k ∈ path, Role.ofKey k ≠ .keyframes)
    (hkey : HasMark key) (base : String) : ∃ suffix, key = whenKey suffix ∧
      inner.walk (qualify (selectorAlong base path) suffix) <:+: d.walk base := by
  obtain ⟨rest, hrest⟩ := hkey
  obtain rfl : key = whenKey (String.ofList rest) := by
    rw [whenKey, ← String.toList_inj, String.toList_append, String.toList_ofList, hrest]
  have hrole : Role.ofKey (whenKey (String.ofList rest)) = .qualifier (String.ofList rest) :=
    Role.ofKey_whenKey _
  refine ⟨_, rfl, ?_⟩
  have hinfix := h.walk_infix hpath (by simp [hrole]) base
  rwa [enter, hrole] at hinfix

end Definition

/-! ### Timelines -/

namespace Definition

variable {timeline : Definition P} {block : Declarations P}

/-- A value stands under `property` in the frame under `key`. -/
def Declares (timeline : Definition P) (key property : String) : Prop :=
  ∃ frame entry, (key, Entry.nested frame) ∈ timeline.entries ∧ (property, entry) ∈ frame.entries ∧
    ∀ inner, entry ≠ .nested inner

/-- The frame under some marked key has a value. -/
def MarksOffset (timeline : Definition P) : Prop :=
  ∃ key property, timeline.Declares key property ∧ HasMark key

/-- A frame has a value under some marked key. -/
def MarksProperty (timeline : Definition P) : Prop :=
  ∃ key property, timeline.Declares key property ∧ HasMark property

/-- The declarations of a timeline are its values in frames, with their keys converted. -/
lemma exists_declaration_iff {K : String → String → Prop} :
    (∃ declaration ∈ timeline.declarations, K declaration.offset declaration.property) ↔
      ∃ key property, timeline.Declares key property ∧ K (frameOffset key) (dashCase property) := by
  constructor
  · rintro ⟨declaration, hmem, hK⟩
    obtain ⟨⟨key, entry⟩, he, hin⟩ := List.mem_flatMap.mp hmem
    cases entry with
    | fixed value => cases hin
    | computed producer => cases hin
    | nested frame =>
      obtain ⟨⟨property, value⟩, hd, heq⟩ := List.mem_filterMap.mp hin
      obtain ⟨rule, hleaf, rfl⟩ := Option.map_eq_some_iff.mp heq
      refine ⟨key, property, ⟨frame, value, he, hd, ?_⟩, hK⟩
      rintro inner rfl
      cases hleaf
  · rintro ⟨key, property, ⟨frame, value, he, hd, hleaf⟩, hK⟩
    obtain ⟨rule, hrule⟩ : ∃ rule, value.leaf? = some rule := by
      cases value with
      | fixed value => exact ⟨_, rfl⟩
      | computed producer => exact ⟨_, rfl⟩
      | nested inner => exact absurd rfl (hleaf inner)
    refine ⟨⟨frameOffset key, dashCase property, rule⟩, ?_, hK⟩
    refine List.mem_flatMap.mpr ⟨_, he, List.mem_filterMap.mpr ⟨_, hd, ?_⟩⟩
    rw [hrule, Option.map_some]

lemma exists_marked_offset_iff :
    (∃ declaration ∈ timeline.declarations, HasMark declaration.offset) ↔ timeline.MarksOffset := by
  have hiff := @exists_declaration_iff P timeline fun offset _ => HasMark offset
  unfold MarksOffset
  simpa only [hasMark_frameOffset] using hiff

lemma exists_marked_property_iff :
    (∃ declaration ∈ timeline.declarations, HasMark declaration.property) ↔
      timeline.MarksProperty := by
  have hiff := @exists_declaration_iff P timeline fun _ property => HasMark property
  unfold MarksProperty
  simpa only [hasMark_dashCase] using hiff

/-- The walk of a timeline meets its declarations and nothing else. -/
lemma exists_timed_of_mem_walkTimeline {event : Event P} (h : event ∈ timeline.walkTimeline) :
    ∃ declaration ∈ timeline.declarations, event.timed? = some declaration := by
  obtain ⟨declaration, htimed⟩ : ∃ declaration, event.timed? = some declaration := by
    obtain ⟨⟨key, entry⟩, -, hin⟩ := List.mem_flatMap.mp h
    cases entry with
    | fixed value => cases hin
    | computed producer => cases hin
    | nested frame =>
      obtain ⟨⟨property, value⟩, -, heq⟩ := List.mem_filterMap.mp hin
      cases value with
      | fixed value =>
        obtain rfl := Option.some.inj heq
        exact ⟨_, rfl⟩
      | computed producer =>
        obtain rfl := Option.some.inj heq
        exact ⟨_, rfl⟩
      | nested inner => cases heq
  refine ⟨declaration, ?_, htimed⟩
  rw [← filterMap_timed?_walkTimeline]
  exact List.mem_filterMap.mpr ⟨event, h, htimed⟩

end Definition

/-- What an event of a timeline declares, it declares at its selector and for its property. -/
lemma Event.of_timed? {event : Event P} {declaration : TimedDeclaration P}
    (h : event.timed? = some declaration) :
    event.selector = declaration.offset ∧ event.property? = some declaration.property := by
  cases event with
  | fixed offset property value =>
    obtain rfl := Option.some.inj h
    exact ⟨rfl, rfl⟩
  | computed offset property producer =>
    obtain rfl := Option.some.inj h
    exact ⟨rfl, rfl⟩
  | keyframes selector name inner => cases h

namespace Definition

variable {timeline : Definition P} {block : Declarations P}

/-- The walk of a timeline reports a marked offset if and only if a frame with a value has a marked
key. -/
lemma walkTimeline_marks_offset_iff :
    (∃ event ∈ timeline.walkTimeline, HasMark event.selector) ↔ timeline.MarksOffset := by
  rw [← exists_marked_offset_iff]
  constructor
  · rintro ⟨event, hevent, hmark⟩
    obtain ⟨declaration, hmem, htimed⟩ := exists_timed_of_mem_walkTimeline hevent
    exact ⟨declaration, hmem, (Event.of_timed? htimed).1 ▸ hmark⟩
  · rintro ⟨declaration, hmem, hmark⟩
    rw [← filterMap_timed?_walkTimeline] at hmem
    obtain ⟨event, hevent, htimed⟩ := List.mem_filterMap.mp hmem
    exact ⟨event, hevent, (Event.of_timed? htimed).1 ▸ hmark⟩

/-- The walk of a timeline reports a marked property if and only if some value in a frame has a
marked key. -/
lemma walkTimeline_marks_property_iff :
    (∃ event ∈ timeline.walkTimeline, ∃ property, event.property? = some property ∧
      HasMark property) ↔ timeline.MarksProperty := by
  rw [← exists_marked_property_iff]
  constructor
  · rintro ⟨event, hevent, property, hproperty, hmark⟩
    obtain ⟨declaration, hmem, htimed⟩ := exists_timed_of_mem_walkTimeline hevent
    rw [(Event.of_timed? htimed).2] at hproperty
    exact ⟨declaration, hmem, Option.some.inj hproperty ▸ hmark⟩
  · rintro ⟨declaration, hmem, hmark⟩
    rw [← filterMap_timed?_walkTimeline] at hmem
    obtain ⟨event, hevent, htimed⟩ := List.mem_filterMap.mp hmem
    exact ⟨event, hevent, _, (Event.of_timed? htimed).2, hmark⟩

/-- The block of a timeline has a marked offset if and only if the walk of the timeline has. -/
lemma HasBlock.marks_offset_iff (h : timeline.HasBlock block) :
    (∃ offset ∈ block.keys, HasMark offset) ↔ timeline.MarksOffset := by
  rw [h.offsets, ← exists_marked_offset_iff]
  simp only [List.mem_eraseDups, List.mem_map, exists_exists_and_eq_and]

/-- A frame in the block of a timeline has the properties that are declared at its offset. -/
lemma HasBlock.mem_keys_frame_iff (h : timeline.HasBlock block) {offset property : String} :
    (∃ frame, block.get? offset = some (.frame frame) ∧ property ∈ frame.keys) ↔
      ∃ declaration ∈ timeline.declarations,
        declaration.offset = offset ∧ declaration.property = property := by
  have hentries : property ∈ (entriesAt timeline.declarations offset).map Prod.fst ↔
      ∃ declaration ∈ timeline.declarations,
        declaration.offset = offset ∧ declaration.property = property := by
    simp [entriesAt, and_assoc]
  rw [← hentries]
  constructor
  · rintro ⟨frame, hget, hproperty⟩
    have hoffset : offset ∈ block.keys := by
      by_contra hnot
      rw [OrderedMap.get?_eq_none_iff.mpr hnot] at hget
      cases hget
    obtain ⟨frame', hget', hkeys, -⟩ := h.frames offset hoffset
    obtain rfl : frame = frame' := RuleValue.frame.inj (Option.some.inj (hget.symm.trans hget'))
    rwa [hkeys, List.mem_eraseDups] at hproperty
  · intro hproperty
    have hoffset : offset ∈ block.keys := by
      rw [h.offsets, List.mem_eraseDups]
      by_contra hnot
      rw [entriesAt_eq_nil_iff.mpr hnot] at hproperty
      cases hproperty
    obtain ⟨frame, hget, hkeys, -⟩ := h.frames offset hoffset
    exact ⟨frame, hget, by rwa [hkeys, List.mem_eraseDups]⟩

/-- A frame in the block of a timeline has a marked property if and only if the walk of the timeline
has. -/
lemma HasBlock.marks_property_iff (h : timeline.HasBlock block) :
    (∃ offset frame property, block.get? offset = some (.frame frame) ∧ property ∈ frame.keys ∧
      HasMark property) ↔ timeline.MarksProperty := by
  rw [← exists_marked_property_iff]
  constructor
  · rintro ⟨offset, frame, property, hget, hproperty, hmark⟩
    obtain ⟨declaration, hmem, -, rfl⟩ := h.mem_keys_frame_iff.mp ⟨frame, hget, hproperty⟩
    exact ⟨declaration, hmem, hmark⟩
  · rintro ⟨declaration, hmem, hmark⟩
    obtain ⟨frame, hget, hproperty⟩ := h.mem_keys_frame_iff.mpr ⟨declaration, hmem, rfl, rfl⟩
    exact ⟨_, frame, _, hget, hproperty, hmark⟩

/-- An entry in the block of a timeline is a frame, and its marked names are those of the timeline.
-/
lemma HasBlock.of_get? (h : timeline.HasBlock block) {offset : String} {rule : RuleValue P}
    (hget : block.get? offset = some rule) : ∃ frame, rule = .frame frame ∧
      (HasMark offset → timeline.MarksOffset) ∧
      ((∃ property ∈ frame.keys, HasMark property) → timeline.MarksProperty) := by
  have hoffset : offset ∈ block.keys := by
    by_contra hnot
    rw [OrderedMap.get?_eq_none_iff.mpr hnot] at hget
    cases hget
  obtain ⟨frame, hframe, -⟩ := h.frames offset hoffset
  obtain rfl : rule = .frame frame := Option.some.inj (hget.symm.trans hframe)
  refine ⟨frame, rfl, fun hmark => h.marks_offset_iff.mp ⟨offset, hoffset, hmark⟩, ?_⟩
  rintro ⟨property, hproperty, hmark⟩
  exact h.marks_property_iff.mp ⟨offset, frame, property, hget, hproperty, hmark⟩

end Definition

/-! ### Compilations -/

/-- The marked names in a rule set come from timelines among the events. -/
structure RuleSet.MarkedByTimelines (rules : RuleSet P) (events : List (Event P)) : Prop where
  /-- A marked name under a selector is the offset of a frame. -/
  plain : ∀ selector property rule, rules.find? selector property = some rule →
    HasMark property → ∃ frame, rule = .frame frame
  /-- A frame is from a timeline under its heading, which has the same kinds of marked names. -/
  frame : ∀ selector offset frame, rules.find? selector offset = some (.frame frame) →
    ∃ parent name timeline, Event.keyframes parent name timeline ∈ events ∧
      keyframesHeading name = selector ∧ (HasMark offset → timeline.MarksOffset) ∧
      ((∃ property ∈ frame.keys, HasMark property) → timeline.MarksProperty)

/-- A declaration of a pair has the property of the pair. -/
lemma Event.property?_of_declares {event : Event P} {selector property : String}
    (h : event.declares selector property = true) : event.property? = some property := by
  cases event with
  | fixed s p value =>
    obtain ⟨-, rfl⟩ : s = selector ∧ p = property := by simpa [declares] using h
    rfl
  | computed s p producer =>
    obtain ⟨-, rfl⟩ : s = selector ∧ p = property := by simpa [declares] using h
    rfl
  | keyframes parent name timeline => cases h

section Compile

variable (d : Definition P) (base : String)

/-- The fixed rules have no marked property. -/
lemma not_hasMark_of_staticRules {selector property : String}
    (h : (d.compile base).staticRules.find? selector property ≠ none) : ¬HasMark property := by
  obtain ⟨value, hlatest⟩ := find?_staticRules_ne_none_iff.mp h
  obtain ⟨hevent, hdeclares⟩ := of_latestDeclaration hlatest
  exact Definition.not_hasMark_of_mem_walk hevent (Event.property?_of_declares hdeclares)

/-- The marked names among the fixed keyframes come from timelines. -/
lemma markedByTimelines_staticKeyframes :
    (d.compile base).staticKeyframes.MarkedByTimelines (d.walk base) := by
  have hfind : ∀ selector offset rule,
      (d.compile base).staticKeyframes.find? selector offset = some rule →
      ∃ timeline block, latestTimeline selector (d.walk base) = some timeline ∧
        timeline.HasBlock block ∧ block.get? offset = some rule := by
    intro selector offset rule h
    rw [RuleSet.find?_eq, get?_staticKeyframes_compile] at h
    obtain ⟨block, hblock, hget⟩ := Option.bind_eq_some_iff.mp h
    obtain ⟨timeline, hlatest, hside⟩ := Option.bind_eq_some_iff.mp hblock
    exact ⟨timeline, block, hlatest, Definition.of_staticBlock? hside, hget⟩
  refine ⟨fun selector property rule h _ => ?_, fun selector offset frame h => ?_⟩
  · obtain ⟨timeline, block, -, hhas, hget⟩ := hfind _ _ _ h
    obtain ⟨frame, hframe, -⟩ := hhas.of_get? hget
    exact ⟨frame, hframe⟩
  · obtain ⟨timeline, block, hlatest, hhas, hget⟩ := hfind _ _ _ h
    obtain ⟨frame', hframe, hmarks⟩ := hhas.of_get? hget
    obtain rfl := RuleValue.frame.inj hframe
    obtain ⟨parent, name, hevent, hname⟩ := of_latestTimeline hlatest
    exact ⟨parent, name, timeline, hevent, hname, hmarks⟩

/-- The marked names among the dynamic rules come from timelines. -/
lemma markedByTimelines_dynamicRules :
    (d.compile base).dynamicRules.MarkedByTimelines (d.walk base) := by
  -- a pair is settled by a declaration, which has no marked property, or by a whole block
  have hfind : ∀ selector property rule,
      (d.compile base).dynamicRules.find? selector property = some rule →
      (¬HasMark property ∧ ∃ producer, rule = .computed producer) ∨
      ∃ parent name timeline block, Event.keyframes parent name timeline ∈ d.walk base ∧
        keyframesHeading name = selector ∧ timeline.HasBlock block ∧
        block.get? property = some rule := by
    intro selector property rule h
    rw [find?_dynamicRules_compile] at h
    obtain ⟨event, hlatest, hvalue⟩ := Option.bind_eq_some_iff.mp h
    obtain ⟨hevent, hsettles⟩ := of_latestSettling hlatest
    cases event with
    | fixed s p value => cases hvalue
    | computed s p producer =>
      have hdeclares : (Event.computed s p producer).declares selector property = true := by
        simpa [Event.settles, Event.heads] using hsettles
      exact Or.inl ⟨Definition.not_hasMark_of_mem_walk hevent
        (Event.property?_of_declares hdeclares), producer, (Option.some.inj hvalue).symm⟩
    | keyframes parent name timeline =>
      have hname : keyframesHeading name = selector := by
        simpa [Event.settles, Event.declares, Event.heads] using hsettles
      obtain ⟨block, hblock, hget⟩ := Option.bind_eq_some_iff.mp hvalue
      exact Or.inr ⟨parent, name, timeline, block, hevent, hname,
        (Definition.of_dynamicBlock? hblock).2, hget⟩
  refine ⟨fun selector property rule h hmark => ?_, fun selector offset frame h => ?_⟩
  · rcases hfind _ _ _ h with ⟨hplain, -⟩ | ⟨parent, name, timeline, block, -, -, hhas, hget⟩
    · exact absurd hmark hplain
    · obtain ⟨frame, hframe, -⟩ := hhas.of_get? hget
      exact ⟨frame, hframe⟩
  · rcases hfind _ _ _ h with
      ⟨-, producer, hcomputed⟩ | ⟨parent, name, timeline, block, hevent, hname, hhas, hget⟩
    · cases hcomputed
    · obtain ⟨frame', hframe, hmarks⟩ := hhas.of_get? hget
      obtain rfl := RuleValue.frame.inj hframe
      exact ⟨parent, name, timeline, hevent, hname, hmarks⟩

end Compile

/-- Where the mark of qualifying keys gets to. No property that a walk reports has it. Outside
timelines, an entry under a marked key is not reported itself, and a nested definition there is
walked under the qualified selector, at every depth. The walk of a timeline, however, reports a
marked offset exactly if a frame with a value has a marked key, and a marked property exactly if a
value in a frame has one. After a compilation the fixed rules have no marked name, and in the other
rule sets marked names stand in frames only, where they come from a timeline with such a key; under
a heading with nothing declared in plain, every marked name of the latest timeline is there. -/
theorem marks_compile (d : Definition P) (base : String) :
    (∀ event ∈ d.walk base, ∀ property, event.property? = some property → ¬HasMark property) ∧
    (∀ path key entry, d.Holds path key entry → (∀ k ∈ path, Role.ofKey k ≠ .keyframes) →
      HasMark key → ⟨path, key, entry⟩ ∉ d.sites ∧
      ∀ inner : Definition P, entry = .nested inner → ∃ suffix, key = whenKey suffix ∧
        inner.walk (qualify (selectorAlong base path) suffix) <:+: d.walk base) ∧
    (∀ timeline : Definition P,
      ((∃ event ∈ timeline.walkTimeline, HasMark event.selector) ↔ timeline.MarksOffset) ∧
      ((∃ event ∈ timeline.walkTimeline, ∃ property, event.property? = some property ∧
        HasMark property) ↔ timeline.MarksProperty)) ∧
    (∀ selector property, (d.compile base).staticRules.find? selector property ≠ none →
      ¬HasMark property) ∧
    (d.compile base).staticKeyframes.MarkedByTimelines (d.walk base) ∧
    (d.compile base).dynamicRules.MarkedByTimelines (d.walk base) ∧
    (∀ heading timeline block, latestTimeline heading (d.walk base) = some timeline →
      (∀ event ∈ d.walk base, event.plainSelector? ≠ some heading) →
      ((d.compile base).dynamicRules.get? heading = some block ∨
        (d.compile base).staticKeyframes.get? heading = some block) →
      ((∃ offset ∈ block.keys, HasMark offset) ↔ timeline.MarksOffset) ∧
      ((∃ offset frame property, block.get? offset = some (.frame frame) ∧
        property ∈ frame.keys ∧ HasMark property) ↔ timeline.MarksProperty)) := by
  refine ⟨fun event hevent property => Definition.not_hasMark_of_mem_walk hevent,
    fun path key entry hholds hpath hmark => ⟨fun hsite => ?_, ?_⟩,
    fun timeline => ⟨Definition.walkTimeline_marks_offset_iff,
      Definition.walkTimeline_marks_property_iff⟩,
    fun selector property => not_hasMark_of_staticRules d base,
    markedByTimelines_staticKeyframes d base, markedByTimelines_dynamicRules d base,
    fun heading timeline block hlatest hplain hblock => ?_⟩
  · exact Definition.not_hasMark_of_mem_sites hsite hmark
  · rintro inner rfl
    exact hholds.qualified_infix hpath hmark base
  · have hhas : timeline.HasBlock block := by
      rcases hblock with hdynamic | hstatic
      · rw [get?_dynamicRules_heading hlatest hplain] at hdynamic
        exact (Definition.of_dynamicBlock? hdynamic).2
      · rw [get?_staticKeyframes_compile, hlatest, Option.bind_some] at hstatic
        exact Definition.of_staticBlock? hstatic
    exact ⟨hhas.marks_offset_iff, hhas.marks_property_iff⟩

/-- A timeline with a marked key over a value in a frame and one over a frame. -/
def markedTimeline : Definition Unit :=
  ⟨[("from", .nested ⟨[("%when::hover", .fixed (.text "red")), ("color", .fixed (.text "blue"))]⟩),
    ("%when::active", .nested ⟨[("color", .fixed (.text "green"))]⟩)]⟩

/-- A definition with marked keys over a nested definition and over a value, and with that
timeline. -/
def marked : Definition Unit :=
  ⟨[("%when::hover", .nested ⟨[("color", .fixed (.text "red"))]⟩),
    ("%when::focus", .fixed (.text "blue")), ("@x", .nested markedTimeline)]⟩

/-- The first key of `marked` qualifies the selector, and the value under the second is left out. -/
theorem marks_compile_marked :
    (∃ suffix, "%when::hover" = whenKey suffix ∧
      Definition.walk (P := Unit) ⟨[("color", .fixed (.text "red"))]⟩ (qualify ".A" suffix) <:+:
        marked.walk ".A") ∧
    ⟨[], "%when::focus", .fixed (.text "blue")⟩ ∉ marked.sites := by
  obtain ⟨-, hkeys, -⟩ := marks_compile marked ".A"
  have hhover : marked.Holds [] "%when::hover" (.nested ⟨[("color", .fixed (.text "red"))]⟩) :=
    .here List.mem_cons_self
  have hfocus : marked.Holds [] "%when::focus" (.fixed (.text "blue")) :=
    .here (List.mem_cons_of_mem _ List.mem_cons_self)
  exact ⟨(hkeys _ _ _ hhover nofun (by decide)).2 _ rfl,
    (hkeys _ _ _ hfocus nofun (by decide)).1⟩

/-- The marked keys of the timeline are reported and compiled as they stand: one as the property of
a frame, one as an offset. -/
theorem not_unmarked_marked :
    markedTimeline.walkTimeline = [.fixed "from" "%when::hover" (.text "red"),
      .fixed "from" "color" (.text "blue"), .fixed "%when::active" "color" (.text "green")] ∧
    (marked.compile ".A").staticKeyframes = ⟨⟨[("@keyframes x",
      ⟨[("from", .frame ⟨[("%when::hover", .fixed (.text "red")),
          ("color", .fixed (.text "blue"))]⟩),
        ("%when::active", .frame ⟨[("color", .fixed (.text "green"))]⟩)]⟩)]⟩⟩ ∧
    HasMark "%when::hover" ∧ HasMark "%when::active" := by
  have hhover : Role.ofKey "%when::hover" = .qualifier ":hover" := rfl
  have hfocus : whenSuffix? "%when::focus" = some ":focus" := rfl
  have hblock : Role.ofKey "@x" = .keyframes := rfl
  have hcolor : whenSuffix? "color" = none := rfl
  have hproperty : dashCase "color" = "color" := rfl
  have hqualify : qualify ".A" ":hover" = ".A:hover" := by decide +kernel
  have hwalk : marked.walk ".A" =
      [.fixed ".A:hover" "color" (.text "red"), .keyframes ".A" "@x" markedTimeline] := by
    -- the selectors are computed first: as terms they are slow to compare
    unfold Definition.walk marked
    simp only [walkEntries, Entry.walk, hhover, hqualify, hfocus, hblock, hcolor, hproperty,
      List.nil_append, List.append_nil, List.singleton_append]
  refine ⟨rfl, ?_, by decide, by decide⟩
  rw [Definition.compile, hwalk]
  rfl

end Restyle
