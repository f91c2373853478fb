import Restyle.Proofs.Compilation.Blocks

/-!
# What two rule sets have in common

The rule sets of a first compilation are meant to be apart: a plain declaration takes its pair out
of the other rule set for plain declarations, and a keyframes block takes its heading out of the
other rule set for blocks. But plain declarations and blocks share the dynamic rules, and neither of
them looks at both of the other rule sets. A dynamic block leaves the fixed rules under its heading
alone, and a plain declaration leaves the fixed keyframes alone.

So there are two ways in which something ends in two rule sets, both of which take a heading that is
also used as a selector. `overlap_compile` says exactly when this happens, and `separate_compile`
that it does not happen to definitions that spare headings.
-/

namespace Restyle

variable {P : Type}

/-! ### The latest event that settles a pair -/

/-- Whether an event decides what the dynamic rules have for a pair: as a declaration of the pair,
or as a keyframes block that has its selector for heading. -/
def Event.settles (selector property : String) (event : Event P) : Bool :=
  event.declares selector property || event.heads selector

/-- The latest event in a list that settles a pair. -/
def latestSettling (selector property : String) (events : List (Event P)) : Option (Event P) :=
  (events.filter (Event.settles selector property)).getLast?

/-- What the dynamic rules have for a pair after an event that settles it. -/
def Event.settledValue? (property : String) : Event P → Option (RuleValue P)
  | .fixed _ _ _ => none
  | .computed _ _ producer => some (.computed producer)
  | .keyframes _ _ timeline => timeline.dynamicBlock?.bind fun block => block.get? property

/-- The latest event to settle a pair is one of the events and settles the pair. -/
lemma of_latestSettling {selector property : String} {events : List (Event P)} {event : Event P}
    (h : latestSettling selector property events = some event) :
    event ∈ events ∧ event.settles selector property = true :=
  List.mem_filter.mp (List.mem_of_getLast? h)

/-- One more event is the latest to settle a pair if it settles the pair at all. -/
lemma latestSettling_concat (selector property : String) (events : List (Event P))
    (event : Event P) :
    latestSettling selector property (events ++ [event]) =
      if event.settles selector property then some event
      else latestSettling selector property events :=
  getLast?_filter_concat ..

/-- Suppose that `f` gives something for the latest of the events with `p`, and nothing for any
event without `p`. Then this is the latest thing that it gives at all. -/
lemma getLast?_filterMap_of_filter {α β : Type} {events : List α} {p : α → Bool}
    {f : α → Option β} (hp : ∀ event found, f event = some found → p event = true)
    {event : α} (hlatest : (events.filter p).getLast? = some event) {found : β}
    (hfound : f event = some found) : (events.filterMap f).getLast? = some found := by
  obtain ⟨earlier, hsplit⟩ := List.getLast?_eq_some_iff.mp hlatest
  have honly : events.filterMap f = (events.filter p).filterMap f := by
    rw [List.filterMap_filter]
    refine List.filterMap_congr fun e _ => ?_
    cases he : f e with
    | none => simp
    | some found' => simp [hp e found' he]
  rw [honly, hsplit, List.filterMap_append]
  simp [hfound]

/-- If the latest event to settle a pair is a declaration, it is the latest declaration. -/
lemma latestDeclaration_of_latestSettling {selector property : String} {events : List (Event P)}
    {event : Event P} (h : latestSettling selector property events = some event)
    (hdeclares : event.declares selector property = true) :
    latestDeclaration selector property events = some event := by
  unfold latestDeclaration
  rw [← List.filterMap_eq_filter]
  refine getLast?_filterMap_of_filter (fun e found hfound => ?_) h (by simp [hdeclares])
  obtain ⟨-, he⟩ := Option.guard_eq_some_iff.mp hfound
  simp [Event.settles, he]

/-- If the latest event to settle a pair is a block, it is the latest block under the heading. -/
lemma latestTimeline_of_latestSettling {selector property : String} {events : List (Event P)}
    {parent name : String} {timeline : Definition P}
    (h : latestSettling selector property events = some (.keyframes parent name timeline)) :
    latestTimeline selector events = some timeline := by
  have hsettles : (Event.keyframes parent name timeline).settles selector property = true :=
    (of_latestSettling h).2
  have hname : keyframesHeading name = selector := by
    simpa [Event.settles, Event.declares, Event.heads] using hsettles
  refine getLast?_filterMap_of_filter (fun e found hfound => ?_) h (if_pos hname)
  rw [Event.settles, Event.heads_of_timelineUnder? hfound, Bool.or_true]

/-! ### The three rule sets, pair by pair -/

namespace Compilation

/-- An event changes the dynamic rules at the pairs that it settles and nowhere else. -/
lemma find?_dynamicRules_record_of_settles (c : Compilation P) (event : Event P)
    (selector property : String) :
    (c.record event).dynamicRules.find? selector property =
      if event.settles selector property then event.settledValue? property
      else c.dynamicRules.find? selector property := by
  cases hheads : event.heads selector with
  | false =>
    rw [c.find?_dynamicRules_record hheads, Event.settles, hheads, Bool.or_false]
    cases event <;> rfl
  | true =>
    cases event with
    | fixed s p value => cases hheads
    | computed s p producer => cases hheads
    | keyframes parent name timeline =>
      have hname : keyframesHeading name = selector := by simpa [Event.heads] using hheads
      rw [RuleSet.find?_eq, get?_dynamicRules_record_keyframes, if_pos hname, Event.settles, hheads,
        Bool.or_true, if_pos rfl]
      rfl

/-- After any list of events, the fixed keyframes have under every heading what the latest block has
there, if it is fixed. -/
lemma get?_staticKeyframes_foldl_record (heading : String) (events : List (Event P)) :
    (events.foldl Compilation.record .empty).staticKeyframes.get? heading =
      (latestTimeline heading events).bind Definition.staticBlock? := by
  induction events using List.reverseRecOn with
  | nil => rfl
  | append_singleton events event ih =>
    rw [List.foldl_concat, latestTimeline_concat]
    exact get?_staticKeyframes_record ih event

end Compilation

section Compile

variable (d : Definition P) (base selector property : String)

/-- The fixed rules have of every pair what its latest declaration says, if this is a fixed value.
-/
lemma find?_staticRules_compile :
    (d.compile base).staticRules.find? selector property =
      (latestDeclaration selector property (d.walk base)).bind Event.fixedValue? := by
  unfold Definition.compile
  induction d.walk base using List.reverseRecOn with
  | nil => rfl
  | append_singleton events event ih =>
    rw [List.foldl_concat, latestDeclaration_concat, Compilation.find?_staticRules_record, ih]
    split <;> rfl

/-- The dynamic rules have of every pair what the latest event that settles it leaves. -/
lemma find?_dynamicRules_compile :
    (d.compile base).dynamicRules.find? selector property =
      (latestSettling selector property (d.walk base)).bind (Event.settledValue? property) := by
  unfold Definition.compile
  induction d.walk base using List.reverseRecOn with
  | nil => rfl
  | append_singleton events event ih =>
    rw [List.foldl_concat, latestSettling_concat,
      Compilation.find?_dynamicRules_record_of_settles, ih]
    split <;> rfl

/-- The fixed keyframes have under every heading what the latest block has there, if it is fixed. -/
lemma get?_staticKeyframes_compile (heading : String) :
    (d.compile base).staticKeyframes.get? heading =
      (latestTimeline heading (d.walk base)).bind Definition.staticBlock? :=
  Compilation.get?_staticKeyframes_foldl_record heading (d.walk base)

end Compile

/-! ### What is in two rule sets -/

/-- A timeline has a frame at an offset among the dynamic rules if and only if it has a produced
value and declares something at the offset. -/
lemma get?_dynamicBlock?_ne_none_iff {timeline : Definition P} {offset : String} :
    timeline.dynamicBlock?.bind (fun block => block.get? offset) ≠ none ↔
      timeline.ProducesValue ∧ offset ∈ timeline.declarations.map TimedDeclaration.offset := by
  rw [Definition.dynamicBlock?, ← isDynamicTimeline_iff]
  cases hdynamic : timeline.isDynamicTimeline with
  | false => simp
  | true =>
    have hdeclares : timeline.declarations ≠ [] :=
      (isDynamicTimeline_iff.mp hdynamic).declarations_ne_nil
    rw [if_pos rfl, Definition.block?_of_declarations_ne_nil hdeclares, Option.bind_some, Ne,
      OrderedMap.get?_eq_none_iff, timeline.hasBlock_ofList.offsets, List.mem_eraseDups]
    simp

/-- A timeline has a block among the fixed keyframes if and only if it declares something and has no
produced value. -/
lemma staticBlock?_ne_none_iff {timeline : Definition P} :
    timeline.staticBlock? ≠ none ↔ timeline.declarations ≠ [] ∧ ¬timeline.ProducesValue := by
  rw [Definition.staticBlock?, ← isDynamicTimeline_iff]
  cases hdynamic : timeline.isDynamicTimeline with
  | true => simp
  | false =>
    by_cases hdeclares : timeline.declarations = []
    · simp [hdeclares, Definition.block?_of_declarations_eq_nil hdeclares]
    · simp [hdeclares, Definition.block?_of_declarations_ne_nil hdeclares]

section Overlap

variable {d : Definition P} {base selector property : String}

/-- A pair has a fixed value if and only if this is the kind of its latest declaration. -/
lemma find?_staticRules_ne_none_iff :
    (d.compile base).staticRules.find? selector property ≠ none ↔
      ∃ value, latestDeclaration selector property (d.walk base) =
        some (.fixed selector property value) := by
  rw [find?_staticRules_compile]
  constructor
  · intro h
    obtain ⟨rule, hrule⟩ := Option.ne_none_iff_exists'.mp h
    obtain ⟨event, hlatest, hvalue⟩ := Option.bind_eq_some_iff.mp hrule
    have hdeclares : event.declares selector property = true := (of_latestDeclaration hlatest).2
    cases event with
    | fixed s p value =>
      obtain ⟨rfl, rfl⟩ : s = selector ∧ p = property := by
        simpa [Event.declares] using hdeclares
      exact ⟨value, hlatest⟩
    | computed s p producer => cases hvalue
    | keyframes parent name timeline => cases hvalue
  · rintro ⟨value, hlatest⟩
    rw [hlatest]
    exact Option.some_ne_none _

/-- A pair is both among the fixed rules and among the dynamic ones if and only if its latest
declaration is fixed and a later block under its selector, the latest one, has a produced value and
a frame in its place. -/
lemma find?_both_iff :
    ((d.compile base).staticRules.find? selector property ≠ none ∧
      (d.compile base).dynamicRules.find? selector property ≠ none) ↔
    ∃ value parent name timeline,
      latestDeclaration selector property (d.walk base) = some (.fixed selector property value) ∧
      latestSettling selector property (d.walk base) = some (.keyframes parent name timeline) ∧
      timeline.ProducesValue ∧
      property ∈ timeline.declarations.map TimedDeclaration.offset := by
  rw [find?_staticRules_ne_none_iff, find?_dynamicRules_compile]
  constructor
  · rintro ⟨⟨value, hlatest⟩, hdynamic⟩
    cases hsettling : latestSettling selector property (d.walk base) with
    | none => simp [hsettling] at hdynamic
    | some event =>
      rw [hsettling, Option.bind_some] at hdynamic
      cases event with
      | fixed s p value' => exact absurd rfl hdynamic
      | computed s p producer =>
        -- then the pair would have been declared as a produced value after it was fixed
        have hsettles := (of_latestSettling hsettling).2
        have hdeclares : (Event.computed s p producer).declares selector property = true := by
          simpa [Event.settles, Event.heads] using hsettles
        rw [latestDeclaration_of_latestSettling hsettling hdeclares] at hlatest
        cases hlatest
      | keyframes parent name timeline =>
        have hframe := get?_dynamicBlock?_ne_none_iff.mp hdynamic
        exact ⟨value, parent, name, timeline, hlatest, rfl, hframe⟩
  · rintro ⟨value, parent, name, timeline, hlatest, hsettling, hframe⟩
    refine ⟨⟨value, hlatest⟩, ?_⟩
    rw [hsettling]
    exact get?_dynamicBlock?_ne_none_iff.mpr hframe

/-- A heading is both among the fixed keyframes and among the dynamic rules if and only if the
latest block there is fixed and some pair of the heading is declared with a produced value after it.
-/
lemma get?_both_iff :
    ((d.compile base).staticKeyframes.get? selector ≠ none ∧
      (d.compile base).dynamicRules.get? selector ≠ none) ↔
    ∃ timeline property producer,
      latestTimeline selector (d.walk base) = some timeline ∧
      timeline.declarations ≠ [] ∧ ¬timeline.ProducesValue ∧
      latestSettling selector property (d.walk base) =
        some (.computed selector property producer) := by
  rw [get?_staticKeyframes_compile, (wellFormed_compile d base).dynamicRules.get?_ne_none_iff]
  constructor
  · rintro ⟨hstatic, property, hdynamic⟩
    obtain ⟨block, hblock⟩ := Option.ne_none_iff_exists'.mp hstatic
    obtain ⟨timeline, hlatest, hside⟩ := Option.bind_eq_some_iff.mp hblock
    obtain ⟨hdeclares, hfixed⟩ := staticBlock?_ne_none_iff.mp (hside ▸ Option.some_ne_none _)
    rw [find?_dynamicRules_compile] at hdynamic
    obtain ⟨rule, hrule⟩ := Option.ne_none_iff_exists'.mp hdynamic
    obtain ⟨event, hsettling, hvalue⟩ := Option.bind_eq_some_iff.mp hrule
    cases event with
    | fixed s p value => cases hvalue
    | computed s p producer =>
      have hsettles : (Event.computed s p producer).settles selector property = true :=
        (of_latestSettling hsettling).2
      obtain ⟨rfl, rfl⟩ : s = selector ∧ p = property := by
        simpa [Event.settles, Event.declares, Event.heads] using hsettles
      exact ⟨timeline, p, producer, hlatest, hdeclares, hfixed, hsettling⟩
    | keyframes parent name timeline' =>
      -- then the latest block would not be fixed
      obtain rfl : timeline = timeline' :=
        Option.some.inj (hlatest.symm.trans (latestTimeline_of_latestSettling hsettling))
      have hframe := get?_dynamicBlock?_ne_none_iff.mp (hvalue ▸ Option.some_ne_none rule)
      exact absurd hframe.1 hfixed
  · rintro ⟨timeline, property, producer, hlatest, hdeclares, hfixed, hsettling⟩
    refine ⟨?_, property, ?_⟩
    · rw [hlatest]
      exact staticBlock?_ne_none_iff.mpr ⟨hdeclares, hfixed⟩
    · rw [find?_dynamicRules_compile, hsettling]
      exact Option.some_ne_none _

end Overlap

/-- What is in two rule sets after a first compilation, for any definition and any selector. A pair
is both among the fixed rules and among the dynamic ones exactly if it is declared with a fixed
value and, after its latest declaration, the latest block that has its selector for heading is
dynamic and has a frame with its property for offset. A heading is both among the fixed keyframes
and among the dynamic rules exactly if its latest block has frames, all of them fixed, and some
property is declared in plain under the heading after that block, the latest time with a produced
value. -/
theorem overlap_compile (d : Definition P) (base selector : String) :
    (∀ property,
      ((d.compile base).staticRules.find? selector property ≠ none ∧
        (d.compile base).dynamicRules.find? selector property ≠ none) ↔
      ∃ value parent name timeline,
        latestDeclaration selector property (d.walk base) =
          some (.fixed selector property value) ∧
        latestSettling selector property (d.walk base) =
          some (.keyframes parent name timeline) ∧
        timeline.ProducesValue ∧
        property ∈ timeline.declarations.map TimedDeclaration.offset) ∧
    (((d.compile base).staticKeyframes.get? selector ≠ none ∧
        (d.compile base).dynamicRules.get? selector ≠ none) ↔
      ∃ timeline property producer,
        latestTimeline selector (d.walk base) = some timeline ∧
        timeline.declarations ≠ [] ∧ ¬timeline.ProducesValue ∧
        latestSettling selector property (d.walk base) =
          some (.computed selector property producer)) :=
  ⟨fun _ => find?_both_iff, get?_both_iff⟩

/-- The rule sets are apart: no pair and no heading is in two of them. -/
structure Compilation.Separate (c : Compilation P) : Prop where
  /-- No pair has both a fixed and a dynamic value. -/
  pairs : ∀ selector property, c.staticRules.find? selector property = none ∨
    c.dynamicRules.find? selector property = none
  /-- No heading is both among the fixed keyframes and among the dynamic rules. -/
  headings : ∀ heading, c.staticKeyframes.get? heading = none ∨
    c.dynamicRules.get? heading = none

/-- The rule sets of a definition that spares the headings of keyframes blocks are apart. -/
theorem separate_compile {d : Definition P} {base : String} (h : d.SparesHeadings base) :
    (d.compile base).Separate where
  pairs := fun selector property => by
    by_contra hboth
    obtain ⟨value, parent, name, timeline, hlatest, hsettling, -, -⟩ :=
      find?_both_iff.mp (not_or.mp hboth)
    have hspared : isKeyframesHeading selector = false :=
      h _ (of_latestDeclaration hlatest).1 selector rfl
    have hsettles := (of_latestSettling hsettling).2
    rw [Event.settles, Event.heads_eq_false hspared] at hsettles
    cases hsettles
  headings := fun heading => by
    by_contra hboth
    obtain ⟨timeline, property, producer, hlatest, -, -, hsettling⟩ :=
      get?_both_iff.mp (not_or.mp hboth)
    have hspared : isKeyframesHeading heading = false :=
      h _ (of_latestSettling hsettling).1 heading rfl
    obtain ⟨event, -, hevent⟩ := List.mem_filterMap.mp (List.mem_of_getLast? hlatest)
    have hheads : event.heads heading = true := Event.heads_of_timelineUnder? hevent
    rw [Event.heads_eq_false hspared] at hheads
    cases hheads

/-- A definition with two headings that are also used as absolute selectors: one is declared before
the block, the other one after it. -/
def mixedHeadings : Definition Unit :=
  ⟨[("=@keyframes x", .nested ⟨[("from", .fixed (.text "red"))]⟩),
    ("@x", .nested ⟨[("from", .nested ⟨[("opacity", .computed ())]⟩)]⟩),
    ("@y", .nested ⟨[("from", .nested ⟨[("opacity", .fixed (.text "0"))]⟩)]⟩),
    ("=@keyframes y", .nested ⟨[("color", .computed ())]⟩)]⟩

/-- The fixed declaration that `mixedHeadings` has before a block stays, and so does the block that
it has before a produced declaration. -/
lemma compile_mixedHeadings : mixedHeadings.compile ".A" =
    ⟨⟨⟨[("@keyframes x", ⟨[("from", .fixed (.text "red"))]⟩)]⟩⟩,
      ⟨⟨[("@keyframes y", ⟨[("from", .frame ⟨[("opacity", .fixed (.text "0"))]⟩)]⟩)]⟩⟩,
      ⟨⟨[("@keyframes x", ⟨[("from", .frame ⟨[("opacity", .computed ())]⟩)]⟩),
        ("@keyframes y", ⟨[("color", .computed ())]⟩)]⟩⟩⟩ := by
  have hx : Role.ofKey "=@keyframes x" = .absolute "@keyframes x" := rfl
  have hy : Role.ofKey "=@keyframes y" = .absolute "@keyframes y" := rfl
  have hwalk : mixedHeadings.walk ".A" =
      [.fixed "@keyframes x" "from" (.text "red"),
        .keyframes ".A" "@x" ⟨[("from", .nested ⟨[("opacity", .computed ())]⟩)]⟩,
        .keyframes ".A" "@y" ⟨[("from", .nested ⟨[("opacity", .fixed (.text "0"))]⟩)]⟩,
        .computed "@keyframes y" "color" ()] := by
    -- the absolute selectors are read first: as computed strings they are slow to compare
    unfold Definition.walk mixedHeadings
    simp only [walkEntries, Entry.walk, hx, hy]
    rfl
  rw [Definition.compile, hwalk]
  rfl

/-- The rule sets of `mixedHeadings` have a pair and a heading in common. -/
theorem not_separate_mixedHeadings :
    (mixedHeadings.compile ".A").staticRules.find? "@keyframes x" "from" =
      some (.fixed (.text "red")) ∧
    (mixedHeadings.compile ".A").dynamicRules.find? "@keyframes x" "from" =
      some (.frame ⟨[("opacity", .computed ())]⟩) ∧
    (mixedHeadings.compile ".A").staticKeyframes.get? "@keyframes y" =
      some ⟨[("from", .frame ⟨[("opacity", .fixed (.text "0"))]⟩)]⟩ ∧
    (mixedHeadings.compile ".A").dynamicRules.get? "@keyframes y" =
      some ⟨[("color", .computed ())]⟩ ∧
    ¬(mixedHeadings.compile ".A").Separate := by
  rw [compile_mixedHeadings]
  refine ⟨rfl, rfl, rfl, rfl, fun h => ?_⟩
  rcases h.pairs "@keyframes x" "from" with hstatic | hdynamic
  · cases hstatic
  · cases hdynamic

end Restyle
