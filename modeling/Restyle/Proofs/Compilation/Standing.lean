import Restyle.Proofs.Compilation.Overlap
import Restyle.Proofs.History
import Restyle.Proofs.Names

/-!
# Where names stand in a compilation

The rules of later blocks win over those of earlier ones, so the order of a compiled rule set is
part of its meaning. It is made by insertions and removals: a pair that is declared with the other
kind of value leaves the one rule set, with its selector if it was the last pair there, and goes to
the end in the other.

The order can be said without these moves. A pair survives with a kind if its latest declaration is
of this kind (`Survives`). In the rule set of a kind, the properties of a selector stand in order of
the events with which their pairs last came to survive, and a selector stands where one of its pairs
last came to survive while none did before. The heading of a keyframes block stands where its latest
block is (`LastBlockAt`). `Compilation.Standing` collects this.
-/

namespace Restyle

variable {P : Type}

/-! ### Declarations of a kind -/

/-- The kinds of values that a plain declaration can have. -/
inductive Kind where
  /-- The value is fixed. -/
  | fixed
  /-- The value is produced from the component. -/
  | produced
deriving DecidableEq

/-- An event is the declaration of a pair, with a value of a kind. -/
inductive Event.DeclaresAs : Event P → Kind → String → String → RuleValue P → Prop
  /-- A declaration with a fixed value. -/
  | fixed (selector property : String) (value : Value) :
    DeclaresAs (.fixed selector property value) .fixed selector property (.fixed value)
  /-- A declaration with a produced value. -/
  | computed (selector property : String) (producer : P) :
    DeclaresAs (.computed selector property producer) .produced selector property
      (.computed producer)

namespace Compilation

/-- The rule set to which the declarations of a kind go. -/
def rulesOf (c : Compilation P) : Kind → RuleSet P
  | .fixed => c.staticRules
  | .produced => c.dynamicRules

/-- What a list of events compiles to. -/
def ofEvents (events : List (Event P)) : Compilation P := events.foldl record .empty

lemma ofEvents_concat (events : List (Event P)) (event : Event P) :
    ofEvents (events ++ [event]) = (ofEvents events).record event := List.foldl_concat ..

lemma wellFormed_ofEvents (events : List (Event P)) : (ofEvents events).WellFormed :=
  wellFormed_foldl_record events

lemma WellFormed.rulesOf {c : Compilation P} (h : c.WellFormed) :
    (kind : Kind) → (c.rulesOf kind).WellFormed
  | .fixed => h.staticRules
  | .produced => h.dynamicRules

end Compilation

namespace Event

/-- An event is a plain declaration or a keyframes block. -/
lemma declaresAs_or_block (event : Event P) :
    (∃ kind selector property value, event.DeclaresAs kind selector property value) ∨
      ∃ parent name timeline, event = .keyframes parent name timeline := by
  cases event with
  | fixed selector property value => exact Or.inl ⟨_, _, _, _, .fixed selector property value⟩
  | computed selector property producer =>
    exact Or.inl ⟨_, _, _, _, .computed selector property producer⟩
  | keyframes parent name timeline => exact Or.inr ⟨parent, name, timeline, rfl⟩

namespace DeclaresAs

variable {event : Event P} {kind : Kind} {selector property : String} {value : RuleValue P}

lemma declares_iff (h : event.DeclaresAs kind selector property value) {s p : String} :
    event.declares s p = true ↔ selector = s ∧ property = p := by
  cases h <;> simp [Event.declares]

lemma plainSelector?_eq (h : event.DeclaresAs kind selector property value) :
    event.plainSelector? = some selector := by
  cases h <;> rfl

lemma heads_eq_false (h : event.DeclaresAs kind selector property value) (heading : String) :
    event.heads heading = false := by
  cases h <;> rfl

/-- A declaration goes to the rule set of its kind, and its pair leaves the other one. -/
lemma rulesOf_record (h : event.DeclaresAs kind selector property value) (c : Compilation P)
    (kind' : Kind) :
    (c.record event).rulesOf kind' =
      if kind' = kind then (c.rulesOf kind').insert selector property value
      else (c.rulesOf kind').erase selector property := by
  cases h <;> cases kind' <;> rfl

/-- A plain declaration leaves the fixed keyframes alone. -/
lemma staticKeyframes_record (h : event.DeclaresAs kind selector property value)
    (c : Compilation P) : (c.record event).staticKeyframes = c.staticKeyframes := by
  cases h <;> rfl

end DeclaresAs

end Event

/-! ### Pairs that survive -/

/-- A pair survives with a kind: its latest declaration is of this kind. -/
def Survives (kind : Kind) (selector property : String) (events : List (Event P)) : Prop :=
  ∃ event value, latestDeclaration selector property events = some event ∧
    event.DeclaresAs kind selector property value

/-- A selector survives with a kind: one of its pairs does. -/
def SelectorSurvives (kind : Kind) (selector : String) (events : List (Event P)) : Prop :=
  ∃ property, Survives kind selector property events

section Survives

variable {kind kind' : Kind} {selector property s p : String} {value : RuleValue P}
  {events : List (Event P)} {event : Event P}

lemma not_survives_nil : ¬Survives kind s p ([] : List (Event P)) := by
  rintro ⟨event, value, hlatest, -⟩
  cases hlatest

lemma not_selectorSurvives_nil : ¬SelectorSurvives kind s ([] : List (Event P)) := by
  rintro ⟨property, hsurvives⟩
  exact not_survives_nil hsurvives

/-- A declaration lets its pair survive with its kind, and no other pair. -/
lemma survives_concat (h : event.DeclaresAs kind' selector property value) :
    Survives kind s p (events ++ [event]) ↔
      if selector = s ∧ property = p then kind = kind' else Survives kind s p events := by
  unfold Survives
  rw [latestDeclaration_concat]
  by_cases hpair : selector = s ∧ property = p
  · rw [if_pos (h.declares_iff.mpr hpair), if_pos hpair]
    obtain ⟨rfl, rfl⟩ := hpair
    constructor
    · rintro ⟨event', value', hsame, h'⟩
      obtain rfl := Option.some.inj hsame
      cases h <;> cases h' <;> rfl
    · rintro rfl
      exact ⟨event, value, rfl, h⟩
  · rw [if_neg (mt h.declares_iff.mp hpair), if_neg hpair]

/-- A keyframes block lets all pairs be. -/
lemma survives_concat_keyframes {parent name : String} {timeline : Definition P} :
    Survives kind s p (events ++ [.keyframes parent name timeline]) ↔ Survives kind s p events := by
  unfold Survives
  rw [latestDeclaration_concat]
  rfl

/-- A selector that survives is the selector of one of the declarations. -/
lemma SelectorSurvives.exists_plain (h : SelectorSurvives kind s events) :
    ∃ event ∈ events, event.plainSelector? = some s := by
  obtain ⟨property, event, value, hlatest, hdeclares⟩ := h
  exact ⟨event, (of_latestDeclaration hlatest).1, hdeclares.plainSelector?_eq⟩

end Survives

/-! ### The last block of a heading -/

/-- Event number `i` is the last keyframes block with a heading, and has the timeline. -/
structure LastBlockAt (heading : String) (timeline : Definition P) (events : List (Event P))
    (i : Nat) : Prop where
  /-- The event is a block with the heading. -/
  here : ∃ event, events[i]? = some event ∧ event.timelineUnder? heading = some timeline
  /-- No later one is. -/
  last : ∀ event ∈ events.drop (i + 1), event.heads heading = false

section LastBlock

variable {heading : String} {timeline : Definition P} {events : List (Event P)} {event : Event P}
  {i : Nat}

lemma LastBlockAt.lt (h : LastBlockAt heading timeline events i) : i < events.length := by
  obtain ⟨event, hevent, -⟩ := h.here
  exact (List.getElem?_eq_some_iff.mp hevent).1

/-- One more event is the last block, or it is no block with the heading and the last one is where
it was. -/
lemma lastBlockAt_concat : LastBlockAt heading timeline (events ++ [event]) i ↔
    (i = events.length ∧ event.timelineUnder? heading = some timeline) ∨
      (event.heads heading = false ∧ LastBlockAt heading timeline events i) := by
  constructor
  · intro h
    have hle : i ≤ events.length := by
      have hlt := h.lt
      rw [List.length_append, List.length_singleton] at hlt
      exact Nat.le_of_lt_succ hlt
    obtain ⟨found, hfound, htimeline⟩ := h.here
    rcases Nat.eq_or_lt_of_le hle with rfl | hlt
    · rw [List.getElem?_concat_length] at hfound
      obtain rfl := Option.some.inj hfound
      exact Or.inl ⟨rfl, htimeline⟩
    · rw [List.getElem?_append_left hlt] at hfound
      have hlast := h.last
      rw [List.drop_append_of_le_length hlt] at hlast
      exact Or.inr ⟨hlast event (by simp), ⟨found, hfound, htimeline⟩,
        fun e he => hlast e (List.mem_append_left _ he)⟩
  · rintro (⟨rfl, htimeline⟩ | ⟨hheads, h⟩)
    · refine ⟨⟨event, List.getElem?_concat_length, htimeline⟩, fun e he => ?_⟩
      rw [List.drop_of_length_le (by simp)] at he
      cases he
    · obtain ⟨found, hfound, htimeline⟩ := h.here
      refine ⟨⟨found, ?_, htimeline⟩, fun e he => ?_⟩
      · rw [List.getElem?_append_left h.lt, hfound]
      · rw [List.drop_append_of_le_length h.lt] at he
        rcases List.mem_append.mp he with hold | hnew
        · exact h.last e hold
        · rwa [List.mem_singleton.mp hnew]

/-- There is a last block with a timeline if and only if this is the latest timeline. -/
lemma exists_lastBlockAt_iff :
    (∃ i, LastBlockAt heading timeline events i) ↔
      latestTimeline heading events = some timeline := by
  induction events using List.reverseRecOn with
  | nil =>
    constructor
    · rintro ⟨i, h⟩
      exact absurd h.lt (Nat.not_lt_zero i)
    · intro h
      cases h
  | append_singleton events event ih =>
    simp only [lastBlockAt_concat, exists_or, exists_and_right, exists_eq, true_and,
      exists_and_left, ih, latestTimeline_concat]
    cases hunder : event.timelineUnder? heading with
    | none => simp [Event.timelineUnder?_eq_none_iff.mp hunder]
    | some timeline' => simp [Event.heads_of_timelineUnder? hunder]

end LastBlock

/-! ### Keyframes blocks and names -/

/-- A block that is put under its heading goes to the end; an empty one only takes the heading
out. -/
lemma RuleSet.selectors_putFrames (rules : RuleSet P) (heading : String)
    (timeline : Definition P) :
    (rules.putFrames heading timeline).selectors =
      (rules.selectors.filter fun s => s ≠ heading) ++
        if timeline.block?.isSome then [heading] else [] := by
  change ((rules.eraseSelector heading).insertAll heading timeline.frameEntries).selectors = _
  rw [← selectors_eraseSelector, Definition.block?]
  by_cases hentries : timeline.frameEntries = []
  · rw [hentries, if_pos rfl]
    simp [insertAll]
  · have hnew : heading ∉ (rules.eraseSelector heading).blocks.keys :=
      OrderedMap.get?_eq_none_iff.mp ((get?_eraseSelector ..).trans (if_pos rfl))
    rw [if_neg hentries, insertAll_eq _ _ hentries]
    exact (OrderedMap.keys_insert ..).trans (if_neg hnew)

namespace Compilation

/-- A keyframes block takes its heading out of the dynamic rules, and puts it at the end if it
belongs there. -/
lemma selectors_dynamicRules_record_keyframes (c : Compilation P) (parent name : String)
    (timeline : Definition P) :
    (c.record (.keyframes parent name timeline)).dynamicRules.selectors =
      (c.dynamicRules.selectors.filter fun s => s ≠ keyframesHeading name) ++
        if timeline.dynamicBlock?.isSome then [keyframesHeading name] else [] := by
  unfold Definition.dynamicBlock?
  cases h : timeline.isDynamicTimeline with
  | true =>
    rw [record_keyframes_of_dynamic c parent name h]
    exact RuleSet.selectors_putFrames ..
  | false =>
    rw [record_keyframes_of_static c parent name h]
    exact (RuleSet.selectors_eraseSelector ..).trans (by simp)

/-- A keyframes block takes its heading out of the fixed keyframes, and puts it at the end if it
belongs there. -/
lemma selectors_staticKeyframes_record_keyframes (c : Compilation P) (parent name : String)
    (timeline : Definition P) :
    (c.record (.keyframes parent name timeline)).staticKeyframes.selectors =
      (c.staticKeyframes.selectors.filter fun s => s ≠ keyframesHeading name) ++
        if timeline.staticBlock?.isSome then [keyframesHeading name] else [] := by
  unfold Definition.staticBlock?
  cases h : timeline.isDynamicTimeline with
  | true =>
    rw [record_keyframes_of_dynamic c parent name h]
    exact (RuleSet.selectors_eraseSelector ..).trans (by simp)
  | false =>
    rw [record_keyframes_of_static c parent name h]
    exact RuleSet.selectors_putFrames ..

/-- A keyframes block leaves the properties of other selectors alone. -/
lemma properties_record_keyframes (c : Compilation P) (parent : String) {name s : String}
    (timeline : Definition P) (kind : Kind)
    (hname : kind = .produced → keyframesHeading name ≠ s) :
    ((c.record (.keyframes parent name timeline)).rulesOf kind).properties s =
      (c.rulesOf kind).properties s := by
  cases kind with
  | fixed => exact congrArg (RuleSet.properties · s) (c.staticRules_record_keyframes ..)
  | produced =>
    exact RuleSet.properties_congr
      ((c.get?_dynamicRules_record_keyframes ..).trans (if_neg (hname rfl)))

end Compilation

/-! ### What is in a rule set -/

/-- No selector of a plain declaration is the heading of a keyframes block. -/
def Apart (events : List (Event P)) : Prop :=
  ∀ event ∈ events, ∀ selector, event.plainSelector? = some selector →
    ∀ event' ∈ events, event'.heads selector = false

section Contents

variable {kind : Kind} {s p : String} {events rest : List (Event P)} {event : Event P}

lemma Apart.of_append (h : Apart (events ++ rest)) : Apart events :=
  fun event hevent selector hselector event' hevent' =>
    h event (List.mem_append_left _ hevent) selector hselector event'
      (List.mem_append_left _ hevent')

/-- Headings that are spared are apart from plain selectors. -/
lemma Definition.SparesHeadings.apart {d : Definition P} {base : String}
    (h : d.SparesHeadings base) : Apart (d.walk base) :=
  fun event hevent selector hselector event' _ =>
    event'.heads_eq_false (h event hevent selector hselector)

/-- A selector that survives is not the heading of a block. -/
lemma Apart.heads_eq_false (h : Apart events) (hs : SelectorSurvives kind s events) :
    ∀ event ∈ events, event.heads s = false := by
  obtain ⟨event, hevent, hselector⟩ := hs.exists_plain
  exact h event hevent s hselector

lemma Event.heads_self (parent name : String) (timeline : Definition P) :
    (Event.keyframes parent name timeline).heads (keyframesHeading name) = true := by
  simp [heads]

namespace Compilation

/-- A rule set has the pairs that survive with its kind, under the heading of a block apart. -/
lemma mem_properties_iff_survives
    (hs : kind = .produced → ∀ event ∈ events, event.heads s = false) :
    p ∈ ((ofEvents events).rulesOf kind).properties s ↔ Survives kind s p events := by
  induction events using List.reverseRecOn with
  | nil => cases kind <;> exact iff_of_false List.not_mem_nil not_survives_nil
  | append_singleton events event ih =>
    have hbefore := ih fun hkind e he => hs hkind e (List.mem_append_left _ he)
    rw [ofEvents_concat]
    rcases event.declaresAs_or_block with
      ⟨kind', selector, property, value, hdeclares⟩ | ⟨parent, name, timeline, rfl⟩
    · rw [hdeclares.rulesOf_record, survives_concat hdeclares, ← hbefore]
      by_cases hkind : kind = kind'
      · rw [if_pos hkind, RuleSet.mem_properties_insert]
        split <;> simp [*]
      · rw [if_neg hkind, RuleSet.mem_properties_erase]
        split <;> simp [*]
    · have hname : kind = .produced → keyframesHeading name ≠ s := by
        intro hkind
        simpa [Event.heads] using hs hkind _ (List.mem_append_right _ List.mem_cons_self)
      rw [properties_record_keyframes _ parent timeline kind hname, survives_concat_keyframes,
        hbefore]

/-- A rule set has the selectors that survive with its kind; the dynamic rules also have the
headings whose latest block has a produced value. -/
lemma mem_selectors_iff (h : Apart events) :
    s ∈ ((ofEvents events).rulesOf kind).selectors ↔
      SelectorSurvives kind s events ∨
        kind = .produced ∧ ∃ timeline, latestTimeline s events = some timeline ∧
          timeline.ProducesValue := by
  by_cases hs : kind = .produced → ∀ event ∈ events, event.heads s = false
  · have hplain : s ∈ ((ofEvents events).rulesOf kind).selectors ↔
        SelectorSurvives kind s events :=
      ((wellFormed_ofEvents events).rulesOf kind).mem_selectors_iff_properties.trans
        (exists_congr fun _ => mem_properties_iff_survives hs)
    rw [hplain, or_iff_left]
    rintro ⟨hkind, timeline, hlatest, -⟩
    rw [latestTimeline_eq_none_iff.mpr (hs hkind)] at hlatest
    cases hlatest
  · push Not at hs
    obtain ⟨rfl, event, hevent, hheads⟩ := hs
    have hplain : ∀ e ∈ events, e.plainSelector? ≠ some s := fun e he hselector =>
      hheads (h e he s hselector event hevent)
    have hsurvives : ¬SelectorSurvives .produced s events := fun hsurvives =>
      hheads (h.heads_eq_false hsurvives event hevent)
    have hget : (ofEvents events).dynamicRules.get? s =
        (latestTimeline s events).bind Definition.dynamicBlock? :=
      (houses_foldl_record hplain).dynamicRules
    rw [or_iff_right hsurvives, RuleSet.mem_selectors_iff, rulesOf, hget]
    simp [Option.bind_eq_none_iff, ← Definition.isSome_dynamicBlock?_iff, Option.isSome_iff_ne_none]

/-- The fixed keyframes have the headings whose latest block declares something and has no produced
value. -/
lemma mem_selectors_staticKeyframes_iff :
    s ∈ (ofEvents events).staticKeyframes.selectors ↔
      ∃ timeline, latestTimeline s events = some timeline ∧
        timeline.declarations ≠ [] ∧ ¬timeline.ProducesValue := by
  rw [RuleSet.mem_selectors_iff, ofEvents, get?_staticKeyframes_foldl_record]
  simp only [← staticBlock?_ne_none_iff]
  simp [Option.bind_eq_none_iff]

end Compilation

end Contents

/-! ### Places of selectors and headings -/

/-- The last block of a heading is event number `i`, and its timeline satisfies `p`. -/
def HeadingAt (p : Definition P → Prop) (events : List (Event P)) (heading : String) (i : Nat) :
    Prop :=
  ∃ timeline, LastBlockAt heading timeline events i ∧ p timeline

/-- The place of a selector in the rule set of a kind. A selector that survives has the place where
it last came to survive. Among the dynamic rules, the heading of a keyframes block has the place of
its last block, if this has a produced value. -/
def StandsAt (kind : Kind) (events : List (Event P)) (selector : String) (i : Nat) : Prop :=
  EnteredAt (SelectorSurvives kind selector) events i ∨
    kind = .produced ∧ HeadingAt Definition.ProducesValue events selector i

section Places

variable {kind : Kind} {s : String} {p : Definition P → Prop} {events : List (Event P)}
  {event : Event P} {i : Nat}

lemma HeadingAt.lt (h : HeadingAt p events s i) : i < events.length := by
  obtain ⟨timeline, hlast, -⟩ := h
  exact hlast.lt

/-- An event that is no block with a heading does not move it. -/
lemma HeadingAt.of_concat (h : HeadingAt p (events ++ [event]) s i)
    (hheads : event.heads s = false) : HeadingAt p events s i := by
  obtain ⟨timeline, hlast, hp⟩ := h
  rcases lastBlockAt_concat.mp hlast with ⟨-, hunder⟩ | ⟨-, hlast⟩
  · rw [Event.heads_of_timelineUnder? hunder] at hheads
    cases hheads
  · exact ⟨timeline, hlast, hp⟩

/-- A block with a heading gives it its own place. -/
lemma HeadingAt.eq_length (h : HeadingAt p (events ++ [event]) s i)
    (hheads : event.heads s = true) : i = events.length := by
  obtain ⟨timeline, hlast, -⟩ := h
  rcases lastBlockAt_concat.mp hlast with ⟨hi, -⟩ | ⟨hother, -⟩
  · exact hi
  · rw [hheads] at hother
    cases hother

lemma exists_headingAt_iff : (∃ i, HeadingAt p events s i) ↔
    ∃ timeline, latestTimeline s events = some timeline ∧ p timeline := by
  simp only [HeadingAt, ← exists_lastBlockAt_iff]
  constructor
  · rintro ⟨i, timeline, hlast, hp⟩
    exact ⟨timeline, ⟨i, hlast⟩, hp⟩
  · rintro ⟨timeline, ⟨i, hlast⟩, hp⟩
    exact ⟨i, timeline, hlast, hp⟩

lemma StandsAt.lt (h : StandsAt kind events s i) : i < events.length := by
  rcases h with hentered | ⟨-, hheading⟩
  · exact hentered.lt
  · exact hheading.lt

/-- A selector or heading is in the rule set of a kind if and only if it has a place there. -/
lemma mem_selectors_iff_standsAt (h : Apart events) :
    s ∈ ((Compilation.ofEvents events).rulesOf kind).selectors ↔ ∃ i, StandsAt kind events s i := by
  simp only [StandsAt, exists_or, exists_and_left, exists_headingAt_iff,
    exists_enteredAt_iff not_selectorSurvives_nil]
  exact Compilation.mem_selectors_iff h

/-- What is in a rule set already is not moved by an event that is no block with its heading. -/
lemma StandsAt.of_concat (h : StandsAt kind (events ++ [event]) s i)
    (hapart : Apart (events ++ [event]))
    (hmem : s ∈ ((Compilation.ofEvents events).rulesOf kind).selectors)
    (hheads : kind = .produced → event.heads s = false) : StandsAt kind events s i := by
  rcases h with hentered | ⟨hkind, hheading⟩
  · -- a selector that survives is no heading, so it has survived before
    have hnone : latestTimeline s events = none := latestTimeline_eq_none_iff.mpr fun e he =>
      hapart.heads_eq_false hentered.holds e (List.mem_append_left _ he)
    have hbefore : SelectorSurvives kind s events := by
      refine ((Compilation.mem_selectors_iff hapart.of_append).mp hmem).resolve_right ?_
      rintro ⟨-, timeline, hlatest, -⟩
      rw [hnone] at hlatest
      cases hlatest
    exact Or.inl (hentered.of_concat hbefore)
  · exact Or.inr ⟨hkind, hheading.of_concat (hheads hkind)⟩

/-- What is new in a rule set, or is a heading with a new block, has the last place. -/
lemma StandsAt.eq_length (h : StandsAt kind (events ++ [event]) s i)
    (hapart : Apart (events ++ [event]))
    (hnew : s ∉ ((Compilation.ofEvents events).rulesOf kind).selectors ∨ event.heads s = true) :
    i = events.length := by
  rcases h with hentered | ⟨hkind, hheading⟩
  · have hheads : event.heads s = false :=
      hapart.heads_eq_false hentered.holds event (by simp)
    have hnotmem := hnew.resolve_right (Bool.eq_false_iff.mp hheads)
    exact hentered.eq_length fun hsurvives =>
      hnotmem ((Compilation.mem_selectors_iff hapart.of_append).mpr (Or.inl hsurvives))
  · cases hheads : event.heads s with
    | true => exact hheading.eq_length hheads
    | false =>
      have hnotmem := hnew.resolve_right (Bool.eq_false_iff.mp hheads)
      exact absurd ((mem_selectors_iff_standsAt hapart.of_append).mpr
        ⟨i, Or.inr ⟨hkind, hheading.of_concat hheads⟩⟩) hnotmem

end Places

/-! ### The order of a compilation -/

namespace Compilation

variable {events : List (Event P)}

/-- The selectors and headings in the rule set of a kind stand in order of their places. -/
lemma increasing_selectors (h : Apart events) (kind : Kind) :
    Increasing (StandsAt kind events) ((ofEvents events).rulesOf kind).selectors := by
  induction events using List.reverseRecOn with
  | nil => cases kind <;> exact .nil
  | append_singleton events event ih =>
    have hbefore := ih h.of_append
    rw [ofEvents_concat]
    rcases event.declaresAs_or_block with
      ⟨kind', selector, property, value, hdeclares⟩ | ⟨parent, name, timeline, rfl⟩
    · have hplace : ∀ a ∈ ((ofEvents events).rulesOf kind).selectors, ∀ i,
          StandsAt kind (events ++ [event]) a i → StandsAt kind events a i :=
        fun a ha i hi => hi.of_concat h ha fun _ => hdeclares.heads_eq_false a
      rw [hdeclares.rulesOf_record]
      split
      · rw [RuleSet.selectors_insert]
        exact (hbefore.keep (List.Sublist.refl _) hplace).insert
          (fun a ha i hi => (hplace a ha i hi).lt)
          fun hnew j hj => hj.eq_length h (Or.inl hnew)
      · have hsublist := RuleSet.selectors_erase_sublist ((ofEvents events).rulesOf kind) selector
          property
        exact hbefore.keep hsublist fun a ha => hplace a (hsublist.subset ha)
    · cases kind with
      | fixed =>
        have hsame : ((ofEvents events).record (.keyframes parent name timeline)).rulesOf .fixed =
            (ofEvents events).rulesOf .fixed := staticRules_record_keyframes ..
        rw [hsame]
        exact hbefore.keep (List.Sublist.refl _) fun a ha i hi => hi.of_concat h ha nofun
      | produced =>
        have hselectors := selectors_dynamicRules_record_keyframes (ofEvents events) parent name
          timeline
        rw [rulesOf, hselectors]
        refine hbefore.replace (fun a _ i hi => hi.lt) (fun a ha hne i hi => ?_)
          (fun j hj => hj.eq_length h (Or.inr (Event.heads_self ..))) _
        exact hi.of_concat h ha fun _ => by simpa [Event.heads] using hne.symm

/-- The headings among the fixed keyframes stand in order of their last blocks. -/
lemma increasing_staticKeyframes (p : Definition P → Prop) (events : List (Event P)) :
    Increasing (HeadingAt p events) (ofEvents events).staticKeyframes.selectors := by
  induction events using List.reverseRecOn with
  | nil => exact .nil
  | append_singleton events event ih =>
    rw [ofEvents_concat]
    rcases event.declaresAs_or_block with
      ⟨kind, selector, property, value, hdeclares⟩ | ⟨parent, name, timeline, rfl⟩
    · rw [hdeclares.staticKeyframes_record]
      exact ih.keep (List.Sublist.refl _) fun a _ i hi => hi.of_concat (hdeclares.heads_eq_false a)
    · rw [selectors_staticKeyframes_record_keyframes]
      refine ih.replace (fun a _ i hi => hi.lt) (fun a _ hne i hi => hi.of_concat ?_)
        (fun j hj => hj.eq_length (Event.heads_self ..)) _
      simpa [Event.heads] using hne.symm

/-- The properties of a selector in the rule set of a kind stand in order of the events with which
their pairs last came to survive. -/
lemma increasing_properties {kind : Kind} {s : String}
    (hs : kind = .produced → ∀ event ∈ events, event.heads s = false) :
    Increasing (fun p => EnteredAt (Survives kind s p) events)
      (((ofEvents events).rulesOf kind).properties s) := by
  induction events using List.reverseRecOn with
  | nil => cases kind <;> exact .nil
  | append_singleton events event ih =>
    have hs' : kind = .produced → ∀ e ∈ events, e.heads s = false :=
      fun hkind e he => hs hkind e (List.mem_append_left _ he)
    have hbefore := ih hs'
    have hmem : ∀ p, p ∈ ((ofEvents events).rulesOf kind).properties s ↔
        Survives kind s p events := fun p => mem_properties_iff_survives hs'
    have hplace : ∀ p ∈ ((ofEvents events).rulesOf kind).properties s, ∀ i,
        EnteredAt (Survives kind s p) (events ++ [event]) i →
          EnteredAt (Survives kind s p) events i :=
      fun p hp i hi => hi.of_concat ((hmem p).mp hp)
    have hkept := hbefore.keep (List.Sublist.refl _) hplace
    rw [ofEvents_concat]
    rcases event.declaresAs_or_block with
      ⟨kind', selector, property, value, hdeclares⟩ | ⟨parent, name, timeline, rfl⟩
    · rw [hdeclares.rulesOf_record]
      split
      · rw [RuleSet.properties_insert]
        split
        · exact hkept.insert (fun p hp i hi => (hplace p hp i hi).lt)
            fun hnew j hj => hj.eq_length (mt (hmem property).mpr hnew)
        · exact hkept
      · rw [RuleSet.properties_erase]
        split
        · exact hbefore.keep List.filter_sublist fun p hp =>
            hplace p (List.mem_filter.mp hp).1
        · exact hkept
    · have hname : kind = .produced → keyframesHeading name ≠ s := by
        intro hkind
        simpa [Event.heads] using hs hkind _ (List.mem_append_right _ List.mem_cons_self)
      rw [properties_record_keyframes _ parent timeline kind hname]
      exact hkept

/-- Everything in a compilation stands in order of its places in the list of events. -/
structure Standing (c : Compilation P) (events : List (Event P)) : Prop where
  /-- The rules of a kind have their selectors and headings in order. -/
  selectors : ∀ kind, ListedBy (StandsAt kind events) (c.rulesOf kind).selectors
  /-- The fixed keyframes have the headings whose last block declares something and has no produced
  value, in order of these blocks. -/
  headings : ListedBy
    (HeadingAt (fun timeline => timeline.declarations ≠ [] ∧ ¬timeline.ProducesValue) events)
    c.staticKeyframes.selectors
  /-- A selector that is no heading has its properties in order of the events with which their pairs
  last came to survive. -/
  properties : ∀ kind selector, (∀ event ∈ events, event.heads selector = false) →
    ListedBy (fun property => EnteredAt (Survives kind selector property) events)
      ((c.rulesOf kind).properties selector)
  /-- A heading has the block of its last timeline, with the offsets in order of first
  declaration. -/
  frames : ∀ heading timeline i block, LastBlockAt heading timeline events i →
    c.dynamicRules.get? heading = some block ∨ c.staticKeyframes.get? heading = some block →
      timeline.HasBlock block

/-- If plain selectors and headings are apart, a compilation is in order. -/
lemma standing_ofEvents (h : Apart events) : (ofEvents events).Standing events where
  selectors := fun kind =>
    ⟨fun _ => mem_selectors_iff_standsAt h, increasing_selectors h kind⟩
  headings := by
    refine ⟨fun heading => ?_, increasing_staticKeyframes _ events⟩
    rw [mem_selectors_staticKeyframes_iff, exists_headingAt_iff]
  properties := fun kind selector hselector => by
    refine ⟨fun property => ?_, increasing_properties fun _ => hselector⟩
    rw [mem_properties_iff_survives fun _ => hselector, exists_enteredAt_iff not_survives_nil]
  frames := fun heading timeline i block hlast hblock => by
    have hlatest : latestTimeline heading events = some timeline :=
      exists_lastBlockAt_iff.mp ⟨i, hlast⟩
    have hplain : ∀ event ∈ events, event.plainSelector? ≠ some heading := by
      intro event hevent hselector
      rw [latestTimeline_eq_none_iff.mpr (h event hevent heading hselector)] at hlatest
      cases hlatest
    have hhouses : (ofEvents events).Houses heading (some timeline) :=
      hlatest ▸ houses_foldl_record hplain
    rcases hblock with hblock | hblock
    · exact (Definition.of_dynamicBlock? (hhouses.dynamicRules.symm.trans hblock)).2
    · exact Definition.of_staticBlock? (hhouses.staticKeyframes.symm.trans hblock)

end Compilation

end Restyle
