import Restyle.Proofs.Compilation.Standing

/-!
# The order of compiled rule sets

Where everything stands in the rule sets of a compilation, for a definition whose plain selectors
are not headings of keyframes blocks (`order_compile`). There are three statements. Everything
stands in order of its places (`Compilation.Standing`). A declaration that repeats another one with
the same kind of value moves nothing, neither when it is made nor through anything that comes after
it (`Compilation.SameNames`). And if no pair is declared with both kinds and no heading has two
blocks, then nothing is ever taken out, and all names stand in the order in which a walk meets them
first (`Compilation.FirstSeen`).
-/

namespace Restyle

variable {P : Type}

/-! ### Declaring again -/

namespace Compilation

/-- Two compilations have the same names in the same order, in each rule set. -/
structure SameNames (c c' : Compilation P) : Prop where
  /-- The names in the fixed rules are the same. -/
  staticRules : c.staticRules.SameNames c'.staticRules
  /-- The names in the fixed keyframes are the same. -/
  staticKeyframes : c.staticKeyframes.SameNames c'.staticKeyframes
  /-- The names in the dynamic rules are the same. -/
  dynamicRules : c.dynamicRules.SameNames c'.dynamicRules

/-- An event does the same to the names, whatever the values are. -/
lemma SameNames.record {c c' : Compilation P} (h : c.SameNames c') (event : Event P) :
    (c.record event).SameNames (c'.record event) := by
  cases event with
  | fixed s p value =>
    exact ⟨h.staticRules.insert s p _, h.staticKeyframes, h.dynamicRules.erase s p⟩
  | computed s p producer =>
    exact ⟨h.staticRules.erase s p, h.staticKeyframes, h.dynamicRules.insert s p _⟩
  | keyframes parent name timeline =>
    cases hd : timeline.isDynamicTimeline with
    | true =>
      rw [record_keyframes_of_dynamic c parent name hd,
        record_keyframes_of_dynamic c' parent name hd]
      exact ⟨h.staticRules, h.staticKeyframes.eraseSelector _,
        (h.dynamicRules.eraseSelector _).insertAll _ _⟩
    | false =>
      rw [record_keyframes_of_static c parent name hd,
        record_keyframes_of_static c' parent name hd]
      exact ⟨h.staticRules, (h.staticKeyframes.eraseSelector _).insertAll _ _,
        h.dynamicRules.eraseSelector _⟩

lemma SameNames.foldl_record {c c' : Compilation P} (h : c.SameNames c')
    (events : List (Event P)) :
    (events.foldl Compilation.record c).SameNames (events.foldl Compilation.record c') := by
  induction events generalizing c c' with
  | nil => exact h
  | cons event rest ih => exact ih (h.record event)

end Compilation

section Redeclare

variable {kind : Kind} {selector property : String} {value : RuleValue P}
  {events earlier later : List (Event P)} {event : Event P}

/-- A pair does not survive with two kinds. -/
lemma Survives.kind_unique {kind' : Kind} (h : Survives kind selector property events)
    (h' : Survives kind' selector property events) : kind = kind' := by
  obtain ⟨event, value, hlatest, hdeclares⟩ := h
  obtain ⟨event', value', hlatest', hdeclares'⟩ := h'
  obtain rfl := Option.some.inj (hlatest.symm.trans hlatest')
  cases hdeclares <;> cases hdeclares' <;> rfl

/-- A pair that survives with a kind is declared with this kind. -/
lemma Survives.exists_declaresAs (h : Survives kind selector property events) :
    ∃ event ∈ events, ∃ value, event.DeclaresAs kind selector property value := by
  obtain ⟨event, value, hlatest, hdeclares⟩ := h
  exact ⟨event, (of_latestDeclaration hlatest).1, value, hdeclares⟩

namespace Compilation

/-- A pair that does not survive with a kind can be removed from the rules of the kind without a
change. -/
lemma erase_of_not_survives (hheads : ∀ e ∈ events, e.heads selector = false)
    (h : ¬Survives kind selector property events) :
    ((ofEvents events).rulesOf kind).erase selector property = (ofEvents events).rulesOf kind :=
  ((wellFormed_ofEvents events).rulesOf kind).erase_of_notMem
    (mt (mem_properties_iff_survives fun _ => hheads).mp h)

/-- Declaring a pair again with the kind that it survives with moves nothing. -/
lemma sameNames_record (h : Apart events)
    (hdeclares : event.DeclaresAs kind selector property value)
    (hsurvives : Survives kind selector property events) :
    ((ofEvents events).record event).SameNames (ofEvents events) := by
  have hheads : ∀ e ∈ events, e.heads selector = false := h.heads_eq_false ⟨property, hsurvives⟩
  have hrules : ∀ kind', (((ofEvents events).record event).rulesOf kind').SameNames
      ((ofEvents events).rulesOf kind') := by
    intro kind'
    rw [hdeclares.rulesOf_record]
    split
    · rename_i hkind
      subst hkind
      have hproperty := (mem_properties_iff_survives fun _ => hheads).mpr hsurvives
      exact RuleSet.sameNames_insert _ _
        (((wellFormed_ofEvents events).rulesOf _).mem_selectors_iff_properties.mpr
          ⟨property, hproperty⟩) hproperty
    · rename_i hkind
      rw [erase_of_not_survives hheads fun hother => hkind (hother.kind_unique hsurvives)]
      exact .refl _
  refine ⟨hrules .fixed, ?_, hrules .produced⟩
  rw [hdeclares.staticKeyframes_record]
  exact .refl _

/-- A declaration that repeats an earlier one with the same kind could be left out: all names would
stand where they stand. -/
lemma sameNames_redeclared (h : Apart earlier)
    (hdeclares : event.DeclaresAs kind selector property value)
    (hsurvives : Survives kind selector property earlier) (later : List (Event P)) :
    (ofEvents (earlier ++ event :: later)).SameNames (ofEvents (earlier ++ later)) := by
  rw [ofEvents, ofEvents, List.foldl_append, List.foldl_append, List.foldl_cons]
  exact (sameNames_record h hdeclares hsurvives).foldl_record later

end Compilation

end Redeclare

/-! ### First-seen order -/

/-- The name that an event puts into the rule set of a kind: the selector of a declaration, or the
heading of a block with a produced value. -/
def Event.nameIn? (kind : Kind) : Event P → Option String
  | .fixed selector _ _ => if kind = .fixed then some selector else none
  | .computed selector _ _ => if kind = .produced then some selector else none
  | .keyframes _ name timeline =>
    if kind = .produced ∧ timeline.dynamicBlock?.isSome then some (keyframesHeading name) else none

/-- The heading that an event puts into the fixed keyframes. -/
def Event.headingIn? : Event P → Option String
  | .keyframes _ name timeline =>
    if timeline.staticBlock?.isSome then some (keyframesHeading name) else none
  | _ => none

/-- The property that an event declares under a selector with a value of a kind. -/
def Event.propertyIn? (kind : Kind) (selector : String) : Event P → Option String
  | .fixed s property _ => if kind = .fixed ∧ s = selector then some property else none
  | .computed s property _ => if kind = .produced ∧ s = selector then some property else none
  | .keyframes _ _ _ => none

/-- All names stand in the order in which the events bring them first. -/
structure Compilation.FirstSeen (c : Compilation P) (events : List (Event P)) : Prop where
  /-- The selectors and headings in the rules of a kind. -/
  selectors : ∀ kind,
    (c.rulesOf kind).selectors = (events.filterMap (Event.nameIn? kind)).eraseDups
  /-- The headings in the fixed keyframes. -/
  headings : c.staticKeyframes.selectors = (events.filterMap Event.headingIn?).eraseDups
  /-- The properties of a selector that is no heading. -/
  properties : ∀ kind selector, (∀ event ∈ events, event.heads selector = false) →
    (c.rulesOf kind).properties selector =
      (events.filterMap (Event.propertyIn? kind selector)).eraseDups

/-- No pair is declared with values of both kinds. -/
def OneKind (events : List (Event P)) : Prop :=
  ∀ event ∈ events, ∀ event' ∈ events, ∀ kind kind' selector property value value',
    event.DeclaresAs kind selector property value →
      event'.DeclaresAs kind' selector property value' → kind = kind'

/-- No heading has two keyframes blocks. -/
def OneBlock (events : List (Event P)) : Prop :=
  events.Pairwise fun event event' => ∀ heading, event.heads heading = true →
    event'.heads heading = false

/-- One more event brings nothing. -/
lemma eraseDups_filterMap_concat_of_none {f : Event P → Option String} (events : List (Event P))
    {event : Event P} (h : f event = none) :
    ((events ++ [event]).filterMap f).eraseDups = (events.filterMap f).eraseDups := by
  rw [List.filterMap_append, List.filterMap_cons_none h, List.filterMap_nil, List.append_nil]

/-- One more event brings a name, which goes to the end if it has not been brought before. -/
lemma eraseDups_filterMap_concat_of_some {f : Event P → Option String} (events : List (Event P))
    {event : Event P} {name : String} (h : f event = some name) :
    ((events ++ [event]).filterMap f).eraseDups =
      if name ∈ (events.filterMap f).eraseDups then (events.filterMap f).eraseDups
      else (events.filterMap f).eraseDups ++ [name] := by
  rw [List.filterMap_append, List.filterMap_cons_some h, List.filterMap_nil,
    OrderedMap.eraseDups_concat]
  simp only [List.mem_eraseDups]

namespace Event.DeclaresAs

variable {event : Event P} {kind : Kind} {selector property : String} {value : RuleValue P}

lemma nameIn?_eq (h : event.DeclaresAs kind selector property value) (kind' : Kind) :
    event.nameIn? kind' = if kind' = kind then some selector else none := by
  cases h <;> rfl

lemma headingIn?_eq (h : event.DeclaresAs kind selector property value) :
    event.headingIn? = none := by
  cases h <;> rfl

lemma propertyIn?_eq (h : event.DeclaresAs kind selector property value) (kind' : Kind)
    (s : String) :
    event.propertyIn? kind' s = if kind' = kind ∧ selector = s then some property else none := by
  cases h <;> rfl

end Event.DeclaresAs

namespace Compilation.FirstSeen

variable {events : List (Event P)} {event : Event P}

/-- A plain declaration keeps the order if its pair is not declared with the other kind. -/
lemma declare (h : (ofEvents events).FirstSeen events) {kind : Kind} {selector property : String}
    {value : RuleValue P} (hdeclares : event.DeclaresAs kind selector property value)
    (hheads : ∀ e ∈ events, e.heads selector = false)
    (hkind : ∀ kind', Survives kind' selector property events → kind' = kind) :
    ((ofEvents events).record event).FirstSeen (events ++ [event]) := by
  have hrules : ∀ kind', ((ofEvents events).record event).rulesOf kind' =
      if kind' = kind then ((ofEvents events).rulesOf kind').insert selector property value
      else (ofEvents events).rulesOf kind' := by
    intro kind'
    rw [hdeclares.rulesOf_record]
    split
    · rfl
    · rename_i hne
      exact erase_of_not_survives hheads fun hsurvives => hne (hkind kind' hsurvives)
  refine ⟨fun kind' => ?_, ?_, fun kind' s hs => ?_⟩
  · have hname := hdeclares.nameIn?_eq kind'
    rw [hrules]
    split
    · rename_i hsame
      rw [if_pos hsame] at hname
      rw [RuleSet.selectors_insert, eraseDups_filterMap_concat_of_some events hname, h.selectors]
    · rename_i hne
      rw [if_neg hne] at hname
      rw [eraseDups_filterMap_concat_of_none events hname, h.selectors]
  · rw [hdeclares.staticKeyframes_record, h.headings,
      eraseDups_filterMap_concat_of_none events hdeclares.headingIn?_eq]
  · have hbefore := h.properties kind' s fun e he => hs e (List.mem_append_left _ he)
    have hname := hdeclares.propertyIn?_eq kind' s
    rw [hrules]
    by_cases hpair : kind' = kind ∧ selector = s
    · rw [if_pos hpair] at hname
      rw [if_pos hpair.1, RuleSet.properties_insert, if_pos hpair.2,
        eraseDups_filterMap_concat_of_some events hname, hbefore]
    · rw [if_neg hpair] at hname
      rw [eraseDups_filterMap_concat_of_none events hname, ← hbefore]
      split
      · rename_i hsame
        rw [RuleSet.properties_insert, if_neg fun heq => hpair ⟨hsame, heq⟩]
      · rfl

/-- A keyframes block keeps the order if its heading is in none of the rule sets. -/
lemma putFrames (h : (ofEvents events).FirstSeen events) (parent name : String)
    (timeline : Definition P)
    (hdynamic : keyframesHeading name ∉ (ofEvents events).dynamicRules.selectors)
    (hstatic : keyframesHeading name ∉ (ofEvents events).staticKeyframes.selectors) :
    ((ofEvents events).record (.keyframes parent name timeline)).FirstSeen
      (events ++ [.keyframes parent name timeline]) := by
  refine ⟨fun kind => ?_, ?_, fun kind s hs => ?_⟩
  · cases kind with
    | fixed =>
      rw [eraseDups_filterMap_concat_of_none events rfl, ← h.selectors]
      exact congrArg RuleSet.selectors (staticRules_record_keyframes ..)
    | produced =>
      have hbefore : (ofEvents events).dynamicRules.selectors = _ := h.selectors .produced
      rw [rulesOf, selectors_dynamicRules_record_keyframes,
        RuleSet.filter_selectors_of_notMem hdynamic]
      cases hblock : timeline.dynamicBlock?.isSome with
      | true =>
        rw [eraseDups_filterMap_concat_of_some events (if_pos ⟨rfl, hblock⟩), ← hbefore,
          if_neg hdynamic]
        rfl
      | false =>
        rw [eraseDups_filterMap_concat_of_none events (if_neg (by simp [hblock])), ← hbefore]
        exact List.append_nil _
  · rw [selectors_staticKeyframes_record_keyframes, RuleSet.filter_selectors_of_notMem hstatic]
    cases hblock : timeline.staticBlock?.isSome with
    | true =>
      rw [eraseDups_filterMap_concat_of_some events (if_pos hblock), ← h.headings, if_neg hstatic]
      rfl
    | false =>
      rw [eraseDups_filterMap_concat_of_none events (if_neg (by simp [hblock])), ← h.headings]
      exact List.append_nil _
  · have hname : keyframesHeading name ≠ s := by
      simpa [Event.heads] using hs _ (List.mem_append_right _ List.mem_cons_self)
    rw [properties_record_keyframes _ parent timeline kind fun _ => hname,
      eraseDups_filterMap_concat_of_none events rfl]
    exact h.properties kind s fun e he => hs e (List.mem_append_left _ he)

end Compilation.FirstSeen

/-- If plain selectors and headings are apart, no pair is declared with both kinds and no heading
has two blocks, then all names stand in first-seen order. -/
lemma firstSeen_ofEvents {events : List (Event P)} (hapart : Apart events)
    (hkind : OneKind events) (hblock : OneBlock events) :
    (Compilation.ofEvents events).FirstSeen events := by
  induction events using List.reverseRecOn with
  | nil =>
    refine ⟨fun kind => ?_, rfl, fun kind s _ => ?_⟩
    · cases kind <;> rfl
    · cases kind <;> rfl
  | append_singleton events event ih =>
    obtain ⟨hblock, -, hlast⟩ := List.pairwise_append.mp hblock
    have hbefore := ih hapart.of_append
      (fun e he e' he' => hkind e (List.mem_append_left _ he) e' (List.mem_append_left _ he'))
      hblock
    rw [Compilation.ofEvents_concat]
    rcases event.declaresAs_or_block with
      ⟨kind, selector, property, value, hdeclares⟩ | ⟨parent, name, timeline, rfl⟩
    · refine hbefore.declare hdeclares (fun e he => ?_) fun kind' hsurvives => ?_
      · exact hapart event (by simp) selector hdeclares.plainSelector?_eq e
          (List.mem_append_left _ he)
      · obtain ⟨e, he, value', hdeclares'⟩ := hsurvives.exists_declaresAs
        exact hkind e (List.mem_append_left _ he) event (by simp) kind' kind selector property
          value' value hdeclares' hdeclares
    · -- a block with the heading is an earlier one, and a declaration under it is not apart
      have hnone : latestTimeline (keyframesHeading name) events = none := by
        refine latestTimeline_eq_none_iff.mpr fun e he => Bool.eq_false_iff.mpr fun hheads => ?_
        have hother := hlast e he _ List.mem_cons_self _ hheads
        rw [Event.heads_self] at hother
        cases hother
      refine hbefore.putFrames parent name timeline (fun hmem => ?_) fun hmem => ?_
      · have hmem : keyframesHeading name ∈
            ((Compilation.ofEvents events).rulesOf .produced).selectors := hmem
        rcases (Compilation.mem_selectors_iff hapart.of_append).mp hmem with
          hsurvives | ⟨-, timeline', hlatest, -⟩
        · obtain ⟨e, he, hselector⟩ := hsurvives.exists_plain
          have hheads := hapart e (List.mem_append_left _ he) _ hselector
            (.keyframes parent name timeline) (by simp)
          rw [Event.heads_self] at hheads
          cases hheads
        · rw [hnone] at hlatest
          cases hlatest
      · obtain ⟨timeline', hlatest, -⟩ :=
          Compilation.mem_selectors_staticKeyframes_iff.mp hmem
        rw [hnone] at hlatest
        cases hlatest

/-! ### The order of a definition -/

/-- Suppose that no plain selector of a definition is the heading of one of its keyframes blocks.
Then everything in its compilation stands in order of its places in the walk. At any point of the
walk, a declaration that repeats another one with the same kind of value moves nothing, then and
ever after. And if no pair is declared with both kinds and no heading has two blocks, all names
stand in first-seen order. -/
theorem order_compile (d : Definition P) (base : String) (h : Apart (d.walk base)) :
    (d.compile base).Standing (d.walk base) ∧
    (∀ earlier event later kind selector property value,
      earlier ++ event :: later <+: d.walk base →
      event.DeclaresAs kind selector property value → Survives kind selector property earlier →
        (Compilation.ofEvents (earlier ++ event :: later)).SameNames
          (Compilation.ofEvents (earlier ++ later))) ∧
    (OneKind (d.walk base) → OneBlock (d.walk base) →
      (d.compile base).FirstSeen (d.walk base)) := by
  refine ⟨Compilation.standing_ofEvents h, ?_, firstSeen_ofEvents h⟩
  intro earlier event later kind selector property value hprefix hdeclares hsurvives
  obtain ⟨rest, hwalk⟩ := hprefix
  rw [← hwalk] at h
  exact Compilation.sameNames_redeclared h.of_append.of_append hdeclares hsurvives later

/-- A definition that declares one pair with a fixed value, then with a produced one, and then with
a fixed one again, with other rules in between. -/
def wavering : Definition Unit :=
  ⟨[("color", .fixed (.text "red")),
    ("=.B", .nested ⟨[("top", .fixed (.text "0"))]⟩),
    ("@spin", .nested ⟨[("from", .nested ⟨[("opacity", .computed ())]⟩)]⟩),
    ("=.A", .nested ⟨[("color", .computed ())]⟩),
    ("div", .nested ⟨[("=.A", .nested ⟨[("color", .fixed (.text "blue"))]⟩)]⟩)]⟩

/-- The selector of the pair that `wavering` declares three times comes in again behind the other
one, and leaves the heading alone among the dynamic rules. -/
theorem order_compile_wavering :
    Apart (wavering.walk ".A") ∧
    (wavering.compile ".A").Standing (wavering.walk ".A") ∧
    (wavering.compile ".A").staticRules.selectors = [".B", ".A"] ∧
    (wavering.compile ".A").dynamicRules.selectors = ["@keyframes spin"] := by
  have hwalk : wavering.walk ".A" =
      [.fixed ".A" "color" (.text "red"), .fixed ".B" "top" (.text "0"),
        .keyframes ".A" "@spin" ⟨[("from", .nested ⟨[("opacity", .computed ())]⟩)]⟩,
        .computed ".A" "color" (), .fixed ".A" "color" (.text "blue")] := rfl
  have hspares : wavering.SparesHeadings ".A" := by
    intro event hevent selector hselector
    rw [hwalk] at hevent
    simp only [List.mem_cons, List.not_mem_nil, or_false] at hevent
    rcases hevent with rfl | rfl | rfl | rfl | rfl <;> cases hselector <;> decide
  have hapart : Apart (wavering.walk ".A") := hspares.apart
  exact ⟨hapart, (order_compile wavering ".A" hapart).1, rfl, rfl⟩

end Restyle
