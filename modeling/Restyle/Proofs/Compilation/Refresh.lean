import Restyle.Proofs.Compilation.Placement

/-!
# First and later compilation of one definition

A first compilation sorts declarations by kind and moves pairs between its rule sets; a later one
collects everything in a single rule set and takes from it the values of the pairs that it is given.
The two agree where they meet: refreshing the dynamic rules of a definition from that same
definition changes nothing, neither values nor order (`refresh_dynamicRules_compile`).

The one thing that could set them apart are plain declarations under the heading of a keyframes
block, which share the block with its frames. `Definition.SparesHeadings` excludes them.
-/

namespace Restyle

variable {P : Type}

/-! ### Compilations are well formed -/

namespace Compilation

/-- All three rule sets are well formed. -/
structure WellFormed (c : Compilation P) : Prop where
  /-- The fixed rules are well formed. -/
  staticRules : c.staticRules.WellFormed
  /-- The fixed keyframes are well formed. -/
  staticKeyframes : c.staticKeyframes.WellFormed
  /-- The dynamic rules are well formed. -/
  dynamicRules : c.dynamicRules.WellFormed

lemma WellFormed.record {c : Compilation P} (h : c.WellFormed) (event : Event P) :
    (c.record event).WellFormed := by
  cases event with
  | fixed s p value =>
    exact ⟨h.staticRules.insert s p _, h.staticKeyframes, h.dynamicRules.erase s p⟩
  | computed s p producer =>
    exact ⟨h.staticRules.erase s p, h.staticKeyframes, h.dynamicRules.insert s p _⟩
  | keyframes parent name timeline =>
    cases hd : timeline.isDynamicTimeline with
    | true =>
      rw [record_keyframes_of_dynamic c parent name hd]
      exact ⟨h.staticRules, h.staticKeyframes.eraseSelector _,
        (h.dynamicRules.eraseSelector _).insertAll _ _⟩
    | false =>
      rw [record_keyframes_of_static c parent name hd]
      exact ⟨h.staticRules, (h.staticKeyframes.eraseSelector _).insertAll _ _,
        h.dynamicRules.eraseSelector _⟩

lemma wellFormed_foldl_record (events : List (Event P)) :
    (events.foldl Compilation.record .empty).WellFormed :=
  List.foldlRecOn events _ ⟨.empty, .empty, .empty⟩ fun _ h event _ => h.record event

end Compilation

/-- No selector, no property and no offset of a compilation occurs twice, and no block is empty. -/
lemma wellFormed_compile (d : Definition P) (base : String) : (d.compile base).WellFormed :=
  Compilation.wellFormed_foldl_record (d.walk base)

/-! ### The two collections agree -/

/-- The selector of a plain declaration. -/
def Event.plainSelector? : Event P → Option String
  | .fixed selector _ _ => some selector
  | .computed selector _ _ => some selector
  | .keyframes _ _ _ => none

/-- No plain declaration has a selector that starts like the heading of a keyframes block. -/
def Definition.SparesHeadings (d : Definition P) (base : String) : Prop :=
  ∀ event ∈ d.walk base, ∀ selector, event.plainSelector? = some selector →
    isKeyframesHeading selector = false

/-- Whatever is among the dynamic rules of a compilation is also in a collection of everything:
under headings as whole blocks, elsewhere pair by pair. -/
structure Compilation.AgreesWith (c : Compilation P) (latest : RuleSet P) : Prop where
  /-- Blocks under headings are the same. -/
  block : ∀ heading block, isKeyframesHeading heading = true →
    c.dynamicRules.get? heading = some block → latest.get? heading = some block
  /-- Values under other selectors are the same. -/
  value : ∀ selector property value, isKeyframesHeading selector = false →
    c.dynamicRules.find? selector property = some value →
      latest.find? selector property = some value

namespace Compilation.AgreesWith

variable {c : Compilation P} {latest : RuleSet P}

/-- A plain declaration under a selector that is no heading is recorded by both sides alike,
provided the dynamic rules keep no other value of its pair. -/
lemma declare (h : c.AgreesWith latest) {c' : Compilation P} {selector property : String}
    {value : RuleValue P} (hselector : isKeyframesHeading selector = false)
    (hget : ∀ s, selector ≠ s → c'.dynamicRules.get? s = c.dynamicRules.get? s)
    (hfind : ∀ s p, ¬(selector = s ∧ property = p) →
      c'.dynamicRules.find? s p = c.dynamicRules.find? s p)
    (hpair : ∀ v, c'.dynamicRules.find? selector property = some v → v = value) :
    c'.AgreesWith (latest.insert selector property value) where
  block := fun heading block hheading hblock => by
    have hne : selector ≠ heading := fun heq => by simp [heq, hheading] at hselector
    rw [hget heading hne] at hblock
    rw [RuleSet.get?_insert, if_neg hne]
    exact h.block heading block hheading hblock
  value := fun s p v hs hv => by
    rw [RuleSet.find?_insert]
    by_cases hsp : selector = s ∧ property = p
    · obtain ⟨rfl, rfl⟩ := hsp
      rw [if_pos ⟨rfl, rfl⟩, hpair v hv]
    · rw [hfind s p hsp] at hv
      rw [if_neg hsp]
      exact h.value s p v hs hv

/-- A keyframes block replaces what both sides have under its heading. -/
lemma putFrames (h : c.AgreesWith latest) (parent name : String) (timeline : Definition P) :
    (c.record (.keyframes parent name timeline)).AgreesWith
      (latest.putFrames (keyframesHeading name) timeline) where
  block := fun heading block hheading hblock => by
    rw [RuleSet.get?_putFrames]
    cases hd : timeline.isDynamicTimeline with
    | true =>
      rw [record_keyframes_of_dynamic c parent name hd, RuleSet.get?_putFrames] at hblock
      split at hblock
      · rename_i hname
        rwa [if_pos hname]
      · rename_i hname
        rw [if_neg hname]
        exact h.block heading block hheading hblock
    | false =>
      rw [record_keyframes_of_static c parent name hd, RuleSet.get?_eraseSelector] at hblock
      split at hblock
      · cases hblock
      · rename_i hname
        rw [if_neg hname]
        exact h.block heading block hheading hblock
  value := fun s p v hs hv => by
    have hne : keyframesHeading name ≠ s := fun heq => by
      simp [← heq, isKeyframesHeading_keyframesHeading] at hs
    rw [find?_dynamicRules_record_keyframes c parent hne] at hv
    rw [RuleSet.find?_putFrames_of_ne hne]
    exact h.value s p v hs hv

/-- Both sides take one more event into account. -/
lemma record (h : c.AgreesWith latest) {event : Event P}
    (hevent : ∀ selector, event.plainSelector? = some selector →
      isKeyframesHeading selector = false) :
    (c.record event).AgreesWith (latest.recordLatest event) := by
  cases event with
  | fixed s p value =>
    refine h.declare (hevent s rfl) (fun _ hs => RuleSet.get?_erase_of_ne hs) (fun s' p' hsp => ?_)
      (fun v hv => ?_)
    · exact (RuleSet.find?_erase ..).trans (if_neg hsp)
    · simp [Compilation.record, RuleSet.find?_erase] at hv
  | computed s p producer =>
    refine h.declare (hevent s rfl) (fun _ hs => ?_) (fun s' p' hsp => ?_) (fun v hv => ?_)
    · exact (RuleSet.get?_insert ..).trans (if_neg hs)
    · exact (RuleSet.find?_insert ..).trans (if_neg hsp)
    · simpa [Compilation.record, RuleSet.find?_insert, eq_comm] using hv
  | keyframes parent name timeline => exact h.putFrames parent name timeline

lemma foldl_record (h : c.AgreesWith latest) {events : List (Event P)}
    (hevents : ∀ event ∈ events, ∀ selector, event.plainSelector? = some selector →
      isKeyframesHeading selector = false) :
    (events.foldl Compilation.record c).AgreesWith (events.foldl RuleSet.recordLatest latest) := by
  induction events generalizing c latest with
  | nil => exact h
  | cons event rest ih =>
    exact ih (h.record (hevents event List.mem_cons_self))
      fun e he => hevents e (List.mem_cons_of_mem _ he)

end Compilation.AgreesWith

lemma Compilation.AgreesWith.empty :
    (Compilation.empty : Compilation P).AgreesWith RuleSet.empty where
  block := fun _ _ _ hblock => by simp [Compilation.empty] at hblock
  value := fun _ _ _ _ hvalue => by simp [Compilation.empty] at hvalue

/-- The dynamic rules of a definition that spares headings are all among its latest declarations. -/
lemma agreesWith_latest {d : Definition P} {base : String} (h : d.SparesHeadings base) :
    (d.compile base).AgreesWith (d.latest base) :=
  Compilation.AgreesWith.empty.foldl_record h

/-! ### Refreshing from the same definition -/

/-- A block whose values are all the latest ones is refreshed to itself. -/
lemma refreshBlock_of_find? {latest : RuleSet P} {selector : String} {block : Declarations P}
    (hselector : isKeyframesHeading selector = false)
    (h : ∀ e ∈ block.entries, latest.find? selector e.1 = some e.2) :
    refreshBlock latest selector block = block.entries := by
  unfold refreshBlock
  cases hfresh : latest.get? selector with
  | none => rfl
  | some fresh =>
    simp only [hselector, Bool.false_eq_true, if_false]
    have hsame : ∀ e ∈ block.entries, (e.1, (fresh.get? e.1).getD e.2) = e := by
      intro e he
      have hfound : fresh.get? e.1 = some e.2 := by
        simpa [RuleSet.find?_eq, hfresh] using h e he
      rw [hfound, Option.getD_some]
    exact (List.map_congr_left hsame).trans (List.map_id _)

/-- A block under a heading is refreshed to the latest block there. -/
lemma refreshBlock_of_get? {latest : RuleSet P} {heading : String} {block : Declarations P}
    (hheading : isKeyframesHeading heading = true) (h : latest.get? heading = some block) :
    refreshBlock latest heading block = block.entries := by
  simp [refreshBlock, h, hheading]

/-- A later compilation of the definition that was compiled first gives its dynamic rules back. -/
lemma refresh_dynamicRules_compile {d : Definition P} {base : String}
    (h : d.SparesHeadings base) :
    (d.compile base).dynamicRules.refresh d base = (d.compile base).dynamicRules := by
  have hwell : (d.compile base).dynamicRules.WellFormed := (wellFormed_compile d base).dynamicRules
  have hagrees : (d.compile base).AgreesWith (d.latest base) := agreesWith_latest h
  have hsame : ∀ e ∈ (d.compile base).dynamicRules.blocks.entries,
      refreshBlock (d.latest base) e.1 e.2 = e.2.entries := by
    intro e he
    cases hheading : isKeyframesHeading e.1 with
    | true =>
      exact refreshBlock_of_get? hheading
        (hagrees.block e.1 e.2 hheading (hwell.distinct.get?_of_mem he))
    | false =>
      refine refreshBlock_of_find? hheading fun e' he' => ?_
      exact hagrees.value e.1 e'.1 e'.2 hheading (hwell.find?_of_mem he he')
  calc (d.compile base).dynamicRules.refresh d base
      = (d.compile base).dynamicRules.blocks.entries.foldl
          (fun rules e => rules.insertAll e.1 e.2.entries) .empty :=
        List.foldl_ext _ _ _ fun rules e he => by rw [hsame e he]
    _ = (d.compile base).dynamicRules := hwell.rebuild

end Restyle
