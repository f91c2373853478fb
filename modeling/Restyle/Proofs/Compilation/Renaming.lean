import Restyle.Proofs.Compilation.Placement
import Restyle.Proofs.Walk.Sites

/-!
# Renaming selectors

Rule sets look at selectors only to tell whether two of them are the same. Hence a compilation whose
selectors are renamed is the compilation of renamed events, provided that the renaming keeps apart
what was apart. `Event.subject` is the selector or the heading under which an event is recorded, and
`Compilation.renamed_record` is the step for one event: it asks that the renaming tells its subject
from everything that is recorded already.
-/

universe u

namespace Restyle

variable {P : Type}

/-! ### Renaming the keys of an ordered map -/

namespace OrderedMap

variable {α : Type u} {m : OrderedMap α} {key k : String} {f : String → String}

/-- Renames every key. -/
def renameKeys (f : String → String) (m : OrderedMap α) : OrderedMap α :=
  ⟨m.entries.map fun e => (f e.1, e.2)⟩

/-- A renaming tells a key from all others that a map has. -/
def Tells (f : String → String) (m : OrderedMap α) (key : String) : Prop :=
  ∀ k ∈ m.keys, f k = f key → k = key

/-- Behind the first entry a key is told from fewer keys. -/
lemma Tells.tail {e : String × α} {rest : List (String × α)} (h : Tells f ⟨e :: rest⟩ key) :
    Tells f ⟨rest⟩ key :=
  fun k hk => h k (List.mem_cons_of_mem _ hk)

/-- The first entry has a renamed key exactly if it had the key before. -/
lemma Tells.head_iff {e : String × α} {rest : List (String × α)} (h : Tells f ⟨e :: rest⟩ key) :
    f e.1 = f key ↔ e.1 = key :=
  ⟨h e.1 List.mem_cons_self, congrArg f⟩

lemma get?_renameKeys (h : Tells f m key) : (m.renameKeys f).get? (f key) = m.get? key := by
  obtain ⟨entries⟩ := m
  change lookupEntry (f key) (entries.map fun e => (f e.1, e.2)) = lookupEntry key entries
  induction entries with
  | nil => rfl
  | cons e rest ih => simp only [List.map_cons, lookupEntry, h.head_iff, ih h.tail]

lemma renameKeys_insert (h : Tells f m key) (value : α) :
    (m.insert key value).renameKeys f = (m.renameKeys f).insert (f key) value := by
  obtain ⟨entries⟩ := m
  change mk ((insertEntry key value entries).map fun e => (f e.1, e.2)) =
    mk (insertEntry (f key) value (entries.map fun e => (f e.1, e.2)))
  congr 1
  induction entries with
  | nil => rfl
  | cons e rest ih =>
    simp only [List.map_cons, insertEntry, h.head_iff]
    split
    · rfl
    · rw [List.map_cons, ih h.tail]

lemma renameKeys_erase (h : Tells f m key) :
    (m.erase key).renameKeys f = (m.renameKeys f).erase (f key) := by
  unfold renameKeys erase
  rw [List.filter_map]
  congr 2
  refine List.filter_congr fun e he => ?_
  have hkey : f e.1 = f key ↔ e.1 = key :=
    ⟨h e.1 (List.mem_map_of_mem he), congrArg f⟩
  simp [hkey]

/-- Insertion adds no other key. -/
lemma mem_keys_insert {value : α} (h : k ∈ (m.insert key value).keys) : k = key ∨ k ∈ m.keys := by
  rw [keys_insert] at h
  split at h
  · exact Or.inr h
  · simpa [or_comm] using h

/-- Erasure adds no key. -/
lemma mem_keys_erase (h : k ∈ (m.erase key).keys) : k ∈ m.keys := by
  rw [keys_erase] at h
  exact (List.mem_filter.mp h).1

end OrderedMap

/-! ### Renaming the selectors of a rule set -/

namespace RuleSet

variable {rules : RuleSet P} {selector s : String} {f : String → String}

/-- Renames every selector. -/
def renamed (f : String → String) (rules : RuleSet P) : RuleSet P := ⟨rules.blocks.renameKeys f⟩

lemma get?_renamed (h : rules.blocks.Tells f selector) :
    (rules.renamed f).get? (f selector) = rules.get? selector :=
  OrderedMap.get?_renameKeys h

lemma renamed_eraseSelector (h : rules.blocks.Tells f selector) :
    (rules.eraseSelector selector).renamed f = (rules.renamed f).eraseSelector (f selector) :=
  congrArg mk (OrderedMap.renameKeys_erase h)

lemma renamed_insertAll (h : rules.blocks.Tells f selector)
    (entries : List (String × RuleValue P)) :
    (rules.insertAll selector entries).renamed f =
      (rules.renamed f).insertAll (f selector) entries := by
  by_cases hentries : entries = []
  · subst hentries
    rfl
  · rw [insertAll_eq _ _ hentries, insertAll_eq _ _ hentries, get?_renamed h]
    exact congrArg mk (OrderedMap.renameKeys_insert h _)

lemma renamed_insert (h : rules.blocks.Tells f selector) (property : String)
    (value : RuleValue P) :
    (rules.insert selector property value).renamed f =
      (rules.renamed f).insert (f selector) property value :=
  renamed_insertAll h [(property, value)]

lemma renamed_erase (h : rules.blocks.Tells f selector) (property : String) :
    (rules.erase selector property).renamed f =
      (rules.renamed f).erase (f selector) property := by
  unfold erase
  rw [get?_renamed h]
  cases rules.get? selector with
  | none => rfl
  | some block =>
    simp only
    split
    · exact renamed_eraseSelector h
    · exact congrArg mk (OrderedMap.renameKeys_insert h _)

lemma renamed_putFrames (h : rules.blocks.Tells f selector) (timeline : Definition P) :
    (rules.putFrames selector timeline).renamed f =
      (rules.renamed f).putFrames (f selector) timeline := by
  have htells : (rules.eraseSelector selector).blocks.Tells f selector :=
    fun s hs => h s (OrderedMap.mem_keys_erase hs)
  unfold putFrames
  rw [renamed_insertAll htells, renamed_eraseSelector h]

/-! ### The selectors that a rule set may have -/

/-- All selectors satisfy `K`. -/
def Within (K : String → Prop) (rules : RuleSet P) : Prop := ∀ s ∈ rules.blocks.keys, K s

variable {K : String → Prop}

lemma Within.empty : (RuleSet.empty : RuleSet P).Within K := nofun

lemma Within.eraseSelector (h : rules.Within K) (selector : String) :
    (rules.eraseSelector selector).Within K :=
  fun s hs => h s (OrderedMap.mem_keys_erase hs)

lemma Within.insertAll (h : rules.Within K) (hselector : K selector)
    (entries : List (String × RuleValue P)) : (rules.insertAll selector entries).Within K := by
  by_cases hentries : entries = []
  · subst hentries
    exact h
  · rw [insertAll_eq _ _ hentries]
    intro s hs
    rcases OrderedMap.mem_keys_insert hs with rfl | hold
    · exact hselector
    · exact h s hold

lemma Within.erase (h : rules.Within K) (selector property : String) :
    (rules.erase selector property).Within K := by
  obtain ⟨-, heq⟩ | ⟨block, hblock, ⟨-, heq⟩ | ⟨-, heq⟩⟩ := erase_cases rules selector property
  · rw [heq]
    exact h
  · rw [heq]
    exact h.eraseSelector selector
  · rw [heq]
    have hselector : selector ∈ rules.blocks.keys :=
      List.mem_map_of_mem (OrderedMap.mem_entries_of_get? hblock)
    intro s hs
    rcases OrderedMap.mem_keys_insert hs with rfl | hold
    · exact h s hselector
    · exact h s hold

end RuleSet

/-! ### Renaming what a compilation has recorded -/

/-- The selector or the heading under which an event is recorded. -/
def Event.subject : Event P → String
  | .fixed selector _ _ => selector
  | .computed selector _ _ => selector
  | .keyframes _ name _ => keyframesHeading name

namespace Compilation

variable {c : Compilation P} {f : String → String} {K : String → Prop}

/-- Renames the selectors of all three rule sets. -/
def renamed (f : String → String) (c : Compilation P) : Compilation P where
  staticRules := c.staticRules.renamed f
  staticKeyframes := c.staticKeyframes.renamed f
  dynamicRules := c.dynamicRules.renamed f

/-- All selectors of all three rule sets satisfy `K`. -/
structure Within (K : String → Prop) (c : Compilation P) : Prop where
  /-- Those of the fixed rules do. -/
  staticRules : c.staticRules.Within K
  /-- Those of the fixed keyframes do. -/
  staticKeyframes : c.staticKeyframes.Within K
  /-- Those of the dynamic rules do. -/
  dynamicRules : c.dynamicRules.Within K

/-- An event adds no selector but its subject. -/
lemma Within.record (h : c.Within K) {event : Event P} (hevent : K event.subject) :
    (c.record event).Within K := by
  cases event with
  | fixed s p value =>
    exact ⟨h.staticRules.insertAll hevent [(p, .fixed value)], h.staticKeyframes,
      h.dynamicRules.erase s p⟩
  | computed s p producer =>
    exact ⟨h.staticRules.erase s p, h.staticKeyframes,
      h.dynamicRules.insertAll hevent [(p, .computed producer)]⟩
  | keyframes parent name timeline =>
    cases hd : timeline.isDynamicTimeline with
    | true =>
      rw [record_keyframes_of_dynamic c parent name hd]
      exact ⟨h.staticRules, h.staticKeyframes.eraseSelector _,
        (h.dynamicRules.eraseSelector _).insertAll hevent _⟩
    | false =>
      rw [record_keyframes_of_static c parent name hd]
      exact ⟨h.staticRules, (h.staticKeyframes.eraseSelector _).insertAll hevent _,
        h.dynamicRules.eraseSelector _⟩

/-- A compilation has no selectors but the subjects of the events. -/
lemma within_foldl_record {events : List (Event P)} (h : ∀ event ∈ events, K event.subject) :
    (events.foldl Compilation.record .empty).Within K :=
  List.foldlRecOn events _ ⟨.empty, .empty, .empty⟩ fun _ hc event hevent =>
    hc.record (h event hevent)

/-- Recording an event and renaming comes to the same as renaming and recording the renamed event,
if the renaming tells the subject of the event from all that is recorded already. -/
lemma renamed_record {event event' : Event P}
    (hc : c.Within fun s => f s = f event.subject → s = event.subject)
    (hcontent : ∃ other, event' = event.under other) (hsubject : event'.subject = f event.subject) :
    (c.record event).renamed f = (c.renamed f).record event' := by
  obtain ⟨other, rfl⟩ := hcontent
  cases event with
  | fixed s p value =>
    obtain rfl : other = f s := hsubject
    have hstatic : (c.staticRules.insert s p (.fixed value)).renamed f =
        (c.staticRules.renamed f).insert (f s) p (.fixed value) :=
      RuleSet.renamed_insert hc.staticRules p _
    have hdynamic : (c.dynamicRules.erase s p).renamed f =
        (c.dynamicRules.renamed f).erase (f s) p :=
      RuleSet.renamed_erase hc.dynamicRules p
    simp only [Event.under, record, renamed, hstatic, hdynamic]
  | computed s p producer =>
    obtain rfl : other = f s := hsubject
    have hstatic : (c.staticRules.erase s p).renamed f = (c.staticRules.renamed f).erase (f s) p :=
      RuleSet.renamed_erase hc.staticRules p
    have hdynamic : (c.dynamicRules.insert s p (.computed producer)).renamed f =
        (c.dynamicRules.renamed f).insert (f s) p (.computed producer) :=
      RuleSet.renamed_insert hc.dynamicRules p _
    simp only [Event.under, record, renamed, hstatic, hdynamic]
  | keyframes parent name timeline =>
    have hheading : f (keyframesHeading name) = keyframesHeading name := hsubject.symm
    change (c.record _).renamed f = (c.renamed f).record (.keyframes other name timeline)
    cases hd : timeline.isDynamicTimeline with
    | true =>
      rw [record_keyframes_of_dynamic _ _ _ hd, record_keyframes_of_dynamic _ _ _ hd]
      have hkeyframes := RuleSet.renamed_eraseSelector hc.staticKeyframes
      have hdynamic := RuleSet.renamed_putFrames hc.dynamicRules timeline
      simp only [Event.subject, hheading] at hkeyframes hdynamic
      unfold renamed
      simp only [hkeyframes, hdynamic]
    | false =>
      rw [record_keyframes_of_static _ _ _ hd, record_keyframes_of_static _ _ _ hd]
      have hkeyframes := RuleSet.renamed_putFrames hc.staticKeyframes timeline
      have hdynamic := RuleSet.renamed_eraseSelector hc.dynamicRules
      simp only [Event.subject, hheading] at hkeyframes hdynamic
      unfold renamed
      simp only [hkeyframes, hdynamic]

end Compilation

end Restyle
