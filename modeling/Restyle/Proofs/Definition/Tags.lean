import Mathlib.Tactic.Lemma
import Restyle.Definition.Document
import Restyle.Proofs.OrderedMap

/-!
# Tags in a definition document

`Yaml.Value.bare` is a value without its tags. Below the root of a document tags count for nothing:
names, leaves and nested definitions are those of the bare value. A tag on the root does count. A
tagged mapping, and tagged null, is refused although the bare value is a definition, and this is the
only difference (`Definition.ofYaml_bare`).

Without their tags two keys of a mapping can be equal. Both pairs are kept in the bare value, and
loading leaves the name at its first place with its last value. To merge them in the document
(`Yaml.Value.merged`) comes to the same, with one exception. Keys can be different and have the same
text, as the number `1` and the text `"1"` have, and then it makes a difference which pair comes
last. `Yaml.Value.MergesCleanly` excludes this for mappings that repeat a key.
-/

namespace Restyle

variable {P : Type}

namespace Yaml.Value

/-! ### Values without tags -/

mutual

/-- The value without its tags, at any depth. -/
def bare : Yaml.Value → Yaml.Value
  | .null => .null
  | .bool b => .bool b
  | .number n => .number n
  | .string s => .string s
  | .sequence items => .sequence (bareItems items)
  | .mapping pairs => .mapping (barePairs pairs)
  | .tagged _ inner => inner.bare

/-- The items of a sequence without their tags. -/
def bareItems : List Yaml.Value → List Yaml.Value
  | [] => []
  | v :: rest => v.bare :: bareItems rest

/-- The pairs of a mapping without their tags. Keys that become equal are not merged. -/
def barePairs : List (Yaml.Value × Yaml.Value) → List (Yaml.Value × Yaml.Value)
  | [] => []
  | (key, v) :: rest => (key.bare, v.bare) :: barePairs rest

end

/-- A value keeps its name without its tags. -/
lemma name_bare : (v : Yaml.Value) → v.bare.name = v.name
  | .null | .bool _ | .number _ | .string _ | .sequence _ | .mapping _ => rfl
  | .tagged _ inner => name_bare inner

mutual

/-- A leaf keeps its value without its tags. -/
theorem leaf_bare : (v : Yaml.Value) → v.bare.leaf = v.leaf
  | .null | .bool _ | .number _ | .string _ | .mapping _ => rfl
  | .sequence items => by rw [bare, leaf, leaf, leafTexts_bareItems items]
  | .tagged _ inner => leaf_bare inner

/-- The items of a sequence keep their texts without their tags. -/
theorem leafTexts_bareItems : (items : List Yaml.Value) →
    leafTexts (bareItems items) = leafTexts items
  | [] => rfl
  | v :: rest => by rw [bareItems, leafTexts, leafTexts, leaf_bare v, leafTexts_bareItems rest]

end

mutual

/-- A value has the same entry without its tags. -/
theorem entry_bare : (v : Yaml.Value) → v.bare.entry = (v.entry : Entry P)
  | .null | .bool _ | .number _ | .string _ => rfl
  | .sequence items => congrArg Entry.fixed (leaf_bare (.sequence items))
  | .mapping pairs => by rw [bare, entry, entry, entries_barePairs pairs]
  | .tagged _ inner => entry_bare inner

/-- The pairs of a mapping give the same entries without their tags. -/
theorem entries_barePairs : (pairs : List (Yaml.Value × Yaml.Value)) →
    entries (barePairs pairs) = (entries pairs : List (String × Entry P))
  | [] => rfl
  | (key, v) :: rest => by
    rw [barePairs, entries, entries, name_bare key, entry_bare v, entries_barePairs rest]

end

/-! ### Tags on the root -/

/-- A value that is read as a definition: null or a mapping. -/
def IsDefinition (v : Yaml.Value) : Prop := v = .null ∨ ∃ pairs, v = .mapping pairs

/-- A definition with a tag of its own. -/
def HidesDefinition (v : Yaml.Value) : Prop :=
  ∃ tag inner, v = .tagged tag inner ∧ inner.untagged.IsDefinition

/-- What stands below the tags of a value decides whether the value without its tags is a
definition. -/
lemma isDefinition_bare_iff : (v : Yaml.Value) → (v.bare.IsDefinition ↔ v.untagged.IsDefinition)
  | .null | .bool _ | .number _ | .string _ => Iff.rfl
  | .sequence _ => by simp [bare, untagged, IsDefinition]
  | .mapping _ => by simp [bare, untagged, IsDefinition]
  | .tagged _ inner => isDefinition_bare_iff inner

/-- A definition is hidden exactly if the value is a definition without its tags only. -/
lemma hidesDefinition_iff (v : Yaml.Value) :
    v.HidesDefinition ↔ ¬ v.IsDefinition ∧ v.bare.IsDefinition := by
  rw [isDefinition_bare_iff]
  cases v <;> simp [HidesDefinition, IsDefinition, untagged]

/-! ### Merging equal keys -/

/-- Puts a pair into the pairs of a mapping: in the place of the pair that has an equal key, with
that key, else at the end. -/
def putPair (key v : Yaml.Value) :
    List (Yaml.Value × Yaml.Value) → List (Yaml.Value × Yaml.Value)
  | [] => [(key, v)]
  | (k, old) :: rest =>
    if k.sameKey key then (k, v) :: rest else (k, old) :: putPair key v rest

/-- The pairs of a mapping with equal keys merged: a key keeps its first place and takes its last
value. -/
def mergePairs (pairs : List (Yaml.Value × Yaml.Value)) : List (Yaml.Value × Yaml.Value) :=
  pairs.foldl (fun acc p => putPair p.1 p.2 acc) []

mutual

/-- The value with equal keys merged, at any depth. -/
def merged : Yaml.Value → Yaml.Value
  | .null => .null
  | .bool b => .bool b
  | .number n => .number n
  | .string s => .string s
  | .sequence items => .sequence (mergedItems items)
  | .mapping pairs => .mapping (mergePairs (mergedPairs pairs))
  | .tagged tag inner => .tagged tag inner.merged

/-- The items of a sequence with equal keys merged below them. -/
def mergedItems : List Yaml.Value → List Yaml.Value
  | [] => []
  | v :: rest => v.merged :: mergedItems rest

/-- The pairs of a mapping with equal keys merged below them. -/
def mergedPairs : List (Yaml.Value × Yaml.Value) → List (Yaml.Value × Yaml.Value)
  | [] => []
  | (key, v) :: rest => (key.merged, v.merged) :: mergedPairs rest

end

/-- No two keys of a mapping are equal, or they are equal exactly if they have the same text. -/
def KeysMergeCleanly (pairs : List (Yaml.Value × Yaml.Value)) : Prop :=
  (pairs.Pairwise fun p q => p.1.sameKey q.1 = false) ∨
    pairs.Pairwise fun p q => p.1.sameKey q.1 = true ↔ p.1.name = q.1.name

mutual

/-- The mapping and the mappings nested in it have keys that merge cleanly. -/
def MergesCleanly : Yaml.Value → Prop
  | .mapping pairs => KeysMergeCleanly (mergedPairs pairs) ∧ PairsMergeCleanly pairs
  | .tagged _ inner => inner.MergesCleanly
  | .null | .bool _ | .number _ | .string _ | .sequence _ => True

/-- The mappings nested in the pairs of a mapping have keys that merge cleanly. -/
def PairsMergeCleanly : List (Yaml.Value × Yaml.Value) → Prop
  | [] => True
  | (_, v) :: rest => v.MergesCleanly ∧ PairsMergeCleanly rest

end

/-- The entries of a mapping one by one. -/
lemma entries_eq_map (pairs : List (Yaml.Value × Yaml.Value)) :
    entries pairs = pairs.map fun p => (p.1.name, (p.2.entry : Entry P)) := by
  induction pairs with
  | nil => rfl
  | cons p rest ih => rw [entries, ih, List.map_cons]

lemma mergePairs_concat (pairs : List (Yaml.Value × Yaml.Value)) (p : Yaml.Value × Yaml.Value) :
    mergePairs (pairs ++ [p]) = putPair p.1 p.2 (mergePairs pairs) := List.foldl_concat ..

/-- A new key is put at the end. -/
lemma putPair_of_new {pairs : List (Yaml.Value × Yaml.Value)} {key : Yaml.Value}
    (h : ∀ p ∈ pairs, p.1.sameKey key = false) (v : Yaml.Value) :
    putPair key v pairs = pairs ++ [(key, v)] := by
  induction pairs with
  | nil => rfl
  | cons p rest ih =>
    have hp : ¬ p.1.sameKey key = true := Bool.eq_false_iff.mp (h p List.mem_cons_self)
    rw [putPair, if_neg hp, ih fun q hq => h q (List.mem_cons_of_mem _ hq), List.cons_append]

/-- If equal keys are the keys with the same text, to put a pair is to insert its entry. -/
lemma entries_putPair {pairs : List (Yaml.Value × Yaml.Value)} {key : Yaml.Value}
    (h : ∀ p ∈ pairs, p.1.sameKey key = true ↔ p.1.name = key.name) (v : Yaml.Value) :
    entries (putPair key v pairs) =
      OrderedMap.insertEntry key.name (v.entry : Entry P) (entries pairs) := by
  induction pairs with
  | nil => rfl
  | cons p rest ih =>
    have hp := h p List.mem_cons_self
    rw [putPair, entries, OrderedMap.insertEntry]
    by_cases hsame : p.1.sameKey key = true
    · rw [if_pos hsame, if_pos (hp.mp hsame), entries, hp.mp hsame]
    · rw [if_neg hsame, if_neg (mt hp.mpr hsame), entries,
        ih fun q hq => h q (List.mem_cons_of_mem _ hq)]

/-- Putting a pair brings in no other key. -/
lemma mem_keys_putPair {pairs : List (Yaml.Value × Yaml.Value)} {key v : Yaml.Value}
    {p : Yaml.Value × Yaml.Value} (h : p ∈ putPair key v pairs) :
    p.1 = key ∨ ∃ q ∈ pairs, q.1 = p.1 := by
  induction pairs with
  | nil =>
    obtain rfl := List.mem_singleton.mp h
    exact Or.inl rfl
  | cons q rest ih =>
    rw [putPair] at h
    split at h
    · rcases List.mem_cons.mp h with rfl | hrest
      · exact Or.inr ⟨q, List.mem_cons_self, rfl⟩
      · exact Or.inr ⟨p, List.mem_cons_of_mem _ hrest, rfl⟩
    · rcases List.mem_cons.mp h with rfl | hrest
      · exact Or.inr ⟨q, List.mem_cons_self, rfl⟩
      · refine (ih hrest).imp_right fun ⟨r, hr, heq⟩ => ?_
        exact ⟨r, List.mem_cons_of_mem _ hr, heq⟩

/-- Merging brings in no key. -/
lemma mem_keys_mergePairs {pairs : List (Yaml.Value × Yaml.Value)} {p : Yaml.Value × Yaml.Value}
    (h : p ∈ mergePairs pairs) : ∃ q ∈ pairs, q.1 = p.1 := by
  induction pairs using List.reverseRecOn generalizing p with
  | nil => cases h
  | append_singleton pairs last ih =>
    rw [mergePairs_concat] at h
    rcases mem_keys_putPair h with hlast | ⟨q, hq, heq⟩
    · exact ⟨last, by simp, hlast.symm⟩
    · obtain ⟨r, hr, heq'⟩ := ih hq
      exact ⟨r, List.mem_append_left _ hr, heq'.trans heq⟩

/-- Where no two keys are equal there is nothing to merge. -/
lemma mergePairs_of_pairwise {pairs : List (Yaml.Value × Yaml.Value)}
    (h : pairs.Pairwise fun p q => p.1.sameKey q.1 = false) : mergePairs pairs = pairs := by
  induction pairs using List.reverseRecOn with
  | nil => rfl
  | append_singleton pairs last ih =>
    obtain ⟨hpairs, -, hlast⟩ := List.pairwise_append.mp h
    rw [mergePairs_concat, ih hpairs]
    exact putPair_of_new (fun p hp => hlast p hp last (List.mem_singleton_self _)) _

/-- Where equal keys are the keys with the same text, merging does what insertion into a map does.
-/
lemma entries_mergePairs {pairs : List (Yaml.Value × Yaml.Value)}
    (h : pairs.Pairwise fun p q => p.1.sameKey q.1 = true ↔ p.1.name = q.1.name) :
    entries (mergePairs pairs) =
      (OrderedMap.ofList (entries pairs : List (String × Entry P))).entries := by
  induction pairs using List.reverseRecOn with
  | nil => rfl
  | append_singleton pairs last ih =>
    obtain ⟨hpairs, -, hlast⟩ := List.pairwise_append.mp h
    have hkeys : ∀ p ∈ mergePairs pairs,
        p.1.sameKey last.1 = true ↔ p.1.name = last.1.name := by
      intro p hp
      obtain ⟨q, hq, heq⟩ := mem_keys_mergePairs hp
      rw [← heq]
      exact hlast q hq last (List.mem_singleton_self _)
    rw [mergePairs_concat, entries_putPair hkeys, ih hpairs, entries_eq_map (pairs ++ [last]),
      List.map_append, ← entries_eq_map, List.map_singleton, OrderedMap.ofList_concat]
    rfl

/-- Merging keys that merge cleanly does not change the definition. -/
lemma ofList_entries_mergePairs {pairs : List (Yaml.Value × Yaml.Value)}
    (h : KeysMergeCleanly pairs) :
    OrderedMap.ofList (entries (mergePairs pairs)) =
      (OrderedMap.ofList (entries pairs) : Definition P) := by
  rcases h with hnone | hsame
  · rw [mergePairs_of_pairwise hnone]
  · rw [entries_mergePairs hsame]
    exact (OrderedMap.distinct_empty.insertAll _).ofList_entries

/-- A value keeps its name when keys are merged. -/
lemma name_merged : (v : Yaml.Value) → v.merged.name = v.name
  | .null | .bool _ | .number _ | .string _ | .sequence _ | .mapping _ => rfl
  | .tagged _ inner => name_merged inner

mutual

/-- A leaf keeps its value when keys are merged. -/
theorem leaf_merged : (v : Yaml.Value) → v.merged.leaf = v.leaf
  | .null | .bool _ | .number _ | .string _ | .mapping _ => rfl
  | .sequence items => by rw [merged, leaf, leaf, leafTexts_mergedItems items]
  | .tagged _ inner => leaf_merged inner

/-- The items of a sequence keep their texts when keys are merged. -/
theorem leafTexts_mergedItems : (items : List Yaml.Value) →
    leafTexts (mergedItems items) = leafTexts items
  | [] => rfl
  | v :: rest => by
    rw [mergedItems, leafTexts, leafTexts, leaf_merged v, leafTexts_mergedItems rest]

end

mutual

/-- A value keeps its entry when keys are merged cleanly. -/
theorem entry_merged : (v : Yaml.Value) → v.MergesCleanly → v.merged.entry = (v.entry : Entry P)
  | .null, _ | .bool _, _ | .number _, _ | .string _, _ => rfl
  | .sequence items, _ => congrArg Entry.fixed (leaf_merged (.sequence items))
  | .mapping pairs, h => by
    rw [merged, entry, entry, ofList_entries_mergePairs h.1, entries_mergedPairs pairs h.2]
  | .tagged _ inner, h => entry_merged inner h

/-- The pairs of a mapping keep their entries when keys are merged cleanly below them. -/
theorem entries_mergedPairs : (pairs : List (Yaml.Value × Yaml.Value)) →
    PairsMergeCleanly pairs →
      entries (mergedPairs pairs) = (entries pairs : List (String × Entry P))
  | [], _ => rfl
  | (key, v) :: rest, h => by
    rw [mergedPairs, entries, entries, name_merged key, entry_merged v h.1,
      entries_mergedPairs rest h.2]

end

end Yaml.Value

namespace Definition

open Yaml.Value (IsDefinition HidesDefinition MergesCleanly)

/-- A definition document loads. -/
lemma exists_ofYaml {v : Yaml.Value} (h : v.IsDefinition) :
    ∃ d, ofYaml v = (.ok d : Except StyleError (Definition P)) := by
  obtain rfl | ⟨pairs, rfl⟩ := h
  · exact ⟨_, rfl⟩
  · exact ⟨_, rfl⟩

/-- Any other document is refused under its name. -/
lemma ofYaml_of_not_isDefinition {v : Yaml.Value} (h : ¬ v.IsDefinition) :
    ofYaml v = (.error (.parse (.notAMapping v.name)) : Except StyleError (Definition P)) := by
  cases v with
  | null => exact absurd (Or.inl rfl) h
  | mapping pairs => exact absurd (Or.inr ⟨pairs, rfl⟩) h
  | bool _ | number _ | string _ | sequence _ | tagged _ _ => rfl

/-- A document that is a definition loads in the same way without its tags. -/
lemma ofYaml_bare_of_isDefinition {v : Yaml.Value} (h : v.IsDefinition) :
    ofYaml v.bare = (ofYaml v : Except StyleError (Definition P)) := by
  obtain rfl | ⟨pairs, rfl⟩ := h
  · rfl
  · rw [Yaml.Value.bare, ofYaml, ofYaml, Yaml.Value.entries_barePairs]

/-- A document loads in the same way when keys are merged cleanly. -/
lemma ofYaml_merged {v : Yaml.Value} (h : v.MergesCleanly) :
    ofYaml v.merged = (ofYaml v : Except StyleError (Definition P)) := by
  cases v with
  | null | bool _ | number _ | string _ | sequence _ => rfl
  | mapping pairs =>
    rw [Yaml.Value.merged, ofYaml, ofYaml, Yaml.Value.ofList_entries_mergePairs h.1,
      Yaml.Value.entries_mergedPairs pairs h.2]
  | tagged tag inner =>
    exact congrArg (fun name => Except.error (StyleError.parse (.notAMapping name)))
      (Yaml.Value.name_merged (.tagged tag inner))

-- Keys that are not equal and have one text do not merge cleanly if another key repeats one of
-- them.
example (a b c : String) :
    let v : Yaml.Value := .mapping [(.number (.whole 1), .string a), (.string "1", .string b),
      (.number (.whole 1), .string c)]
    ofYaml v = (.ok ⟨[("1", .fixed (.text c))]⟩ : Except StyleError (Definition P)) ∧
      ofYaml v.merged = (.ok ⟨[("1", .fixed (.text b))]⟩ : Except StyleError (Definition P)) :=
  ⟨rfl, rfl⟩

/-- A document loads as it does without its tags, to the same definition or with the same refusal,
except if it is a definition below a tag of its own. Then it is refused under the name of that
definition, which loads.

Where keys that are equal without their tags merge cleanly, it makes no difference whether they are
merged before. -/
theorem ofYaml_bare (v : Yaml.Value) :
    (ofYaml v.bare = (ofYaml v : Except StyleError (Definition P)) ↔ ¬ v.HidesDefinition) ∧
    (v.HidesDefinition →
      ofYaml v = (.error (.parse (.notAMapping v.name)) : Except StyleError (Definition P)) ∧
      ∃ d, ofYaml v.bare = (.ok d : Except StyleError (Definition P))) ∧
    (v.bare.MergesCleanly →
      ofYaml v.bare.merged = (ofYaml v.bare : Except StyleError (Definition P))) := by
  have hrefused : v.HidesDefinition →
      ofYaml v = (.error (.parse (.notAMapping v.name)) : Except StyleError (Definition P)) ∧
      ∃ d, ofYaml v.bare = (.ok d : Except StyleError (Definition P)) := by
    intro hhides
    obtain ⟨hnot, hbare⟩ := v.hidesDefinition_iff.mp hhides
    exact ⟨ofYaml_of_not_isDefinition hnot, exists_ofYaml hbare⟩
  refine ⟨⟨?_, ?_⟩, hrefused, ofYaml_merged⟩
  · intro heq hhides
    obtain ⟨herror, d, hok⟩ := hrefused hhides
    rw [herror, hok] at heq
    cases heq
  · intro hhides
    by_cases hdef : v.IsDefinition
    · exact ofYaml_bare_of_isDefinition hdef
    · have hbare : ¬ v.bare.IsDefinition := fun hbare =>
        hhides (v.hidesDefinition_iff.mpr ⟨hdef, hbare⟩)
      rw [ofYaml_of_not_isDefinition hdef, ofYaml_of_not_isDefinition hbare,
        Yaml.Value.name_bare]

/-- A tagged mapping of two names that differ in a tag only. -/
def taggedTwice : Yaml.Value :=
  .tagged "!theme" (.mapping [(.string "color", .string "red"),
    (.tagged "!last" (.string "color"), .string "blue")])

/-- The tagged mapping is refused, and would have loaded without its tags, merged or not. -/
theorem ofYaml_bare_taggedTwice :
    taggedTwice.HidesDefinition ∧ taggedTwice.bare.MergesCleanly ∧
      ofYaml taggedTwice =
        (.error (.parse (.notAMapping "a mapping")) : Except StyleError (Definition Unit)) ∧
      (∃ d, ofYaml taggedTwice.bare = (.ok d : Except StyleError (Definition Unit))) ∧
      ofYaml taggedTwice.bare.merged =
        (ofYaml taggedTwice.bare : Except StyleError (Definition Unit)) := by
  have hhides : taggedTwice.HidesDefinition := ⟨_, _, rfl, Or.inr ⟨_, rfl⟩⟩
  have hclean : taggedTwice.bare.MergesCleanly := by
    refine ⟨Or.inr ?_, trivial, trivial, trivial⟩
    simp [Yaml.Value.barePairs, Yaml.Value.bare, Yaml.Value.mergedPairs, Yaml.Value.merged,
      Yaml.Value.sameKey, Yaml.Value.name]
  obtain ⟨-, hrefused, hmerged⟩ := ofYaml_bare (P := Unit) taggedTwice
  obtain ⟨herror, hloads⟩ := hrefused hhides
  exact ⟨hhides, hclean, herror, hloads, hmerged hclean⟩

/-- A tag on the root is not looked through. -/
theorem not_transparent_taggedTwice :
    ofYaml taggedTwice =
        (.error (.parse (.notAMapping "a mapping")) : Except StyleError (Definition Unit)) ∧
      ofYaml taggedTwice.bare =
        (.ok ⟨[("color", .fixed (.text "blue"))]⟩ : Except StyleError (Definition Unit)) :=
  ⟨rfl, rfl⟩

end Definition

end Restyle
