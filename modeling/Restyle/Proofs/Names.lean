import Restyle.Proofs.RuleSet

/-!
# The names in a rule set

A rule set lists its selectors in order, and each of its blocks lists its properties in order. What
the operations do to these lists does not depend on the values: a declaration appends a name that is
not there yet and leaves the list as it is otherwise, and a removal takes one name out of its place.
Rule sets with the same names in the same order therefore stay so under every operation
(`RuleSet.SameNames`).
-/

namespace Restyle

variable {P : Type}

namespace RuleSet

variable {rules : RuleSet P} {selector property : String}

/-- The selectors of a rule set are those with a block. -/
lemma mem_selectors_iff : selector ∈ rules.selectors ↔ rules.get? selector ≠ none := by
  rw [Ne, get?, OrderedMap.get?_eq_none_iff, not_not]
  rfl

/-- The properties of a selector in order; there are none if it has no block. -/
def properties (rules : RuleSet P) (selector : String) : List String :=
  ((rules.get? selector).getD .empty).keys

/-- The properties of a selector are those that have a value. -/
lemma mem_properties_iff :
    property ∈ rules.properties selector ↔ rules.find? selector property ≠ none := by
  rw [properties, find?_eq]
  cases rules.get? selector with
  | none => simp
  | some block =>
    rw [Option.getD_some, Option.bind_some, Ne, OrderedMap.get?_eq_none_iff, not_not]

/-- The properties of a selector are those of its block. -/
lemma properties_eq {block : Declarations P} (h : rules.get? selector = some block) :
    rules.properties selector = block.keys := by
  rw [properties, h, Option.getD_some]

/-- Selectors with the same block have the same properties. -/
lemma properties_congr {rules' : RuleSet P} (h : rules.get? selector = rules'.get? selector) :
    rules.properties selector = rules'.properties selector := by
  rw [properties, h, properties]

/-! ### Declarations -/

/-- A declaration appends its selector if this is new. -/
lemma selectors_insert (rules : RuleSet P) (selector property : String) (value : RuleValue P) :
    (rules.insert selector property value).selectors =
      if selector ∈ rules.selectors then rules.selectors else rules.selectors ++ [selector] :=
  OrderedMap.keys_insert ..

/-- A declaration appends its property to those of its selector if it is new there. -/
lemma properties_insert (rules : RuleSet P) (selector property : String) (value : RuleValue P)
    (s : String) :
    (rules.insert selector property value).properties s =
      if selector = s then
        if property ∈ rules.properties s then rules.properties s
        else rules.properties s ++ [property]
      else rules.properties s := by
  by_cases h : selector = s
  · subst h
    rw [properties, get?_insert, if_pos rfl, Option.getD_some, OrderedMap.keys_insert, if_pos rfl]
    rfl
  · rw [if_neg h]
    exact properties_congr ((get?_insert ..).trans (if_neg h))

/-- After a declaration a selector has the declared property too. -/
lemma mem_properties_insert {value : RuleValue P} {s p : String} :
    p ∈ (rules.insert selector property value).properties s ↔
      (selector = s ∧ property = p) ∨ p ∈ rules.properties s := by
  rw [mem_properties_iff, find?_insert, mem_properties_iff]
  split <;> simp [*]

/-! ### Removals -/

/-- Removing a selector that is not there changes nothing. -/
lemma eraseSelector_of_notMem (h : selector ∉ rules.selectors) :
    rules.eraseSelector selector = rules := congrArg mk (OrderedMap.erase_of_notMem h)

/-- A removed selector goes from its place. -/
lemma selectors_eraseSelector (rules : RuleSet P) (selector : String) :
    (rules.eraseSelector selector).selectors = rules.selectors.filter fun s => s ≠ selector :=
  OrderedMap.keys_erase ..

/-- There is nothing to take out where the selector is not there. -/
lemma filter_selectors_of_notMem (h : selector ∉ rules.selectors) :
    (rules.selectors.filter fun s => s ≠ selector) = rules.selectors := by
  rw [← selectors_eraseSelector, eraseSelector_of_notMem h]

/-- A removed selector has no properties. -/
lemma properties_eraseSelector (rules : RuleSet P) (selector s : String) :
    (rules.eraseSelector selector).properties s =
      if selector = s then [] else rules.properties s := by
  rw [properties, get?_eraseSelector]
  split
  · rfl
  · rfl

/-- A removed property goes from its place. -/
lemma properties_erase (rules : RuleSet P) (selector property s : String) :
    (rules.erase selector property).properties s =
      if selector = s then (rules.properties s).filter fun p => p ≠ property
      else rules.properties s := by
  by_cases hs : selector = s
  swap
  · rw [if_neg hs]
    exact properties_congr (get?_erase_of_ne hs)
  subst hs
  rw [if_pos rfl]
  obtain ⟨hnone, heq⟩ | ⟨block, hblock, ⟨hrest, heq⟩ | ⟨hrest, heq⟩⟩ :=
    erase_cases rules selector property
  · rw [heq, properties, hnone]
    rfl
  · rw [heq, properties_eraseSelector, if_pos rfl, properties_eq hblock, ← OrderedMap.keys_erase,
      hrest, OrderedMap.keys_empty]
  · have hget : RuleSet.get? ⟨rules.blocks.insert selector (block.erase property)⟩ selector =
        some (block.erase property) := OrderedMap.get?_insert_self
    rw [heq, properties_eq hget, properties_eq hblock, OrderedMap.keys_erase]

/-- After a removal a selector does not have the removed property. -/
lemma mem_properties_erase {s p : String} :
    p ∈ (rules.erase selector property).properties s ↔
      ¬(selector = s ∧ property = p) ∧ p ∈ rules.properties s := by
  rw [mem_properties_iff, find?_erase, mem_properties_iff]
  split <;> simp [*]

/-- With its last property a selector goes from its place; the others stay. -/
lemma selectors_erase (rules : RuleSet P) (selector property : String) :
    (rules.erase selector property).selectors =
      if ((rules.properties selector).filter fun p => p ≠ property) = [] then
        rules.selectors.filter fun s => s ≠ selector
      else rules.selectors := by
  obtain ⟨hnone, heq⟩ | ⟨block, hblock, ⟨hrest, heq⟩ | ⟨hrest, heq⟩⟩ :=
    erase_cases rules selector property
  · have hnew : selector ∉ rules.selectors := OrderedMap.get?_eq_none_iff.mp hnone
    rw [heq, filter_selectors_of_notMem hnew, ite_self]
  · rw [heq, properties_eq hblock, ← OrderedMap.keys_erase, hrest, OrderedMap.keys_empty,
      if_pos rfl, selectors_eraseSelector]
  · have hkeys : (block.erase property).keys ≠ [] := fun hnil =>
      hrest (OrderedMap.isEmpty_iff.mp (List.isEmpty_iff.mpr (List.map_eq_nil_iff.mp hnil)))
    have hmem : selector ∈ rules.selectors := mem_selectors_iff.mpr (by simp [hblock])
    rw [heq, properties_eq hblock, ← OrderedMap.keys_erase, if_neg hkeys]
    exact (OrderedMap.keys_insert ..).trans (if_pos hmem)

/-- A removal brings no selector in and keeps the order of the others. -/
lemma selectors_erase_sublist (rules : RuleSet P) (selector property : String) :
    (rules.erase selector property).selectors.Sublist rules.selectors := by
  rw [selectors_erase]
  split
  · exact List.filter_sublist
  · exact List.Sublist.refl _

/-- The selectors of a well-formed rule set are those with a property. -/
lemma WellFormed.mem_selectors_iff_properties (h : rules.WellFormed) :
    selector ∈ rules.selectors ↔ ∃ property, property ∈ rules.properties selector := by
  simp only [mem_properties_iff]
  rw [RuleSet.mem_selectors_iff, h.get?_ne_none_iff]

/-- Removing what is not there changes nothing. -/
lemma WellFormed.erase_of_notMem (h : rules.WellFormed)
    (hproperty : property ∉ rules.properties selector) :
    rules.erase selector property = rules := by
  cases hblock : rules.get? selector with
  | none => rw [RuleSet.erase, hblock]
  | some block =>
    rw [properties_eq hblock] at hproperty
    have hsame : block.erase property = block := OrderedMap.erase_of_notMem hproperty
    have hempty : block.isEmpty = false := Bool.eq_false_iff.mpr fun hnil =>
      h.block_nonempty _ (OrderedMap.mem_entries_of_get? hblock) (OrderedMap.isEmpty_iff.mp hnil)
    simp only [RuleSet.erase, hblock, hsame, hempty, Bool.false_eq_true, if_false]
    exact congrArg RuleSet.mk (OrderedMap.insert_of_get? hblock)

/-! ### The same names -/

/-- Two rule sets have the same selectors in the same order, and each selector has the same
properties in the same order. -/
structure SameNames (x y : RuleSet P) : Prop where
  /-- The selectors are the same. -/
  selectors : x.selectors = y.selectors
  /-- The properties of each selector are the same. -/
  properties : ∀ s, x.properties s = y.properties s

namespace SameNames

variable {x y : RuleSet P}

lemma refl (x : RuleSet P) : x.SameNames x := ⟨rfl, fun _ => rfl⟩

/-- A declaration does the same to the names, whatever the values are. -/
lemma insert (h : x.SameNames y) (selector property : String) (value : RuleValue P) :
    (x.insert selector property value).SameNames (y.insert selector property value) where
  selectors := by rw [selectors_insert, selectors_insert, h.selectors]
  properties := fun s => by rw [properties_insert, properties_insert, h.properties]

lemma erase (h : x.SameNames y) (selector property : String) :
    (x.erase selector property).SameNames (y.erase selector property) where
  selectors := by rw [selectors_erase, selectors_erase, h.selectors, h.properties]
  properties := fun s => by rw [properties_erase, properties_erase, h.properties]

lemma eraseSelector (h : x.SameNames y) (selector : String) :
    (x.eraseSelector selector).SameNames (y.eraseSelector selector) where
  selectors := by rw [selectors_eraseSelector, selectors_eraseSelector, h.selectors]
  properties := fun s => by rw [properties_eraseSelector, properties_eraseSelector, h.properties]

lemma insertAll (h : x.SameNames y) (selector : String) (entries : List (String × RuleValue P)) :
    (x.insertAll selector entries).SameNames (y.insertAll selector entries) := by
  induction entries generalizing x y with
  | nil => exact h
  | cons e rest ih => exact ih (h.insert selector e.1 e.2)

end SameNames

/-- A declaration of a pair that is there changes no names. -/
lemma sameNames_insert (rules : RuleSet P) (value : RuleValue P)
    (hselector : selector ∈ rules.selectors) (hproperty : property ∈ rules.properties selector) :
    (rules.insert selector property value).SameNames rules where
  selectors := by rw [selectors_insert, if_pos hselector]
  properties := fun s => by
    rw [properties_insert]
    split
    · rename_i hs
      subst hs
      exact if_pos hproperty
    · rfl

end RuleSet

end Restyle
