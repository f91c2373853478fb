import Restyle.Proofs.RuleSet

/-!
# Edits of a rule set

An edit declares a property, removes one, or removes a selector. A rule set that edits have made of
the empty one is well formed, so each edit can be said to do one thing only, order included
(`RuleSet.ofEdits_edit`). A declaration changes one value, or puts one property at the end of a
block, or one selector at the end of all (`RuleSet.mapBlock`). A removal takes one declaration or
one selector away and leaves the rest as it was (`RuleSet.keeping`).

Which value a pair of selector and property has is decided by the latest edit that concerns the pair
(`RuleSet.find?_ofEdits`).
-/

namespace Restyle

variable {P : Type}

/-- A change of a rule set. -/
inductive Edit (P : Type) where
  /-- A property is declared under a selector. -/
  | insert (selector property : String) (value : RuleValue P)
  /-- A property is removed from a selector. -/
  | remove (selector property : String)
  /-- A selector is removed with all its declarations. -/
  | removeSelector (selector : String)

/-- What an edit makes of a pair that it concerns: the value that the pair has from then on, if any.
-/
def Edit.given? (selector property : String) : Edit P → Option (Option (RuleValue P))
  | .insert s p value => if s = selector ∧ p = property then some (some value) else none
  | .remove s p => if s = selector ∧ p = property then some none else none
  | .removeSelector s => if s = selector then some none else none

/-- The value that was declared last for a pair and not removed since. -/
def lastGiven (edits : List (Edit P)) (selector property : String) : Option (RuleValue P) :=
  (edits.filterMap (Edit.given? selector property)).getLast?.join

lemma lastGiven_concat (edits : List (Edit P)) (edit : Edit P) (selector property : String) :
    lastGiven (edits ++ [edit]) selector property =
      (edit.given? selector property).getD (lastGiven edits selector property) := by
  unfold lastGiven
  rw [List.filterMap_append]
  cases hgiven : edit.given? selector property with
  | none => simp [hgiven]
  | some value => simp [hgiven]

namespace RuleSet

/-- The rule set after an edit. -/
def edit (rules : RuleSet P) : Edit P → RuleSet P
  | .insert selector property value => rules.insert selector property value
  | .remove selector property => (rules.remove selector property).2
  | .removeSelector selector => (rules.removeSelector selector).2

/-- The rule set that edits make of the empty one. -/
def ofEdits (edits : List (Edit P)) : RuleSet P := edits.foldl edit .empty

lemma ofEdits_concat (edits : List (Edit P)) (e : Edit P) :
    ofEdits (edits ++ [e]) = (ofEdits edits).edit e := List.foldl_concat ..

/-! ### Values -/

/-- An edit gives a value to the pairs that it concerns and leaves the other ones alone. -/
lemma find?_edit (rules : RuleSet P) (e : Edit P) (selector property : String) :
    (rules.edit e).find? selector property =
      (e.given? selector property).getD (rules.find? selector property) := by
  cases e with
  | insert s p value =>
    rw [edit, find?_insert, Edit.given?]
    split <;> rfl
  | remove s p =>
    rw [edit, remove, find?_erase, Edit.given?]
    split <;> rfl
  | removeSelector s =>
    rw [edit, removeSelector, find?_eq, get?_eraseSelector, Edit.given?]
    split <;> rfl

/-- A pair has the value that was declared last and not removed since. -/
lemma find?_ofEdits (edits : List (Edit P)) (selector property : String) :
    (ofEdits edits).find? selector property = lastGiven edits selector property := by
  induction edits using List.reverseRecOn with
  | nil => rfl
  | append_singleton edits e ih => rw [ofEdits_concat, find?_edit, lastGiven_concat, ih]

/-! ### Form -/

lemma WellFormed.edit {rules : RuleSet P} (h : rules.WellFormed) (e : Edit P) :
    (rules.edit e).WellFormed := by
  cases e with
  | insert selector property value => exact h.insert selector property value
  | remove selector property => exact h.erase selector property
  | removeSelector selector => exact h.eraseSelector selector

/-- Edits make well-formed rule sets only. -/
lemma wellFormed_ofEdits (edits : List (Edit P)) : (ofEdits edits).WellFormed :=
  List.foldlRecOn edits _ .empty fun _ h e _ => h.edit e

/-! ### Declarations in their places -/

/-- Changes the block of one selector. -/
def mapBlock (rules : RuleSet P) (selector : String) (f : Declarations P → Declarations P) :
    RuleSet P :=
  ⟨rules.blocks.mapKeyed fun s block => if s = selector then f block else block⟩

variable {rules : RuleSet P} {selector property : String} {block : Declarations P}

/-- The block that stands under a selector is the one that is found there. -/
lemma WellFormed.eq_of_mem (h : rules.WellFormed) (hblock : rules.get? selector = some block)
    {e : String × Declarations P} (he : e ∈ rules.blocks.entries) (hs : e.1 = selector) :
    e.2 = block := by
  have hget : rules.get? e.1 = some e.2 := h.distinct.get?_of_mem he
  rw [hs, hblock] at hget
  exact (Option.some.inj hget).symm

/-- Putting a changed block under its selector changes the block where it stands. -/
lemma WellFormed.putBlock_eq_mapBlock (h : rules.WellFormed)
    (hblock : rules.get? selector = some block) (f : Declarations P → Declarations P) :
    ⟨rules.blocks.insert selector (f block)⟩ = rules.mapBlock selector f := by
  have hmem : selector ∈ rules.blocks.keys := OrderedMap.exists_get?_iff.mp ⟨block, hblock⟩
  rw [h.distinct.insert_eq_mapKeyed hmem, mapBlock]
  refine congrArg RuleSet.mk (OrderedMap.mapKeyed_congr fun e he => ?_)
  by_cases hs : e.1 = selector
  · rw [if_pos hs, if_pos hs, h.eq_of_mem hblock he hs]
  · rw [if_neg hs, if_neg hs]

/-- A pair that has a value gets the new one in the place of the old one. -/
lemma WellFormed.insert_of_find? (h : rules.WellFormed)
    (hfind : rules.find? selector property ≠ none) (value : RuleValue P) :
    rules.insert selector property value = rules.mapBlock selector fun block =>
      block.mapKeyed fun p old => if p = property then value else old := by
  obtain ⟨old, hold⟩ := Option.ne_none_iff_exists'.mp hfind
  obtain ⟨block, hblock, hget⟩ := Option.bind_eq_some_iff.mp hold
  have hd : block.Distinct := h.block_distinct _ (OrderedMap.mem_entries_of_get? hblock)
  have hmem : property ∈ block.keys := OrderedMap.exists_get?_iff.mp ⟨old, hget⟩
  rw [← h.putBlock_eq_mapBlock hblock, ← hd.insert_eq_mapKeyed hmem, RuleSet.insert, hblock,
    Option.getD_some]

/-- A new property comes behind those that its selector has. -/
lemma WellFormed.insert_of_get? (h : rules.WellFormed)
    (hblock : rules.get? selector = some block) (hnew : block.get? property = none)
    (value : RuleValue P) :
    rules.insert selector property value =
      rules.mapBlock selector fun block => ⟨block.entries ++ [(property, value)]⟩ := by
  have hinsert : block.insert property value = ⟨block.entries ++ [(property, value)]⟩ :=
    congrArg OrderedMap.mk
      (OrderedMap.entries_insert_of_notMem (OrderedMap.get?_eq_none_iff.mp hnew))
  rw [← h.putBlock_eq_mapBlock hblock, RuleSet.insert, hblock, Option.getD_some, hinsert]

/-- A new selector comes behind all others. -/
lemma insert_of_get?_eq_none (hnew : rules.get? selector = none) (property : String)
    (value : RuleValue P) :
    rules.insert selector property value =
      ⟨⟨rules.blocks.entries ++ [(selector, ⟨[(property, value)]⟩)]⟩⟩ := by
  rw [insert, hnew]
  exact congrArg (fun entries => (⟨⟨entries⟩⟩ : RuleSet P))
    (OrderedMap.entries_insert_of_notMem (OrderedMap.get?_eq_none_iff.mp hnew))

/-! ### What a removal keeps -/

/-- What is left of a block of a selector if only the declarations stay that satisfy `keep`: nothing
if there are none. -/
def keptBlock? (keep : String → String → Bool) (e : String × Declarations P) :
    Option (String × Declarations P) :=
  let kept : Declarations P := ⟨e.2.entries.filter fun d => keep e.1 d.1⟩
  if kept.isEmpty then none else some (e.1, kept)

/-- The rule set of the declarations that satisfy `keep`, in their order; a selector goes with its
last declaration. -/
def keeping (rules : RuleSet P) (keep : String → String → Bool) : RuleSet P :=
  ⟨⟨rules.blocks.entries.filterMap (keptBlock? keep)⟩⟩

section Keeping

variable {keep : String → String → Bool} {e : String × Declarations P}

/-- A block that is kept as a whole stays as it is. -/
lemma WellFormed.keptBlock?_of_all (h : rules.WellFormed) (he : e ∈ rules.blocks.entries)
    (hkeep : ∀ d ∈ e.2.entries, keep e.1 d.1 = true) : keptBlock? keep e = some e := by
  have hkept : e.2.entries.filter (fun d => keep e.1 d.1) = e.2.entries :=
    List.filter_eq_self.mpr hkeep
  have hne : ¬e.2.isEmpty = true := fun hempty =>
    h.block_nonempty e he (OrderedMap.isEmpty_iff.mp hempty)
  rw [keptBlock?, hkept, if_neg hne]

/-- A block of which nothing is kept goes. -/
lemma keptBlock?_of_none (hkeep : ∀ d ∈ e.2.entries, keep e.1 d.1 = false) :
    keptBlock? keep e = none := by
  have hkept : e.2.entries.filter (fun d => keep e.1 d.1) = [] :=
    List.filter_eq_nil_iff.mpr fun d hd => Bool.eq_false_iff.mp (hkeep d hd)
  rw [keptBlock?, hkept]
  rfl

/-- If everything is kept, the rule set stays as it is. -/
lemma WellFormed.keeping_eq_self (h : rules.WellFormed)
    (hkeep : ∀ e ∈ rules.blocks.entries, ∀ d ∈ e.2.entries, keep e.1 d.1 = true) :
    rules.keeping keep = rules := by
  have hentries : rules.blocks.entries.filterMap (keptBlock? keep) = rules.blocks.entries := by
    refine Eq.trans (List.filterMap_congr fun e he => ?_) List.filterMap_some
    exact h.keptBlock?_of_all he (hkeep e he)
  rw [keeping, hentries]

/-- If just one selector is not kept, and nothing of it, the selector is erased. -/
lemma WellFormed.keeping_eq_eraseSelector (h : rules.WellFormed)
    (hself : ∀ e ∈ rules.blocks.entries, e.1 = selector →
      ∀ d ∈ e.2.entries, keep e.1 d.1 = false)
    (hother : ∀ e ∈ rules.blocks.entries, e.1 ≠ selector →
      ∀ d ∈ e.2.entries, keep e.1 d.1 = true) :
    rules.keeping keep = rules.eraseSelector selector := by
  have hentries : rules.blocks.entries.filterMap (keptBlock? keep) =
      rules.blocks.entries.filter fun e => e.1 ≠ selector := by
    rw [← List.filterMap_eq_filter]
    refine List.filterMap_congr fun e he => ?_
    by_cases hs : e.1 = selector
    · rw [keptBlock?_of_none (hself e he hs)]
      simp [Option.guard, hs]
    · rw [h.keptBlock?_of_all he (hother e he hs)]
      simp [Option.guard, hs]
  rw [keeping, hentries]
  rfl

/-- Removing a selector keeps the declarations of the other ones. -/
lemma WellFormed.eraseSelector_eq_keeping (h : rules.WellFormed) (selector : String) :
    rules.eraseSelector selector = rules.keeping fun s _ => s ≠ selector :=
  (h.keeping_eq_eraseSelector (fun e _ hs _ _ => by simp [hs])
    (fun e _ hs _ _ => by simp [hs])).symm

/-- Removing a property keeps the other declarations. -/
lemma WellFormed.erase_eq_keeping (h : rules.WellFormed) (selector property : String) :
    rules.erase selector property =
      rules.keeping fun s p => ¬(s = selector ∧ p = property) := by
  obtain ⟨hnone, heq⟩ | ⟨block, hblock, ⟨hrest, heq⟩ | ⟨hrest, heq⟩⟩ :=
    erase_cases rules selector property
  · -- there is no block of the selector
    have hnot : ∀ e ∈ rules.blocks.entries, e.1 ≠ selector := fun e he hs =>
      OrderedMap.get?_eq_none_iff.mp hnone (hs ▸ List.mem_map_of_mem he)
    rw [heq, h.keeping_eq_self fun e he d _ => by simp [hnot e he]]
  · -- the block has no other property
    have hself : ∀ e ∈ rules.blocks.entries, e.1 = selector →
        ∀ d ∈ e.2.entries, (decide ¬(e.1 = selector ∧ d.1 = property)) = false := by
      intro e he hs d hd
      obtain rfl : e.2 = block := h.eq_of_mem hblock he hs
      obtain ⟨v, hv⟩ := (h.block_distinct e he).eq_singleton (h.block_nonempty e he) hrest
      rw [hv] at hd
      obtain rfl := List.mem_singleton.mp hd
      simp [hs]
    have hother : ∀ e ∈ rules.blocks.entries, e.1 ≠ selector →
        ∀ d ∈ e.2.entries, (decide ¬(e.1 = selector ∧ d.1 = property)) = true := by
      intro e _ hs d _
      simp [hs]
    rw [heq]
    exact (h.keeping_eq_eraseSelector hself hother).symm
  · -- the other properties of the block stay
    have hentries : rules.blocks.entries.filterMap
          (keptBlock? fun s p => ¬(s = selector ∧ p = property)) =
        rules.blocks.entries.map fun e =>
          (e.1, if e.1 = selector then e.2.erase property else e.2) := by
      rw [← List.filterMap_eq_map]
      refine List.filterMap_congr fun e he => ?_
      by_cases hs : e.1 = selector
      · obtain rfl : e.2 = block := h.eq_of_mem hblock he hs
        have hkept : e.2.entries.filter (fun d => ¬(e.1 = selector ∧ d.1 = property)) =
            (e.2.erase property).entries := by
          simp [hs, OrderedMap.erase]
        have hne : ¬(e.2.erase property).isEmpty = true := fun hempty =>
          hrest (OrderedMap.isEmpty_iff.mp hempty)
        rw [keptBlock?, hkept]
        simp only [Function.comp_apply, if_pos hs]
        exact if_neg hne
      · rw [h.keptBlock?_of_all he fun d _ => by simp [hs]]
        simp [hs]
    rw [heq, h.putBlock_eq_mapBlock hblock (OrderedMap.erase · property), keeping, hentries]
    rfl

end Keeping

/-! ### One edit -/

/-- The selector goes with a property if this is the only one that it has. -/
lemma WellFormed.selector_goes_iff (h : rules.WellFormed) (selector property : String) :
    selector ∈ rules.selectors ∧ selector ∉ (rules.erase selector property).selectors ↔
      ∃ value, rules.get? selector = some ⟨[(property, value)]⟩ := by
  have hmem : ∀ rules : RuleSet P, selector ∈ rules.selectors ↔ rules.get? selector ≠ none :=
    fun _ => OrderedMap.exists_get?_iff.symm.trans Option.ne_none_iff_exists'.symm
  rw [hmem, hmem, not_ne_iff]
  constructor
  · rintro ⟨hsome, hgone⟩
    obtain ⟨hnone, -⟩ | ⟨block, hblock, ⟨hrest, -⟩ | ⟨-, heq⟩⟩ :=
      erase_cases rules selector property
    · exact absurd hnone hsome
    · have he : (selector, block) ∈ rules.blocks.entries := OrderedMap.mem_entries_of_get? hblock
      obtain ⟨value, rfl⟩ := (h.block_distinct _ he).eq_singleton (h.block_nonempty _ he) hrest
      exact ⟨value, hblock⟩
    · rw [heq] at hgone
      cases OrderedMap.get?_insert_self.symm.trans hgone
  · rintro ⟨value, hblock⟩
    have hrest : (OrderedMap.erase ⟨[(property, value)]⟩ property).isEmpty = true := by
      simp [OrderedMap.erase, OrderedMap.isEmpty]
    have hgone : rules.erase selector property = rules.eraseSelector selector := by
      rw [RuleSet.erase, hblock]
      exact if_pos hrest
    rw [hgone, get?_eraseSelector, if_pos rfl, hblock]
    exact ⟨Option.some_ne_none _, rfl⟩

/-- Removing a property that its selector does not have leaves the rule set as it was. -/
lemma WellFormed.erase_of_find?_eq_none (h : rules.WellFormed)
    (hfind : rules.find? selector property = none) : rules.erase selector property = rules := by
  rw [h.erase_eq_keeping, h.keeping_eq_self fun e he d hd => ?_]
  have hne : ¬(e.1 = selector ∧ d.1 = property) := by
    rintro ⟨rfl, rfl⟩
    cases (h.find?_of_mem he hd).symm.trans hfind
  exact decide_eq_true hne

/-- Removing what was just declared for a pair without value leaves the rule set as it was. -/
lemma WellFormed.erase_insert_self (h : rules.WellFormed)
    (hfind : rules.find? selector property = none) (value : RuleValue P) :
    (rules.insert selector property value).erase selector property = rules := by
  have hget : (rules.insert selector property value).get? selector =
      some (((rules.get? selector).getD .empty).insert property value) := by
    rw [get?_insert, if_pos rfl]
  have hnew : property ∉ ((rules.get? selector).getD .empty).keys := by
    rw [← OrderedMap.get?_eq_none_iff, ← hfind, find?_eq]
    cases rules.get? selector <;> rfl
  have hrest : (((rules.get? selector).getD .empty).insert property value).erase property =
      (rules.get? selector).getD .empty :=
    OrderedMap.erase_insert_self.trans (OrderedMap.erase_of_notMem hnew)
  rw [RuleSet.erase, hget]
  simp only [hrest]
  cases hblock : rules.get? selector with
  | none =>
    -- the selector is new: it goes again with its only property
    have hselector : selector ∉ rules.blocks.keys := OrderedMap.get?_eq_none_iff.mp hblock
    rw [Option.getD_none, if_pos (OrderedMap.isEmpty_iff.mpr rfl), RuleSet.insert,
      OrderedMap.erase_insert_self, OrderedMap.erase_of_notMem hselector]
  | some block =>
    -- the block gets its old form back, and with it the rule set
    have hne : ¬block.isEmpty = true := fun hempty =>
      h.block_nonempty _ (OrderedMap.mem_entries_of_get? hblock) (OrderedMap.isEmpty_iff.mp hempty)
    rw [Option.getD_some, if_neg hne, RuleSet.insert, hblock, OrderedMap.insert_insert,
      OrderedMap.insert_of_get? hblock]

/-- After any sequence of edits the rule set is well formed. A declaration then changes the value of
its pair only, or puts the property behind those of its selector, or puts the selector behind all
others. A removal gives the value that was declared last for its pair, keeps all other declarations
as they stand, and takes the selector away if and only if the pair was its only one; it changes
nothing if the pair has no value. The removal of a selector keeps all other declarations as they
stand. Removing a pair that was just declared and had no value before restores the rule set. -/
theorem ofEdits_edit (edits : List (Edit P)) (selector property : String) (value : RuleValue P) :
    let rules := ofEdits edits
    let inserted := rules.insert selector property value
    let removed := rules.remove selector property
    rules.WellFormed ∧
      (rules.find? selector property ≠ none →
        inserted = rules.mapBlock selector fun block =>
          block.mapKeyed fun p old => if p = property then value else old) ∧
      (∀ block, rules.get? selector = some block → block.get? property = none →
        inserted = rules.mapBlock selector fun block => ⟨block.entries ++ [(property, value)]⟩) ∧
      (rules.get? selector = none →
        inserted = ⟨⟨rules.blocks.entries ++ [(selector, ⟨[(property, value)]⟩)]⟩⟩) ∧
      removed = (lastGiven edits selector property,
        rules.keeping fun s p => ¬(s = selector ∧ p = property)) ∧
      (lastGiven edits selector property = none → removed = (none, rules)) ∧
      (selector ∈ rules.selectors ∧ selector ∉ removed.2.selectors ↔
        ∃ v, rules.get? selector = some ⟨[(property, v)]⟩) ∧
      rules.removeSelector selector =
        (rules.get? selector, rules.keeping fun s _ => s ≠ selector) ∧
      (rules.find? selector property = none →
        inserted.remove selector property = (some value, rules)) := by
  have h : (ofEdits edits).WellFormed := wellFormed_ofEdits edits
  have hfind := find?_ofEdits edits selector property
  refine ⟨h, fun hold => h.insert_of_find? hold value,
    fun block hblock hnew => h.insert_of_get? hblock hnew value,
    fun hnew => insert_of_get?_eq_none hnew property value, ?_, fun hnone => ?_,
    h.selector_goes_iff selector property, ?_, fun hnone => ?_⟩
  · rw [remove, hfind, h.erase_eq_keeping]
  · rw [remove, hfind, hnone, h.erase_of_find?_eq_none (hfind.trans hnone)]
  · rw [removeSelector, h.eraseSelector_eq_keeping]
  · rw [remove, h.erase_insert_self hnone, find?_insert, if_pos ⟨rfl, rfl⟩]

/-- Edits that leave the property `top` under two selectors. -/
def topsOnly : List (Edit Nat) :=
  [.insert ".A" "color" (.fixed (.text "red")), .insert ".B" "top" (.fixed (.text "0")),
    .insert ".A" "top" (.fixed (.text "1px")), .remove ".A" "color"]

/-- A declaration finds its place under a selector, behind its properties or behind all selectors,
and it is taken back by a removal. -/
theorem ofEdits_edit_topsOnly :
    let rules := ofEdits topsOnly
    rules.insert ".A" "top" (.computed 0) =
        ⟨⟨[(".A", ⟨[("top", .computed 0)]⟩), (".B", ⟨[("top", .fixed (.text "0"))]⟩)]⟩⟩ ∧
      rules.insert ".A" "left" (.computed 0) =
        ⟨⟨[(".A", ⟨[("top", .fixed (.text "1px")), ("left", .computed 0)]⟩),
          (".B", ⟨[("top", .fixed (.text "0"))]⟩)]⟩⟩ ∧
      rules.insert ".C" "top" (.computed 0) =
        ⟨⟨[(".A", ⟨[("top", .fixed (.text "1px"))]⟩), (".B", ⟨[("top", .fixed (.text "0"))]⟩),
          (".C", ⟨[("top", .computed 0)]⟩)]⟩⟩ ∧
      rules.remove ".A" "color" = (none, rules) ∧
      ".A" ∉ (rules.remove ".A" "top").2.selectors ∧
      (rules.insert ".A" "left" (.computed 0)).remove ".A" "left" =
        (some (.computed 0), rules) := by
  have hfound : (ofEdits topsOnly).find? ".A" "top" ≠ none := Option.some_ne_none _
  obtain ⟨-, hold, -, -, -, -, hgoes, -, -⟩ := ofEdits_edit topsOnly ".A" "top" (.computed 0)
  obtain ⟨-, -, hproperty, -, -, -, -, -, hback⟩ := ofEdits_edit topsOnly ".A" "left" (.computed 0)
  obtain ⟨-, -, -, hselector, -, -, -, -, -⟩ := ofEdits_edit topsOnly ".C" "top" (.computed 0)
  obtain ⟨-, -, -, -, -, habsent, -, -, -⟩ := ofEdits_edit topsOnly ".A" "color" (.computed 0)
  exact ⟨(hold hfound).trans rfl, (hproperty _ rfl rfl).trans rfl, (hselector rfl).trans rfl,
    habsent rfl, (hgoes.mpr ⟨_, rfl⟩).2, hback rfl⟩

end RuleSet

end Restyle
