import Mathlib.Data.List.Basic
import Restyle.Proofs.OrderedMap
import Restyle.RuleSet

/-!
# Operations on rule sets

What insertion and removal do to the two views of a rule set: `RuleSet.get?`, the block of a
selector, and `RuleSet.find?`, the value of a pair of selector and property. The equations hold for
all rule sets and change one pair, or one selector, and nothing else.

Two properties are then carried through all operations. `RuleSet.WellFormed` says that no selector
and no property occurs twice and that no block is empty; a well-formed rule set is rebuilt by
declaring its own blocks one after another, and every rule set that is made by the operations alone
(`RuleSet.Built`) is well formed. `RuleSet.EachValue` says that every value satisfies a given
condition.
-/

namespace Restyle

variable {P : Type}

namespace RuleSet

variable {rules : RuleSet P} {selector property : String} {value : RuleValue P}

/-! ### Single declarations -/

@[simp] lemma get?_empty (selector : String) : (empty : RuleSet P).get? selector = none := rfl

@[simp] lemma find?_empty (selector property : String) :
    (empty : RuleSet P).find? selector property = none := rfl

lemma find?_eq (rules : RuleSet P) (selector property : String) :
    rules.find? selector property =
      (rules.get? selector).bind fun block => block.get? property := rfl

/-- A declaration changes the block of its selector and no other. -/
lemma get?_insert (rules : RuleSet P) (selector property : String) (value : RuleValue P)
    (s : String) :
    (rules.insert selector property value).get? s =
      if selector = s then some (((rules.get? selector).getD .empty).insert property value)
      else rules.get? s :=
  OrderedMap.get?_insert _ _ _ _

/-- A declaration changes the value of its pair and no other. -/
lemma find?_insert (rules : RuleSet P) (selector property : String) (value : RuleValue P)
    (s p : String) :
    (rules.insert selector property value).find? s p =
      if selector = s ∧ property = p then some value else rules.find? s p := by
  rw [find?_eq, get?_insert]
  by_cases hs : selector = s
  · subst hs
    cases hblock : rules.get? selector <;> simp [find?_eq, hblock, OrderedMap.get?_insert]
  · simp [hs, find?_eq]

/-- What a removal leaves: the same rule set if the selector has no block, one without the selector
if the pair was its only one, and one with a smaller block otherwise. -/
lemma erase_cases (rules : RuleSet P) (selector property : String) :
    (rules.get? selector = none ∧ rules.erase selector property = rules) ∨
    ∃ block, rules.get? selector = some block ∧
      ((block.erase property = .empty ∧
          rules.erase selector property = rules.eraseSelector selector) ∨
        (block.erase property ≠ .empty ∧
          rules.erase selector property =
            ⟨rules.blocks.insert selector (block.erase property)⟩)) := by
  unfold erase
  cases hblock : rules.get? selector with
  | none => exact Or.inl ⟨rfl, rfl⟩
  | some block =>
    refine Or.inr ⟨block, rfl, ?_⟩
    by_cases hrest : block.erase property = .empty
    · exact Or.inl ⟨hrest, if_pos (OrderedMap.isEmpty_iff.mpr hrest)⟩
    · exact Or.inr ⟨hrest, if_neg fun h => hrest (OrderedMap.isEmpty_iff.mp h)⟩

/-- A removed selector has no block; the others keep theirs. -/
lemma get?_eraseSelector (rules : RuleSet P) (selector s : String) :
    (rules.eraseSelector selector).get? s = if selector = s then none else rules.get? s :=
  OrderedMap.get?_erase _ _ _

lemma find?_eraseSelector_of_ne {s : String} (h : selector ≠ s) (p : String) :
    (rules.eraseSelector selector).find? s p = rules.find? s p := by
  rw [find?_eq, get?_eraseSelector, if_neg h, find?_eq]

/-- A removal leaves the blocks of other selectors alone. -/
lemma get?_erase_of_ne {s : String} (h : selector ≠ s) :
    (rules.erase selector property).get? s = rules.get? s := by
  obtain ⟨-, heq⟩ | ⟨block, -, ⟨-, heq⟩ | ⟨-, heq⟩⟩ := erase_cases rules selector property
  · rw [heq]
  · rw [heq, get?_eraseSelector, if_neg h]
  · rw [heq]
    exact OrderedMap.get?_insert_of_ne h

/-- A removal changes the value of its pair and no other. -/
lemma find?_erase (rules : RuleSet P) (selector property s p : String) :
    (rules.erase selector property).find? s p =
      if selector = s ∧ property = p then none else rules.find? s p := by
  by_cases hs : selector = s
  swap
  · rw [find?_eq, get?_erase_of_ne hs, if_neg fun h => hs h.1, find?_eq]
  subst hs
  -- in each case the block that is left looks up like the old one without the property
  have hleft : ∀ block, rules.get? selector = some block →
      (if selector = selector ∧ property = p then none else rules.find? selector p) =
        (block.erase property).get? p := by
    intro block hblock
    simp [find?_eq, hblock, OrderedMap.get?_erase]
  obtain ⟨hnone, heq⟩ | ⟨block, hblock, ⟨hrest, heq⟩ | ⟨hrest, heq⟩⟩ :=
    erase_cases rules selector property
  · simp [heq, find?_eq, hnone]
  · rw [hleft block hblock, heq, hrest, find?_eq, get?_eraseSelector, if_pos rfl]
    rfl
  · rw [hleft block hblock, heq]
    simp [find?_eq, get?]

/-! ### Whole blocks -/

/-- Declaring the entries of a block under one selector extends the block of that selector. -/
lemma insertAll_eq (rules : RuleSet P) (selector : String) {entries : List (String × RuleValue P)}
    (h : entries ≠ []) :
    rules.insertAll selector entries =
      ⟨rules.blocks.insert selector (((rules.get? selector).getD .empty).insertAll entries)⟩ := by
  induction entries generalizing rules with
  | nil => exact absurd rfl h
  | cons e rest ih =>
    change (rules.insert selector e.1 e.2).insertAll selector rest = _
    by_cases hrest : rest = []
    · subst hrest
      rfl
    · rw [ih _ hrest, get?_insert, if_pos rfl, Option.getD_some, OrderedMap.insertAll_cons]
      exact congrArg mk (OrderedMap.insert_insert ..)

/-- The block of a selector whose entries replace what stood there. -/
lemma get?_insertAll_of_get?_eq_none {entries : List (String × RuleValue P)}
    (h : rules.get? selector = none) :
    (rules.insertAll selector entries).get? selector =
      if entries = [] then none else some (.ofList entries) := by
  by_cases hentries : entries = []
  · subst hentries
    exact h
  · rw [insertAll_eq _ _ hentries, h, if_neg hentries]
    exact OrderedMap.get?_insert_self

/-- Declaring entries under one selector leaves the blocks of others alone. -/
lemma get?_insertAll_of_ne {s : String} (h : selector ≠ s)
    (entries : List (String × RuleValue P)) :
    (rules.insertAll selector entries).get? s = rules.get? s := by
  by_cases hentries : entries = []
  · subst hentries
    rfl
  · rw [insertAll_eq _ _ hentries]
    exact OrderedMap.get?_insert_of_ne h

/-! ### Well-formed rule sets -/

/-- No selector and no property of a block occurs twice, and no block is empty. -/
structure WellFormed (rules : RuleSet P) : Prop where
  /-- No selector occurs twice. -/
  distinct : rules.blocks.Distinct
  /-- In no block a property occurs twice. -/
  block_distinct : ∀ e ∈ rules.blocks.entries, e.2.Distinct
  /-- No block is empty. -/
  block_nonempty : ∀ e ∈ rules.blocks.entries, e.2 ≠ .empty

namespace WellFormed

lemma empty : (RuleSet.empty : RuleSet P).WellFormed where
  distinct := OrderedMap.distinct_empty
  block_distinct := fun _ h => absurd h List.not_mem_nil
  block_nonempty := fun _ h => absurd h List.not_mem_nil

/-- Putting a block without repetitions under a selector keeps the form. -/
lemma putBlock (h : rules.WellFormed) {block : Declarations P} (hd : block.Distinct)
    (hne : block ≠ .empty) (selector : String) :
    RuleSet.WellFormed ⟨rules.blocks.insert selector block⟩ where
  distinct := h.distinct.insert selector block
  block_distinct := fun e he => by
    rcases OrderedMap.mem_insert he with rfl | hold
    · exact hd
    · exact h.block_distinct e hold
  block_nonempty := fun e he => by
    rcases OrderedMap.mem_insert he with rfl | hold
    · exact hne
    · exact h.block_nonempty e hold

/-- The block of a selector, or the empty one, repeats no property. -/
lemma getD_distinct (h : rules.WellFormed) (selector : String) :
    ((rules.get? selector).getD .empty).Distinct := by
  cases hblock : rules.get? selector with
  | none => exact OrderedMap.distinct_empty
  | some block => exact h.block_distinct _ (OrderedMap.mem_entries_of_get? hblock)

lemma eraseSelector (h : rules.WellFormed) (selector : String) :
    (rules.eraseSelector selector).WellFormed where
  distinct := h.distinct.erase selector
  block_distinct := fun e he => h.block_distinct e (OrderedMap.mem_erase he)
  block_nonempty := fun e he => h.block_nonempty e (OrderedMap.mem_erase he)

lemma insertAll (h : rules.WellFormed) (selector : String)
    (entries : List (String × RuleValue P)) : (rules.insertAll selector entries).WellFormed := by
  by_cases hentries : entries = []
  · subst hentries
    exact h
  · rw [insertAll_eq _ _ hentries]
    exact h.putBlock ((h.getD_distinct selector).insertAll entries)
      (OrderedMap.insertAll_ne_empty hentries) selector

lemma insert (h : rules.WellFormed) (selector property : String) (value : RuleValue P) :
    (rules.insert selector property value).WellFormed :=
  h.insertAll selector [(property, value)]

lemma erase (h : rules.WellFormed) (selector property : String) :
    (rules.erase selector property).WellFormed := by
  obtain ⟨-, heq⟩ | ⟨block, hblock, ⟨-, heq⟩ | ⟨hrest, heq⟩⟩ := erase_cases rules selector property
  · rw [heq]
    exact h
  · rw [heq]
    exact h.eraseSelector selector
  · have hd : block.Distinct := h.block_distinct _ (OrderedMap.mem_entries_of_get? hblock)
    rw [heq]
    exact h.putBlock (hd.erase property) hrest selector

/-- The value of a pair is found where it stands. -/
lemma find?_of_mem (h : rules.WellFormed) {e : String × Declarations P}
    (he : e ∈ rules.blocks.entries) {d : String × RuleValue P} (hd : d ∈ e.2.entries) :
    rules.find? e.1 d.1 = some d.2 := by
  have hget : rules.get? e.1 = some e.2 := h.distinct.get?_of_mem he
  rw [find?_eq, hget, Option.bind_some]
  exact (h.block_distinct e he).get?_of_mem hd

/-- There is a block under a selector if and only if some pair of the selector has a value. -/
lemma get?_ne_none_iff (h : rules.WellFormed) {selector : String} :
    rules.get? selector ≠ none ↔ ∃ property, rules.find? selector property ≠ none := by
  cases hget : rules.get? selector with
  | none => simp [find?_eq, hget]
  | some block =>
    have hmem : (selector, block) ∈ rules.blocks.entries := OrderedMap.mem_entries_of_get? hget
    have hentries : block.entries ≠ [] := fun hnil =>
      h.block_nonempty _ hmem (OrderedMap.isEmpty_iff.mp (by simp [OrderedMap.isEmpty, hnil]))
    obtain ⟨e, he⟩ := List.exists_mem_of_ne_nil _ hentries
    have hfound : rules.find? selector e.1 = some e.2 := h.find?_of_mem hmem he
    simp only [ne_eq, reduceCtorEq, not_false_eq_true, true_iff]
    exact ⟨e.1, by simp [hfound]⟩

end WellFormed

/-- Declaring blocks under new and distinct selectors appends them as they are. -/
lemma foldl_insertAll {entries : List (String × Declarations P)} {rules : RuleSet P}
    (hkeys : (rules.selectors ++ entries.map Prod.fst).Nodup)
    (hd : ∀ e ∈ entries, e.2.Distinct) (hne : ∀ e ∈ entries, e.2 ≠ .empty) :
    entries.foldl (fun acc e => acc.insertAll e.1 e.2.entries) rules =
      ⟨rules.blocks.insertAll entries⟩ := by
  induction entries generalizing rules with
  | nil => rfl
  | cons e rest ih =>
    have hnew : e.1 ∉ rules.blocks.keys := fun hmem =>
      (List.nodup_append.mp hkeys).2.2 e.1 hmem e.1 (by simp) rfl
    have hnone : rules.get? e.1 = none := OrderedMap.get?_eq_none_iff.mpr hnew
    have hentries : e.2.entries ≠ [] := fun h =>
      hne e List.mem_cons_self (OrderedMap.isEmpty_iff.mp (by simp [OrderedMap.isEmpty, h]))
    have hblock : OrderedMap.empty.insertAll e.2.entries = e.2 :=
      (hd e List.mem_cons_self).ofList_entries
    have hput : rules.insertAll e.1 e.2.entries = ⟨rules.blocks.insert e.1 e.2⟩ := by
      rw [insertAll_eq _ _ hentries, hnone, Option.getD_none, hblock]
    have hkeys' : ((⟨rules.blocks.insert e.1 e.2⟩ : RuleSet P).selectors ++
        rest.map Prod.fst).Nodup := by
      change ((rules.blocks.insert e.1 e.2).keys ++ _).Nodup
      rw [OrderedMap.keys_insert, if_neg hnew]
      simpa [selectors] using hkeys
    rw [List.foldl_cons, hput, ih hkeys' (fun e' he' => hd e' (List.mem_cons_of_mem _ he'))
      (fun e' he' => hne e' (List.mem_cons_of_mem _ he'))]
    rfl

/-- A well-formed rule set is rebuilt from its blocks. -/
lemma WellFormed.rebuild (h : rules.WellFormed) :
    rules.blocks.entries.foldl (fun acc e => acc.insertAll e.1 e.2.entries) .empty = rules := by
  have hblocks : OrderedMap.empty.insertAll rules.blocks.entries = rules.blocks :=
    h.distinct.ofList_entries
  have hkeys : ((RuleSet.empty : RuleSet P).selectors ++
      rules.blocks.entries.map Prod.fst).Nodup := by
    rw [show (RuleSet.empty : RuleSet P).selectors = [] from rfl, List.nil_append]
    exact h.distinct
  rw [foldl_insertAll hkeys h.block_distinct h.block_nonempty]
  exact congrArg RuleSet.mk hblocks

/-- The rule sets that are made from the empty one by the operations. -/
inductive Built : RuleSet P → Prop
  /-- The empty rule set. -/
  | empty : Built .empty
  /-- A declaration. -/
  | insert {rules : RuleSet P} (h : Built rules) (selector property : String)
    (value : RuleValue P) : Built (rules.insert selector property value)
  /-- A removal of one declaration. -/
  | erase {rules : RuleSet P} (h : Built rules) (selector property : String) :
    Built (rules.erase selector property)
  /-- A removal of a selector. -/
  | eraseSelector {rules : RuleSet P} (h : Built rules) (selector : String) :
    Built (rules.eraseSelector selector)

/-- The operations make well-formed rule sets only. -/
lemma Built.wellFormed (h : rules.Built) : rules.WellFormed := by
  induction h with
  | empty => exact .empty
  | insert _ selector property value ih => exact ih.insert selector property value
  | erase _ selector property ih => exact ih.erase selector property
  | eraseSelector _ selector ih => exact ih.eraseSelector selector

/-! ### Conditions on values -/

/-- Every value of a rule set satisfies `p`. -/
def EachValue (p : RuleValue P → Prop) (rules : RuleSet P) : Prop :=
  ∀ e ∈ rules.blocks.entries, ∀ d ∈ e.2.entries, p d.2

namespace EachValue

variable {p : RuleValue P → Prop}

lemma empty : EachValue p RuleSet.empty := fun _ h => absurd h List.not_mem_nil

lemma eraseSelector (h : rules.EachValue p) (selector : String) :
    (rules.eraseSelector selector).EachValue p :=
  fun e he => h e (OrderedMap.mem_erase he)

/-- The values of a block satisfy the condition. -/
lemma of_get? (h : rules.EachValue p) {block : Declarations P}
    (hblock : rules.get? selector = some block) : ∀ d ∈ block.entries, p d.2 :=
  h _ (OrderedMap.mem_entries_of_get? hblock)

lemma insertAll (h : rules.EachValue p) (selector : String)
    {entries : List (String × RuleValue P)} (hentries : ∀ d ∈ entries, p d.2) :
    (rules.insertAll selector entries).EachValue p := by
  by_cases hne : entries = []
  · subst hne
    exact h
  rw [insertAll_eq _ _ hne]
  intro e he d hd
  rcases OrderedMap.mem_insert he with rfl | hold
  · rcases OrderedMap.mem_insertAll hd with hnew | hd
    · exact hentries d hnew
    · cases hblock : rules.get? selector with
      | none => simp [hblock, OrderedMap.empty] at hd
      | some block => exact h.of_get? hblock d (by simpa [hblock] using hd)
  · exact h e hold d hd

lemma insert (h : rules.EachValue p) (selector property : String) (hvalue : p value) :
    (rules.insert selector property value).EachValue p := by
  have hentries : ∀ d ∈ [(property, value)], p d.2 := by simpa using hvalue
  exact h.insertAll selector hentries

lemma erase (h : rules.EachValue p) (selector property : String) :
    (rules.erase selector property).EachValue p := by
  obtain ⟨-, heq⟩ | ⟨block, hblock, ⟨-, heq⟩ | ⟨-, heq⟩⟩ := erase_cases rules selector property
  · rw [heq]
    exact h
  · rw [heq]
    exact h.eraseSelector selector
  · rw [heq]
    intro e he d hd
    rcases OrderedMap.mem_insert he with rfl | hold
    · exact h.of_get? hblock d (OrderedMap.mem_erase hd)
    · exact h e hold d hd

end EachValue

end RuleSet

end Restyle
