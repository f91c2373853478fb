import Restyle.Proofs.OrderedMap
import Restyle.Proofs.Walk.Sites

/-!
# Extending definitions

A definition that is extended by another one takes the entries of the other: those under its own
keys where they stand, and the rest behind. Nested definitions are entries like any other, so they
are replaced and not merged.

Definitions are lists of entries, and the laws of an override hold as long as no key occurs twice.
This is so for all definitions that are made by the builder (`Definition.Built`), at every depth.
Then extension is associative and idempotent, the empty definition changes nothing on either side,
and if no key is shared, the walks follow one another (`Definition.extend_overrides`).
-/

namespace Restyle

variable {P : Type}

namespace Definition

/-- The definitions that are made from the empty one by the builder. -/
inductive Built : Definition P → Prop
  /-- The empty definition. -/
  | empty : Built .empty
  /-- A fixed value is added. -/
  | set {d : Definition P} (h : Built d) (key : String) (value : Value) : Built (d.set key value)
  /-- A produced value is added. -/
  | compute {d : Definition P} (h : Built d) (key : String) (producer : P) :
    Built (d.compute key producer)
  /-- A nested definition is added. -/
  | nest {d inner : Definition P} (h : Built d) (key : String) (hinner : Built inner) :
    Built (d.nest key inner)
  /-- Any entry is added; a definition in it has to be built as well. -/
  | insert {d : Definition P} (h : Built d) (key : String) {entry : Entry P}
    (hentry : ∀ inner, entry = .nested inner → Built inner) : Built (OrderedMap.insert d key entry)
  /-- A definition is extended by another one. -/
  | extend {d other : Definition P} (h : Built d) (hother : Built other) : Built (d.extend other)

namespace Built

variable {d : Definition P}

/-- In a definition that is built no key occurs twice. -/
lemma distinct (h : d.Built) : d.Distinct := by
  induction h with
  | empty => exact OrderedMap.distinct_empty
  | set _ key value ih => exact ih.insert key (.fixed value)
  | compute _ key producer ih => exact ih.insert key (.computed producer)
  | nest _ key _ ih _ => exact ih.insert key _
  | insert _ key _ ih _ => exact ih.insert key _
  | extend _ _ ih _ => exact ih.extend _

/-- A definition nested in one that is built is built itself. -/
lemma of_mem (h : d.Built) {key : String} {inner : Definition P}
    (hmem : (key, .nested inner) ∈ d.entries) : inner.Built := by
  induction h with
  | empty => cases hmem
  | set _ _ _ ih =>
    rcases OrderedMap.mem_insert hmem with heq | hold
    · cases heq
    · exact ih hold
  | compute _ _ _ ih =>
    rcases OrderedMap.mem_insert hmem with heq | hold
    · cases heq
    · exact ih hold
  | nest _ _ hinner ih _ =>
    rcases OrderedMap.mem_insert hmem with heq | hold
    · cases heq
      exact hinner
    · exact ih hold
  | insert _ _ hentry ih _ =>
    rcases OrderedMap.mem_insert hmem with heq | hold
    · exact hentry inner (Prod.mk.inj heq).2.symm
    · exact ih hold
  | extend _ _ ih ih' =>
    rcases OrderedMap.mem_insertAll hmem with hother | hold
    · exact ih' hother
    · exact ih hold

/-- The same holds at every depth. -/
lemma of_holds (h : d.Built) {path : List String} {key : String} {inner : Definition P}
    (hholds : d.Holds path key (.nested inner)) : inner.Built := by
  generalize hentry : Entry.nested inner = entry at hholds
  induction hholds with
  | here hmem =>
    subst hentry
    exact h.of_mem hmem
  | inside hmem _ ih => exact ih (h.of_mem hmem) hentry

end Built

/-- If two definitions share no key, the walk of the first one extended by the second one goes
through the first one and then through the second one. -/
lemma walk_extend_of_disjoint {a b : Definition P} (ha : a.Distinct) (hb : b.Distinct)
    (h : ∀ key ∈ a.keys, key ∉ b.keys) (selector : String) :
    Definition.walk (a.extend b) selector = a.walk selector ++ b.walk selector := by
  rw [walk, OrderedMap.entries_extend_of_disjoint ha hb h, walkEntries_append, walk, walk]

/-- In definitions that are built no key occurs twice, at any depth. Extending a definition by
another one keeps its keys in their places and puts the new keys of the other one behind them, in
their order; under each key stands the entry of the other one, if it has the key. Extension is
associative, the empty definition is neutral on both sides, and a definition extended by itself
stays as it is. If the two share no key, what a walk reports is what the two walks report, one after
the other. -/
theorem extend_overrides {a b c : Definition P} (ha : a.Built) (hb : b.Built) (hc : c.Built) :
    a.Distinct ∧
    (∀ path key inner, a.Holds path key (.nested inner) → inner.Distinct) ∧
    (a.extend b).keys = a.keys ++ (b.keys.filter fun key => key ∉ a.keys) ∧
    (∀ key, (a.extend b).get? key = (b.get? key).or (a.get? key)) ∧
    (a.extend b).extend c = a.extend (b.extend c) ∧
    a.extend .empty = a ∧ OrderedMap.empty.extend a = a ∧ a.extend a = a ∧
    ((∀ key ∈ a.keys, key ∉ b.keys) → ∀ selector,
      Definition.walk (a.extend b) selector = a.walk selector ++ b.walk selector) :=
  ⟨ha.distinct, fun _ _ _ hholds => (ha.of_holds hholds).distinct,
    OrderedMap.keys_extend a hb.distinct, OrderedMap.get?_extend a hb.distinct,
    OrderedMap.extend_assoc ha.distinct hb.distinct hc.distinct, rfl,
    OrderedMap.empty_extend ha.distinct, OrderedMap.extend_self ha.distinct,
    fun hdisjoint => walk_extend_of_disjoint ha.distinct hb.distinct hdisjoint⟩

/-- A definition with a nested one. -/
def card : Definition Nat :=
  (set .empty "color" (.text "red")).nest "div" (compute .empty "width" 0)

/-- A definition of which one key is also in `card`. -/
def cardOverrides : Definition Nat :=
  (nest .empty "div" (set .empty "margin" (.text "0"))).set "top" (.text "1px")

/-- A definition that shares no key with `card`. -/
def cardExtras : Definition Nat := nest .empty "span" (set .empty "color" (.text "blue"))

/-- The nested definition of `card` is replaced as a whole, and definitions without shared keys are
walked one after the other. -/
theorem extend_overrides_card :
    card.Built ∧ cardOverrides.Built ∧ cardExtras.Built ∧
    (card.extend cardOverrides).keys = ["color", "div", "top"] ∧
    (card.extend cardOverrides).get? "div" =
      some (.nested (set .empty "margin" (.text "0"))) ∧
    (card.extend cardOverrides).extend cardExtras = card.extend (cardOverrides.extend cardExtras) ∧
    Definition.walk (card.extend cardExtras) ".A" = card.walk ".A" ++ cardExtras.walk ".A" := by
  have hcard : card.Built := (Built.empty.set "color" _).nest "div" (.compute .empty "width" 0)
  have hoverrides : cardOverrides.Built :=
    .set (.nest .empty "div" (.set .empty "margin" _)) "top" _
  have hextras : cardExtras.Built := .nest .empty "span" (.set .empty "color" _)
  obtain ⟨-, -, hkeys, hget, hassoc, -, -, -, -⟩ := extend_overrides hcard hoverrides hextras
  obtain ⟨-, -, -, -, -, -, -, -, hwalk⟩ := extend_overrides hcard hextras hoverrides
  refine ⟨hcard, hoverrides, hextras, hkeys.trans (by decide), (hget "div").trans rfl, hassoc, ?_⟩
  exact hwalk (by decide) ".A"

end Definition

end Restyle
