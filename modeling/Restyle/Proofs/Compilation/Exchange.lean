import Restyle.Proofs.Compilation.Contents
import Restyle.Proofs.Compilation.Refresh
import Restyle.Proofs.Walk.Exchange
import Restyle.Proofs.Record

/-!
# Compilations do not look into producers

Compiling a definition with other producers gives the old compilation with these producers in the
places of the old ones (`Definition.compile_exchange`), and a refresh does the same
(`RuleSet.refresh_exchange`): every operation on rule sets moves values around, and decides at most
on whether they are produced. On the fixed side there is no producer at any depth, so nothing
changes there.

`compile_exchanged` says it of two definitions of one shape.
-/

universe u

namespace Restyle

variable {P Q : Type}

/-! ### Ordered maps with other values -/

namespace OrderedMap

variable {α β : Type u} (f : α → β) (m : OrderedMap α)

lemma entries_map : (m.map f).entries = m.entries.map fun e => (e.1, f e.2) := rfl

lemma get?_map (key : String) : (m.map f).get? key = (m.get? key).map f :=
  get?_mapKeyed (fun _ => f) m key

lemma map_insert (key : String) (value : α) :
    (m.insert key value).map f = (m.map f).insert key (f value) := by
  obtain ⟨entries⟩ := m
  change mk ((insertEntry key value entries).map fun e => (e.1, f e.2)) =
    mk (insertEntry key (f value) (entries.map fun e => (e.1, f e.2)))
  congr 1
  induction entries with
  | nil => rfl
  | cons e rest ih =>
    rw [List.map_cons, insertEntry, insertEntry, ← ih]
    split <;> rfl

lemma map_erase (key : String) : (m.erase key).map f = (m.map f).erase key := by
  unfold map erase
  rw [List.filter_map]
  rfl

@[simp] lemma isEmpty_map : (m.map f).isEmpty = m.isEmpty := List.isEmpty_map

/-- If values with the same image are the two sides of a value, then maps with the same image are
the two sides of a map. -/
lemma exists_pairs {α' γ δ : Type u} {fst : γ → α} {snd : γ → α'}
    {f : α → δ} {f' : α' → δ} (hvalue : ∀ a a', f a = f' a' → ∃ c, fst c = a ∧ snd c = a')
    {m : OrderedMap α} {m' : OrderedMap α'} (h : m.map f = m'.map f') :
    ∃ pairs : OrderedMap γ, pairs.map fst = m ∧ pairs.map snd = m' := by
  obtain ⟨entries⟩ := m
  obtain ⟨entries'⟩ := m'
  replace h : (entries.map fun e => (e.1, f e.2)) = entries'.map fun e => (e.1, f' e.2) := mk.inj h
  induction entries generalizing entries' with
  | nil =>
    obtain rfl : entries' = [] := List.map_eq_nil_iff.mp h.symm
    exact ⟨empty, rfl, rfl⟩
  | cons e rest ih =>
    obtain ⟨e', rest', rfl, he, hrest⟩ := List.map_eq_cons_iff.mp h.symm
    obtain ⟨hkey, himage⟩ := Prod.mk.inj he
    obtain ⟨c, hfst, hsnd⟩ := hvalue e.2 e'.2 himage.symm
    obtain ⟨pairs, hfsts, hsnds⟩ := ih rest' hrest.symm
    refine ⟨⟨(e.1, c) :: pairs.entries⟩, ?_, ?_⟩
    · exact congrArg mk (congrArg₂ List.cons (Prod.ext rfl hfst) (mk.inj hfsts))
    · exact congrArg mk (congrArg₂ List.cons (Prod.ext hkey.symm hsnd) (mk.inj hsnds))

end OrderedMap

/-! ### Values of rule sets -/

mutual

/-- Puts `f producer` in the place of every producer of a value. -/
def RuleValue.exchange (f : P → Q) : RuleValue P → RuleValue Q
  | .fixed value => .fixed value
  | .computed producer => .computed (f producer)
  | .frame ⟨declarations⟩ => .frame ⟨exchangeDeclarations f declarations⟩

/-- Puts `f producer` in the place of every producer of a list of declarations. -/
def exchangeDeclarations (f : P → Q) : List (String × RuleValue P) → List (String × RuleValue Q)
  | [] => []
  | (property, value) :: rest => (property, value.exchange f) :: exchangeDeclarations f rest

end

lemma exchangeDeclarations_eq_map (f : P → Q) (declarations : List (String × RuleValue P)) :
    exchangeDeclarations f declarations = declarations.map fun e => (e.1, e.2.exchange f) := by
  induction declarations with
  | nil => rfl
  | cons e rest ih => rw [exchangeDeclarations, ih, List.map_cons]

@[simp] lemma RuleValue.exchange_frame (f : P → Q) (declarations : Declarations P) :
    (RuleValue.frame declarations).exchange f = .frame (declarations.map (RuleValue.exchange f)) :=
  congrArg (RuleValue.frame ⟨·⟩) (exchangeDeclarations_eq_map f declarations.entries)

mutual

/-- A value that is not dynamic has no producers. -/
theorem RuleValue.exchange_congr {f g : P → Q} : (value : RuleValue P) →
    value.isDynamic = false → value.exchange f = value.exchange g
  | .fixed value, _ => rfl
  | .computed producer, h => by simp [RuleValue.isDynamic] at h
  | .frame ⟨declarations⟩, h => by
    rw [RuleValue.isDynamic] at h
    rw [RuleValue.exchange, RuleValue.exchange, exchangeDeclarations_congr declarations h]

/-- Declarations that are not dynamic have no producers. -/
theorem exchangeDeclarations_congr {f g : P → Q} : (declarations : List (String × RuleValue P)) →
    anyDynamic declarations = false →
    exchangeDeclarations f declarations = exchangeDeclarations g declarations
  | [], _ => rfl
  | (property, value) :: rest, h => by
    obtain ⟨hvalue, hrest⟩ := Bool.or_eq_false_iff.mp (anyDynamic.eq_2 .. ▸ h)
    rw [exchangeDeclarations, exchangeDeclarations, RuleValue.exchange_congr value hvalue,
      exchangeDeclarations_congr rest hrest]

end

mutual

/-- Two values of one shape are the two sides of one value. -/
theorem RuleValue.exists_pairs : (value : RuleValue P) → (value' : RuleValue Q) →
    value.exchange (fun _ => ()) = value'.exchange (fun _ => ()) →
    ∃ pairs : RuleValue (P × Q), pairs.exchange Prod.fst = value ∧ pairs.exchange Prod.snd = value'
  | .fixed value, other, h => by
    cases other with
    | fixed value' =>
      obtain rfl : value = value' := RuleValue.fixed.inj h
      exact ⟨.fixed value, rfl, rfl⟩
    | computed producer' => cases h
    | frame declarations' => cases h
  | .computed producer, other, h => by
    cases other with
    | fixed value' => cases h
    | computed producer' => exact ⟨.computed (producer, producer'), rfl, rfl⟩
    | frame declarations' => cases h
  | .frame ⟨declarations⟩, other, h => by
    cases other with
    | fixed value' => cases h
    | computed producer' => cases h
    | frame declarations' =>
      obtain ⟨pairs, hfst, hsnd⟩ := exists_pairs_declarations declarations declarations'.entries
        (OrderedMap.mk.inj (RuleValue.frame.inj h))
      exact ⟨.frame ⟨pairs⟩, by rw [RuleValue.exchange, hfst], by rw [RuleValue.exchange, hsnd]⟩

/-- Two lists of declarations of one shape are the two sides of one list. -/
theorem exists_pairs_declarations :
    (declarations : List (String × RuleValue P)) → (declarations' : List (String × RuleValue Q)) →
    exchangeDeclarations (fun _ => ()) declarations =
      exchangeDeclarations (fun _ => ()) declarations' →
    ∃ pairs : List (String × RuleValue (P × Q)),
      exchangeDeclarations Prod.fst pairs = declarations ∧
      exchangeDeclarations Prod.snd pairs = declarations'
  | [], declarations', h => by
    cases declarations' with
    | nil => exact ⟨[], rfl, rfl⟩
    | cons e' rest' => cases h
  | (property, value) :: rest, declarations', h => by
    cases declarations' with
    | nil => cases h
    | cons e' rest' =>
      obtain ⟨hhead, hrest⟩ := List.cons.inj h
      obtain ⟨hproperty, hvalue⟩ := Prod.mk.inj hhead
      obtain ⟨pair, hfst, hsnd⟩ := RuleValue.exists_pairs value e'.2 hvalue
      obtain ⟨pairs, hfsts, hsnds⟩ := exists_pairs_declarations rest rest' hrest
      refine ⟨(property, pair) :: pairs, ?_, ?_⟩
      · rw [exchangeDeclarations, hfst, hfsts]
      · rw [exchangeDeclarations, hsnd, hsnds, hproperty]

end

/-! ### Rule sets -/

namespace RuleSet

variable (f : P → Q) (rules : RuleSet P)

/-- Puts `f producer` in the place of every producer of a rule set. -/
def exchange (f : P → Q) (rules : RuleSet P) : RuleSet Q :=
  ⟨rules.blocks.map (OrderedMap.map (RuleValue.exchange f))⟩

/-- A rule set without its producers: what is left are the selectors, the properties, the frames and
the fixed values, in their order. -/
def shape (rules : RuleSet P) : RuleSet Unit := rules.exchange fun _ => ()

/-- Two rule sets of one shape are the two sides of one rule set with pairs of producers. -/
lemma exists_pairs {rules : RuleSet P} {rules' : RuleSet Q} (h : rules.shape = rules'.shape) :
    ∃ pairs : RuleSet (P × Q),
      pairs.exchange Prod.fst = rules ∧ pairs.exchange Prod.snd = rules' := by
  obtain ⟨pairs, hfst, hsnd⟩ := OrderedMap.exists_pairs
    (fun _ _ hblock => OrderedMap.exists_pairs RuleValue.exists_pairs hblock) (RuleSet.mk.inj h)
  exact ⟨⟨pairs⟩, congrArg mk hfst, congrArg mk hsnd⟩

lemma get?_exchange (selector : String) :
    (rules.exchange f).get? selector =
      (rules.get? selector).map (OrderedMap.map (RuleValue.exchange f)) :=
  OrderedMap.get?_map ..

@[simp] lemma isEmpty_exchange : (rules.exchange f).isEmpty = rules.isEmpty :=
  OrderedMap.isEmpty_map ..

lemma exchange_insert (selector property : String) (value : RuleValue P) :
    (rules.insert selector property value).exchange f =
      (rules.exchange f).insert selector property (value.exchange f) := by
  have hblock : (((rules.get? selector).getD .empty).insert property value).map
        (RuleValue.exchange f) =
      (((rules.exchange f).get? selector).getD .empty).insert property (value.exchange f) := by
    rw [OrderedMap.map_insert, get?_exchange]
    cases rules.get? selector <;> rfl
  unfold insert
  rw [← hblock]
  exact congrArg mk (OrderedMap.map_insert ..)

lemma exchange_eraseSelector (selector : String) :
    (rules.eraseSelector selector).exchange f = (rules.exchange f).eraseSelector selector :=
  congrArg mk (OrderedMap.map_erase ..)

lemma exchange_erase (selector property : String) :
    (rules.erase selector property).exchange f = (rules.exchange f).erase selector property := by
  unfold erase
  rw [get?_exchange]
  cases rules.get? selector with
  | none => rfl
  | some block =>
    simp only [Option.map_some, ← OrderedMap.map_erase, OrderedMap.isEmpty_map]
    split
    · exact congrArg mk (OrderedMap.map_erase ..)
    · exact congrArg mk (OrderedMap.map_insert ..)

lemma exchange_insertAll (selector : String) (entries : List (String × RuleValue P)) :
    (rules.insertAll selector entries).exchange f =
      (rules.exchange f).insertAll selector (exchangeDeclarations f entries) := by
  induction entries generalizing rules with
  | nil => rfl
  | cons e rest ih =>
    have hrest := ih (rules.insert selector e.1 e.2)
    rw [exchange_insert] at hrest
    exact hrest

/-- A rule set without dynamic values stays the same. -/
lemma exchange_congr {f g : P → Q} {rules : RuleSet P} (h : rules.hasDynamic = false) :
    rules.exchange f = rules.exchange g := by
  have hvalues := hasDynamic_eq_false_iff.mp h
  refine congrArg mk (congrArg OrderedMap.mk (List.map_congr_left fun e he => ?_))
  refine congrArg (Prod.mk e.1) (congrArg OrderedMap.mk (List.map_congr_left fun x hx => ?_))
  exact congrArg (Prod.mk x.1) (RuleValue.exchange_congr x.2 (hvalues e he x hx))

end RuleSet

/-! ### Timelines -/

@[simp] lemma Event.isComputed_exchange (f : P → Q) (event : Event P) :
    (event.exchange f).isComputed = event.isComputed := by
  cases event <;> rfl

namespace Definition

/-- Whether a timeline declares a produced value does not depend on the producers. -/
@[simp] lemma isDynamicTimeline_exchange (f : P → Q) (timeline : Definition P) :
    (timeline.exchange f).isDynamicTimeline = timeline.isDynamicTimeline := by
  unfold isDynamicTimeline
  rw [walkTimeline_exchange, List.any_map]
  exact congrArg timeline.walkTimeline.any (funext (Event.isComputed_exchange f))

lemma frames_exchange (f : P → Q) (timeline : Definition P) :
    (timeline.exchange f).frames = timeline.frames.exchange f := by
  unfold frames
  rw [walkTimeline_exchange]
  induction timeline.walkTimeline using List.reverseRecOn with
  | nil => rfl
  | append_singleton events event ih =>
    rw [List.map_append, List.map_singleton, List.foldl_concat, List.foldl_concat, ih]
    cases event with
    | fixed offset property value =>
      exact (RuleSet.exchange_insert f _ offset property (.fixed value)).symm
    | computed offset property producer =>
      exact (RuleSet.exchange_insert f _ offset property (.computed producer)).symm
    | keyframes selector name inner => rfl

end Definition

lemma RuleSet.exchange_putFrames (f : P → Q) (rules : RuleSet P) (heading : String)
    (timeline : Definition P) :
    (rules.putFrames heading timeline).exchange f =
      (rules.exchange f).putFrames heading (timeline.exchange f) := by
  have hentries : exchangeDeclarations f (timeline.frames.blocks.entries.map fun e =>
        (e.1, .frame e.2)) =
      (timeline.exchange f).frames.blocks.entries.map fun e => (e.1, .frame e.2) := by
    rw [Definition.frames_exchange, exchangeDeclarations_eq_map, exchange, OrderedMap.entries_map,
      List.map_map, List.map_map]
    exact List.map_congr_left fun e _ => congrArg (Prod.mk e.1) (RuleValue.exchange_frame f e.2)
  unfold putFrames
  rw [exchange_insertAll, exchange_eraseSelector, hentries]

/-! ### First compilations -/

namespace Compilation

/-- Puts `f producer` in the place of every producer of a compilation. -/
def exchange (f : P → Q) (c : Compilation P) : Compilation Q where
  staticRules := c.staticRules.exchange f
  staticKeyframes := c.staticKeyframes.exchange f
  dynamicRules := c.dynamicRules.exchange f

/-- An event is recorded without a look into its producers. -/
lemma exchange_record (f : P → Q) (c : Compilation P) (event : Event P) :
    (c.record event).exchange f = (c.exchange f).record (event.exchange f) := by
  cases event with
  | fixed selector property value =>
    simp only [record, exchange, Event.exchange, RuleSet.exchange_insert, RuleSet.exchange_erase,
      RuleValue.exchange]
  | computed selector property producer =>
    simp only [record, exchange, Event.exchange, RuleSet.exchange_insert, RuleSet.exchange_erase,
      RuleValue.exchange]
  | keyframes parent name timeline =>
    simp only [record, Event.exchange, Definition.isDynamicTimeline_exchange]
    split
    · simp only [exchange, RuleSet.exchange_putFrames, RuleSet.exchange_eraseSelector]
    · simp only [exchange, RuleSet.exchange_putFrames, RuleSet.exchange_eraseSelector]

end Compilation

namespace Definition

/-- Compiling a definition with other producers gives the compilation with these producers. -/
theorem compile_exchange (f : P → Q) (d : Definition P) (base : String) :
    (d.exchange f).compile base = (d.compile base).exchange f := by
  unfold compile
  rw [walk_exchange]
  induction d.walk base using List.reverseRecOn with
  | nil => rfl
  | append_singleton events event ih =>
    rw [List.map_append, List.map_singleton, List.foldl_concat, List.foldl_concat, ih,
      Compilation.exchange_record]

end Definition

/-! ### Later compilations -/

lemma RuleSet.exchange_recordLatest (f : P → Q) (rules : RuleSet P) (event : Event P) :
    (rules.recordLatest event).exchange f = (rules.exchange f).recordLatest (event.exchange f) := by
  cases event with
  | fixed selector property value => exact RuleSet.exchange_insert ..
  | computed selector property producer => exact RuleSet.exchange_insert ..
  | keyframes parent name timeline => exact RuleSet.exchange_putFrames ..

lemma Definition.latest_exchange (f : P → Q) (d : Definition P) (base : String) :
    (d.exchange f).latest base = (d.latest base).exchange f := by
  unfold latest
  rw [walk_exchange]
  induction d.walk base using List.reverseRecOn with
  | nil => rfl
  | append_singleton events event ih =>
    rw [List.map_append, List.map_singleton, List.foldl_concat, List.foldl_concat, ih,
      RuleSet.exchange_recordLatest]

lemma refreshBlock_exchange (f : P → Q) (latest : RuleSet P) (selector : String)
    (block : Declarations P) :
    refreshBlock (latest.exchange f) selector (block.map (RuleValue.exchange f)) =
      exchangeDeclarations f (refreshBlock latest selector block) := by
  unfold refreshBlock
  rw [RuleSet.get?_exchange, exchangeDeclarations_eq_map]
  cases latest.get? selector with
  | none => rfl
  | some fresh =>
    simp only [Option.map_some]
    split
    · rfl
    · rw [OrderedMap.entries_map, List.map_map, List.map_map]
      refine List.map_congr_left fun e _ => ?_
      simp only [Function.comp_apply, OrderedMap.get?_map]
      cases fresh.get? e.1 <;> rfl

/-- Refreshing rules from a definition, both with other producers, gives the refreshed rules with
these producers. -/
theorem RuleSet.refresh_exchange (f : P → Q) (compiled : RuleSet P) (d : Definition P)
    (base : String) :
    (compiled.exchange f).refresh (d.exchange f) base = (compiled.refresh d base).exchange f := by
  unfold refresh
  simp only [Definition.latest_exchange]
  change List.foldl _ _ (compiled.blocks.entries.map _) = _
  rw [List.foldl_map]
  induction compiled.blocks.entries using List.reverseRecOn with
  | nil => rfl
  | append_singleton entries e ih =>
    rw [List.foldl_concat, List.foldl_concat, exchange_insertAll, ← refreshBlock_exchange, ih]

/-! ### Two definitions of one shape -/

/-- What a compilation makes of definitions that are the same except for their producers. The fixed
rules and the fixed keyframes are the same. The dynamic rules are the two sides of one rule set, the
dynamic rules of the definition whose producers are the pairs: they have the same selectors,
properties, frames and fixed values in the same order, and where one has a producer of the one
definition the other has the producer in its place in the other definition. So do refreshes of rules
that are the same except for their producers. Records of the two request the same targets, are at
the same stage and have the same fixed text in every layout. -/
theorem compile_exchanged {d d' : Definition P} (h : d.shape = d'.shape) (base : String) :
    (d.compile base).staticRules = (d'.compile base).staticRules ∧
    (d.compile base).staticKeyframes = (d'.compile base).staticKeyframes ∧
    (d.compile base).dynamicRules.shape = (d'.compile base).dynamicRules.shape ∧
    (∃ pairs : Definition (P × P), pairs.exchange Prod.fst = d ∧ pairs.exchange Prod.snd = d' ∧
      (d.compile base).dynamicRules = (pairs.compile base).dynamicRules.exchange Prod.fst ∧
      (d'.compile base).dynamicRules = (pairs.compile base).dynamicRules.exchange Prod.snd ∧
      ∀ rules rules' : RuleSet P, rules.shape = rules'.shape →
        (rules.refresh d base).shape = (rules'.refresh d' base).shape ∧
        ∃ both : RuleSet (P × P),
          both.exchange Prod.fst = rules ∧ both.exchange Prod.snd = rules' ∧
          rules.refresh d base = (both.refresh pairs base).exchange Prod.fst ∧
          rules'.refresh d' base = (both.refresh pairs base).exchange Prod.snd) ∧
    (∀ provider provider' targets,
      let r := Record.compile base provider d targets
      let r' := Record.compile base provider' d' targets
      r.2 = r'.2 ∧ r.1.staticTarget = r'.1.staticTarget ∧ r.1.dynamicTarget = r'.1.dynamicTarget ∧
        r.1.stage = r'.1.stage ∧ ∀ layout, r.1.renderStatic layout = r'.1.renderStatic layout) := by
  obtain ⟨pairs, hfst, hsnd⟩ := Definition.exists_pairs h
  -- both compilations are exchanges of one, whose fixed side has no pairs to exchange
  have hcompile : d.compile base = (pairs.compile base).exchange Prod.fst := by
    rw [← hfst, Definition.compile_exchange]
  have hcompile' : d'.compile base = (pairs.compile base).exchange Prod.snd := by
    rw [← hsnd, Definition.compile_exchange]
  have hrules : (d.compile base).staticRules = (d'.compile base).staticRules := by
    rw [hcompile, hcompile']
    exact RuleSet.exchange_congr (hasDynamic_staticRules_compile pairs base)
  have hkeyframes : (d.compile base).staticKeyframes = (d'.compile base).staticKeyframes := by
    rw [hcompile, hcompile']
    exact RuleSet.exchange_congr (hasDynamic_staticKeyframes_compile pairs base)
  have hshape : (d.compile base).exchange (fun _ => ()) =
      (d'.compile base).exchange fun _ => () := by
    rw [← Definition.compile_exchange, ← Definition.compile_exchange]
    exact congrArg (Definition.compile · base) h
  have hstatic : (d.compile base).hasStatic = (d'.compile base).hasStatic := by
    rw [Compilation.hasStatic, Compilation.hasStatic, hrules, hkeyframes]
  have hdynamic : (d.compile base).hasDynamic = (d'.compile base).hasDynamic := by
    rw [hcompile, hcompile']
    simp only [Compilation.hasDynamic, Compilation.exchange, RuleSet.isEmpty_exchange]
  refine ⟨hrules, hkeyframes, congrArg Compilation.dynamicRules hshape,
    ⟨pairs, hfst, hsnd, congrArg Compilation.dynamicRules hcompile,
      congrArg Compilation.dynamicRules hcompile', fun rules rules' hrule => ⟨?_, ?_⟩⟩,
    fun provider provider' targets => ?_⟩
  · unfold RuleSet.shape
    rw [← RuleSet.refresh_exchange, ← RuleSet.refresh_exchange]
    exact congrArg₂ (RuleSet.refresh · · base) hrule h
  · obtain ⟨both, hboth, hboth'⟩ := RuleSet.exists_pairs hrule
    refine ⟨both, hboth, hboth', ?_, ?_⟩
    · rw [← hboth, ← hfst, RuleSet.refresh_exchange]
    · rw [← hboth', ← hsnd, RuleSet.refresh_exchange]
  · intro r r'
    have hstage : r.1.stage = r'.1.stage := by
      unfold Record.stage
      rw [Record.compiled_compile, Record.compiled_compile, hdynamic]
    have hsheet : ∀ layout, r.1.renderStatic layout = r'.1.renderStatic layout := by
      intro layout
      unfold Record.renderStatic
      rw [Record.compiled_compile, Record.compiled_compile, hrules, hkeyframes]
    refine ⟨?_, ?_, ?_, hstage, hsheet⟩ <;> simp only [r, r', Record.compile, hstatic, hdynamic]

/-- A definition with a fixed declaration, a produced one and a keyframes block, for two
producers. -/
def tinted (color opacity : Nat) : Definition Nat :=
  ⟨[("color", .computed color), ("margin", .fixed (.text "1px")),
    ("@glow", .nested ⟨[("from", .nested ⟨[("opacity", .computed opacity)]⟩)]⟩)]⟩

/-- The fixed rules do not tell the two apart, and the dynamic ones only by the producers. -/
theorem compile_exchanged_tinted :
    (tinted 0 1).shape = (tinted 2 3).shape ∧
    ((tinted 0 1).compile ".A").staticRules = ((tinted 2 3).compile ".A").staticRules ∧
    ((tinted 0 1).compile ".A").dynamicRules.shape = ((tinted 2 3).compile ".A").dynamicRules.shape ∧
    ((tinted 0 1).compile ".A").dynamicRules.find? ".A" "color" = some (.computed 0) ∧
    ((tinted 2 3).compile ".A").dynamicRules.find? ".A" "color" = some (.computed 2) ∧
    (((tinted 0 1).compile ".A").dynamicRules.refresh (tinted 0 1) ".A").shape =
      (((tinted 2 3).compile ".A").dynamicRules.refresh (tinted 2 3) ".A").shape := by
  have hshape : (tinted 0 1).shape = (tinted 2 3).shape := rfl
  obtain ⟨hrules, -, hdynamic, ⟨pairs, -, -, -, -, hrefresh⟩, -⟩ := compile_exchanged hshape ".A"
  exact ⟨hshape, hrules, hdynamic, rfl, rfl, (hrefresh _ _ hdynamic).1⟩

end Restyle
