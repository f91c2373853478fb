import Restyle.Proofs.Compilation.Frames
import Restyle.Proofs.Compilation.Refresh
import Restyle.Proofs.Rendering.FirstFailure

/-!
# What a compilation holds

The three rule sets of a compilation hold values of different sorts (`Compilation.Sorted`). The
fixed rules hold fixed values and nothing else, the fixed keyframes hold frames of fixed values, and
the dynamic rules hold produced values and frames. A frame always declares something and never has a
frame inside it. Every event keeps this, whatever has been declared before and however degenerate a
timeline is.

Two things follow for rendering (`compile_contents`). The fixed side needs no component, so it is
rendered without one and cannot fail; and since no block is empty and every block has an opening, a
side has a text if and only if it has a block.
-/

namespace Restyle

variable {P : Type}

lemma anyDynamic_eq (declarations : List (String × RuleValue P)) :
    anyDynamic declarations = declarations.any fun d => d.2.isDynamic := by
  induction declarations with
  | nil => simp [anyDynamic]
  | cons d rest ih =>
    obtain ⟨property, value⟩ := d
    rw [anyDynamic, List.any_cons, ih]

lemma anyDynamic_eq_false_iff {declarations : List (String × RuleValue P)} :
    anyDynamic declarations = false ↔ ∀ d ∈ declarations, d.2.isDynamic = false := by
  simp [anyDynamic_eq]

/-- A rule set has nothing dynamic if and only if none of its values is. -/
lemma RuleSet.hasDynamic_eq_false_iff {rules : RuleSet P} :
    rules.hasDynamic = false ↔ rules.EachValue fun value => value.isDynamic = false := by
  rw [hasDynamic, List.any_eq_false]
  refine forall₂_congr fun e _ => ?_
  rw [Bool.not_eq_true, anyDynamic_eq_false_iff]

/-! ### Sorts of values -/

namespace RuleValue

/-- A fixed value. -/
def IsFixed (value : RuleValue P) : Prop := ∃ literal, value = .fixed literal

/-- A produced value. -/
def IsProduced (value : RuleValue P) : Prop := ∃ producer, value = .computed producer

/-- A frame that declares something, with values that all satisfy `p`. -/
def IsFrameOf (p : RuleValue P → Prop) (value : RuleValue P) : Prop :=
  ∃ frame : Declarations P, value = .frame frame ∧ frame ≠ .empty ∧ ∀ d ∈ frame.entries, p d.2

lemma IsFixed.isDynamic {value : RuleValue P} (h : value.IsFixed) : value.isDynamic = false := by
  obtain ⟨literal, rfl⟩ := h
  rw [RuleValue.isDynamic]

lemma IsFrameOf.isDynamic {value : RuleValue P} (h : value.IsFrameOf IsFixed) :
    value.isDynamic = false := by
  obtain ⟨frame, rfl, -, hfixed⟩ := h
  change anyDynamic frame.entries = false
  exact anyDynamic_eq_false_iff.mpr fun d hd => (hfixed d hd).isDynamic

end RuleValue

/-! ### Frames -/

/-- What a timeline declares is fixed or produced; it never declares a frame. -/
lemma isFixed_or_isProduced_of_mem_declarations {timeline : Definition P} {d : TimedDeclaration P}
    (hd : d ∈ timeline.declarations) : d.value.IsFixed ∨ d.value.IsProduced := by
  rw [← filterMap_timed?_walkTimeline] at hd
  obtain ⟨event, -, htimed⟩ := List.mem_filterMap.mp hd
  cases event with
  | fixed offset property value =>
    obtain rfl := Option.some.inj htimed
    exact Or.inl ⟨value, rfl⟩
  | computed offset property producer =>
    obtain rfl := Option.some.inj htimed
    exact Or.inr ⟨producer, rfl⟩
  | keyframes offset name inner => cases htimed

/-- What a timeline without produced values declares is fixed. -/
lemma isFixed_of_mem_declarations {timeline : Definition P}
    (h : timeline.isDynamicTimeline = false) {d : TimedDeclaration P}
    (hd : d ∈ timeline.declarations) : d.value.IsFixed := by
  rw [Definition.isDynamicTimeline, List.any_eq_false] at h
  rw [← filterMap_timed?_walkTimeline] at hd
  obtain ⟨event, hevent, htimed⟩ := List.mem_filterMap.mp hd
  cases event with
  | fixed offset property value =>
    obtain rfl := Option.some.inj htimed
    exact ⟨value, rfl⟩
  | computed offset property producer => exact absurd rfl (h _ hevent)
  | keyframes offset name inner => cases htimed

/-- The entries of the block of a timeline are frames of what it declares. -/
lemma isFrameOf_of_mem_frameEntries {timeline : Definition P} {p : RuleValue P → Prop}
    (h : ∀ d ∈ timeline.declarations, p d.value) :
    ∀ e ∈ timeline.frameEntries, e.2.IsFrameOf p := by
  have hframes : timeline.frames.WellFormed ∧ timeline.frames.EachValue p := by
    rw [frames_eq_collectFrames, collectFrames]
    refine List.foldlRecOn (motive := fun rules : RuleSet P => rules.WellFormed ∧ rules.EachValue p)
      timeline.declarations _ ⟨.empty, .empty⟩ fun rules hrules d hd => ?_
    obtain ⟨hwell, hvalues⟩ := hrules
    exact ⟨hwell.insert d.offset d.property d.value, hvalues.insert d.offset d.property (h d hd)⟩
  obtain ⟨hwell, hvalues⟩ := hframes
  intro e he
  obtain ⟨frame, hframe, rfl⟩ := List.mem_map.mp he
  exact ⟨frame.2, rfl, hwell.block_nonempty frame hframe, hvalues frame hframe⟩

/-- A block that is put under its heading brings in its own values only. -/
lemma RuleSet.EachValue.putFrames {rules : RuleSet P} {p : RuleValue P → Prop}
    (h : rules.EachValue p) (heading : String) {timeline : Definition P}
    (hframes : ∀ e ∈ timeline.frameEntries, p e.2) :
    (rules.putFrames heading timeline).EachValue p :=
  (h.eraseSelector heading).insertAll heading hframes

/-! ### Compilations -/

namespace Compilation

/-- The rule sets of a compilation hold values of the sorts that they are there for. -/
structure Sorted (c : Compilation P) : Prop where
  /-- The fixed rules hold fixed values. -/
  staticRules : c.staticRules.EachValue RuleValue.IsFixed
  /-- The fixed keyframes hold frames of fixed values. -/
  staticKeyframes : c.staticKeyframes.EachValue (RuleValue.IsFrameOf RuleValue.IsFixed)
  /-- The dynamic rules hold produced values, and frames of fixed and produced ones. -/
  dynamicRules : c.dynamicRules.EachValue fun value =>
    value.IsProduced ∨ value.IsFrameOf fun inner => inner.IsFixed ∨ inner.IsProduced

lemma Sorted.record {c : Compilation P} (h : c.Sorted) (event : Event P) :
    (c.record event).Sorted := by
  cases event with
  | fixed s p value =>
    exact ⟨h.staticRules.insert s p ⟨value, rfl⟩, h.staticKeyframes, h.dynamicRules.erase s p⟩
  | computed s p producer =>
    exact ⟨h.staticRules.erase s p, h.staticKeyframes,
      h.dynamicRules.insert s p (Or.inl ⟨producer, rfl⟩)⟩
  | keyframes parent name timeline =>
    cases hd : timeline.isDynamicTimeline with
    | true =>
      rw [record_keyframes_of_dynamic c parent name hd]
      refine ⟨h.staticRules, h.staticKeyframes.eraseSelector _, h.dynamicRules.putFrames _ ?_⟩
      exact fun e he => Or.inr (isFrameOf_of_mem_frameEntries
        (fun _ => isFixed_or_isProduced_of_mem_declarations) e he)
    | false =>
      rw [record_keyframes_of_static c parent name hd]
      exact ⟨h.staticRules, h.staticKeyframes.putFrames _
          (isFrameOf_of_mem_frameEntries fun _ => isFixed_of_mem_declarations hd),
        h.dynamicRules.eraseSelector _⟩

end Compilation

lemma sorted_compile (d : Definition P) (base : String) : (d.compile base).Sorted :=
  List.foldlRecOn (d.walk base) _ ⟨.empty, .empty, .empty⟩ fun _ h event _ => h.record event

/-- The fixed rules of a compilation hold nothing dynamic. -/
theorem hasDynamic_staticRules_compile (d : Definition P) (base : String) :
    (d.compile base).staticRules.hasDynamic = false :=
  RuleSet.hasDynamic_eq_false_iff.mpr fun e he v hv =>
    ((sorted_compile d base).staticRules e he v hv).isDynamic

/-- The fixed keyframes of a compilation hold nothing dynamic. -/
theorem hasDynamic_staticKeyframes_compile (d : Definition P) (base : String) :
    (d.compile base).staticKeyframes.hasDynamic = false :=
  RuleSet.hasDynamic_eq_false_iff.mpr fun e he v hv =>
    ((sorted_compile d base).staticKeyframes e he v hv).isDynamic

/-! ### Texts of a compilation -/

/-- There is something fixed if and only if the two fixed texts are not both empty. -/
lemma hasStatic_compile_iff (d : Definition P) (base : String) (layout : Layout) :
    (d.compile base).hasStatic = true ↔
      (d.compile base).staticRules.fixedText layout ++
        (d.compile base).staticKeyframes.fixedText layout ≠ "" := by
  rw [Ne, String.append_eq_empty_iff, RuleSet.fixedText_eq_empty_iff,
    RuleSet.fixedText_eq_empty_iff, Compilation.hasStatic]
  cases (d.compile base).staticRules.isEmpty <;>
    cases (d.compile base).staticKeyframes.isEmpty <;> simp

/-- What a compilation holds, and what follows for its texts. Each of the three rule sets holds
values of its own sorts only, and has no empty block. The fixed side is rendered without a
component, in each layout, to two texts, apart or one after the other; these are not both empty if
and only if there is something fixed. Whenever rendering the dynamic rules gives a text, it is not
empty if and only if there is something dynamic. -/
theorem compile_contents (d : Definition P) (base : String) :
    (d.compile base).Sorted ∧
    (∀ rules ∈ [(d.compile base).staticRules, (d.compile base).staticKeyframes,
        (d.compile base).dynamicRules], ∀ e ∈ rules.blocks.entries, e.2 ≠ .empty) ∧
    (∀ layout : Layout, ∃ rules keyframes,
      (∀ (C σ : Type) (eval : Evaluator P C σ) (memory : σ),
        (d.compile base).staticRules.render eval none layout memory = (.ok rules, memory) ∧
        (d.compile base).staticKeyframes.render eval none layout memory =
          (.ok keyframes, memory)) ∧
      RuleSet.renderFixed [(d.compile base).staticRules, (d.compile base).staticKeyframes] layout =
        .ok (rules ++ keyframes) ∧
      ((d.compile base).hasStatic = true ↔ rules ++ keyframes ≠ "")) ∧
    (∀ (C σ : Type) (eval : Evaluator P C σ) (component : Option C) (layout : Layout)
      (memory last : σ) (text : String),
      (d.compile base).dynamicRules.render eval component layout memory = (.ok text, last) →
        ((d.compile base).hasDynamic = true ↔ text ≠ "")) := by
  have hwell : (d.compile base).WellFormed := wellFormed_compile d base
  refine ⟨sorted_compile d base, ?_, fun layout => ?_, ?_⟩
  · intro rules hrules e he
    rcases List.mem_cons.mp hrules with rfl | hrules
    · exact hwell.staticRules.block_nonempty e he
    rcases List.mem_cons.mp hrules with rfl | hrules
    · exact hwell.staticKeyframes.block_nonempty e he
    · obtain rfl := List.mem_singleton.mp hrules
      exact hwell.dynamicRules.block_nonempty e he
  · have hrules := hasDynamic_staticRules_compile d base
    have hkeyframes := hasDynamic_staticKeyframes_compile d base
    exact ⟨_, _, fun C σ eval memory => ⟨RuleSet.render_of_not_hasDynamic hrules ..,
        RuleSet.render_of_not_hasDynamic hkeyframes ..⟩,
      RuleSet.renderFixed_of_not_hasDynamic hrules hkeyframes layout,
      hasStatic_compile_iff d base layout⟩
  · intro C σ eval component layout memory last text htext
    rw [Ne, RuleSet.eq_empty_iff_of_render htext, Compilation.hasDynamic]
    simp

/-- A definition with something for each of the three rule sets, and with a timeline that declares
nothing. -/
def panel : Definition Nat :=
  ⟨[("width", .fixed (.text "1px")), ("color", .computed 0),
    ("@spin", .nested ⟨[("from", .nested ⟨[("top", .fixed (.text "0"))]⟩)]⟩),
    ("@rest", .nested ⟨[("from", .fixed (.text "0"))]⟩)]⟩

/-- The dynamic rules of `panel` have a text if the producer gives a value. -/
theorem compile_contents_panel :
    (panel.compile ".A").dynamicRules.render onlyFirst (some ()) .compact 0 =
      (.ok ".A\x7bcolor:red;\x7d", 1) ∧
    ((panel.compile ".A").hasDynamic = true ↔ ".A\x7bcolor:red;\x7d" ≠ "") := by
  have hrender : (panel.compile ".A").dynamicRules.render onlyFirst (some ()) .compact 0 =
      (.ok ".A\x7bcolor:red;\x7d", 1) := rfl
  obtain ⟨-, -, -, hdynamic⟩ := compile_contents panel ".A"
  exact ⟨hrender, hdynamic Unit Nat onlyFirst (some ()) .compact 0 1 _ hrender⟩

end Restyle
