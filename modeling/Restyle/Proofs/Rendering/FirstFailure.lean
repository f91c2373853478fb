import Restyle.Proofs.Rendering.Leaves
import Restyle.Proofs.Rendering.Memory

/-!
# The first failing leaf

Rendering asks the leaves of a rule set for values, one after another in rendering order. A leaf
fails if there is no component to ask for, or if its producer fails for the component. Rendering
fails if and only if some leaf does, and the first one that fails decides everything
(`RuleSet.renderInto_outcome`): the error is its own, the page holds what stands before it, and
nothing behind it has run.

`withValues` puts the values that leaves have given into the pieces that were written for them.
Whatever the values are, the text of a rule set is empty only if there is no block
(`RuleSet.eq_empty_iff_of_render`).
-/

namespace Restyle

variable {P C σ : Type}

/-! ### What leaves answer -/

/-- The leaves of a list give values for the component, one after another, and lead from one memory
to another. -/
inductive LeavesGive (eval : Evaluator P C σ) (component : Option C) :
    List (Leaf P) → List Value → σ → σ → Prop
  | nil (memory : σ) : LeavesGive eval component [] [] memory memory
  | cons {leaf : Leaf P} {rest : List (Leaf P)} {value : Value} {values : List Value} {c : C}
      {first mid last : σ} (hcomponent : component = some c)
      (hfirst : eval leaf.producer c first = (.ok value, mid))
      (hrest : LeavesGive eval component rest values mid last) :
      LeavesGive eval component (leaf :: rest) (value :: values) first last

/-- A leaf fails with an error, and leads from one memory to another. -/
inductive LeafFails (eval : Evaluator P C σ) (leaf : Leaf P) :
    Option C → σ → StyleError → σ → Prop
  /-- There is no component, and the producer does not run. -/
  | missing (memory : σ) :
    LeafFails eval leaf none memory (.missingComponent leaf.selector leaf.property) memory
  /-- The producer runs and fails. -/
  | failed {c : C} {source : String} {first last : σ}
    (h : eval leaf.producer c first = (.error source, last)) :
    LeafFails eval leaf (some c) first (.producerFailed leaf.selector leaf.property source) last

/-- A failing leaf in a list of leaves. -/
structure Failure (P σ : Type) where
  /-- The leaves before it. -/
  earlier : List (Leaf P)
  /-- The values that they give. -/
  values : List Value
  /-- The leaf itself. -/
  leaf : Leaf P
  /-- Its error. -/
  error : StyleError
  /-- The memory that it leaves behind. -/
  memory : σ

/-- A failing leaf is the first one in a list: the leaves before it give values. -/
def Failure.IsFirst (failure : Failure P σ) (eval : Evaluator P C σ) (component : Option C)
    (leaves : List (Leaf P)) (memory : σ) : Prop :=
  ∃ later mid, leaves = failure.earlier ++ failure.leaf :: later ∧
    LeavesGive eval component failure.earlier failure.values memory mid ∧
    LeafFails eval failure.leaf component mid failure.error failure.memory

section Answers

variable (eval : Evaluator P C σ) (component : Option C)

/-- A leaf gives a value or fails. -/
lemma Leaf.gives_or_fails (leaf : Leaf P) (memory : σ) :
    (∃ c value last, component = some c ∧ eval leaf.producer c memory = (.ok value, last)) ∨
      ∃ error last, LeafFails eval leaf component memory error last := by
  cases component with
  | none => exact Or.inr ⟨_, _, .missing memory⟩
  | some c =>
    cases hanswer : eval leaf.producer c memory with
    | mk answer last =>
      cases answer with
      | ok value => exact Or.inl ⟨c, value, last, rfl, hanswer⟩
      | error source => exact Or.inr ⟨_, _, .failed hanswer⟩

/-- All leaves of a list give values, or there is a first one that fails. -/
lemma leavesGive_or_exists_isFirst (leaves : List (Leaf P)) (memory : σ) :
    (∃ values last, LeavesGive eval component leaves values memory last) ∨
      ∃ failure : Failure P σ, failure.IsFirst eval component leaves memory := by
  induction leaves generalizing memory with
  | nil => exact Or.inl ⟨[], memory, .nil memory⟩
  | cons leaf rest ih =>
    rcases leaf.gives_or_fails eval component memory with
      ⟨c, value, mid, hcomponent, hvalue⟩ | ⟨error, last, hfails⟩
    · rcases ih mid with ⟨values, last, hrest⟩ | ⟨failure, later, mid', hsplit, hearlier, hfails⟩
      · exact Or.inl ⟨value :: values, last, .cons hcomponent hvalue hrest⟩
      · refine Or.inr ⟨{ failure with
          earlier := leaf :: failure.earlier, values := value :: failure.values }, later, mid', ?_,
          .cons hcomponent hvalue hearlier, hfails⟩
        rw [hsplit, List.cons_append]
    · exact Or.inr ⟨⟨[], [], leaf, error, last⟩, rest, memory, rfl, .nil memory, hfails⟩

omit component in
/-- Without a component the first leaf of all fails. -/
lemma isFirst_missing (leaf : Leaf P) (rest : List (Leaf P)) (memory : σ) :
    Failure.IsFirst ⟨[], [], leaf, .missingComponent leaf.selector leaf.property, memory⟩ eval none
      (leaf :: rest) memory :=
  ⟨rest, memory, rfl, .nil memory, .missing memory⟩

variable {eval component}

/-- A leaf among those that give values has given one in some memory. -/
lemma LeavesGive.of_mem {leaves : List (Leaf P)} {values : List Value} {first last : σ}
    (h : LeavesGive eval component leaves values first last) {leaf : Leaf P}
    (hleaf : leaf ∈ leaves) :
    ∃ c value memory memory', component = some c ∧
      eval leaf.producer c memory = (.ok value, memory') := by
  induction h with
  | nil memory => cases hleaf
  | cons hcomponent hfirst hrest ih =>
    rcases List.mem_cons.mp hleaf with rfl | hrest
    · exact ⟨_, _, _, _, hcomponent, hfirst⟩
    · exact ih hrest

/-- If no producer goes by what it remembers, a leaf that fails in one memory fails in all. -/
lemma LeafFails.of_isStateless (heval : eval.IsStateless) {leaf : Leaf P} {error : StyleError}
    {first last : σ} (h : LeafFails eval leaf component first error last) (memory : σ) :
    ∃ memory', LeafFails eval leaf component memory error memory' := by
  cases h with
  | missing => exact ⟨memory, .missing memory⟩
  | @failed c source _ _ hfails =>
    refine ⟨(eval leaf.producer c memory).2, .failed (Prod.ext ?_ rfl)⟩
    rw [heval leaf.producer c first memory, hfails]

/-- A leaf that fails gives no value, whatever the memory, if no producer goes by what it
remembers. -/
lemma LeafFails.not_mem_of_leavesGive (heval : eval.IsStateless) {leaf : Leaf P}
    {error : StyleError} {memory memory' first last : σ} {leaves : List (Leaf P)}
    {values : List Value} (h : LeafFails eval leaf component memory error memory')
    (hleaves : LeavesGive eval component leaves values first last) : leaf ∉ leaves := by
  intro hleaf
  obtain ⟨c, value, mid, mid', hcomponent, hvalue⟩ := hleaves.of_mem hleaf
  obtain ⟨last', hfails⟩ := h.of_isStateless heval mid
  subst hcomponent
  cases hfails with
  | failed hsource =>
    rw [hvalue] at hsource
    cases hsource

/-- If no producer goes by what it remembers, there is a first failing leaf if and only if some leaf
fails at all. -/
lemma exists_isFirst_iff_of_isStateless (heval : eval.IsStateless) (leaves : List (Leaf P))
    (memory : σ) :
    (∃ failure : Failure P σ, failure.IsFirst eval component leaves memory) ↔
      ∃ leaf ∈ leaves, ∃ error last, LeafFails eval leaf component memory error last := by
  constructor
  · rintro ⟨failure, later, mid, hsplit, -, hfails⟩
    obtain ⟨last, hfails'⟩ := hfails.of_isStateless heval memory
    exact ⟨failure.leaf, by simp [hsplit], failure.error, last, hfails'⟩
  · rintro ⟨leaf, hleaf, error, last, hfails⟩
    refine (leavesGive_or_exists_isFirst eval component leaves memory).resolve_left ?_
    rintro ⟨values, last', hgive⟩
    exact hfails.not_mem_of_leavesGive heval hgive hleaf

end Answers

/-! ### Noting the runs -/

/-- The runs that leaves are worth: one each if there is a component. -/
def runsOf (component : Option C) (leaves : List (Leaf P)) : List (P × C) :=
  match component with
  | none => []
  | some c => leaves.map fun leaf => (leaf.producer, c)

section Traced

variable {eval : Evaluator P C σ} {component : Option C}

/-- Leaves that give values run once each, in order. -/
lemma LeavesGive.traced {leaves : List (Leaf P)} {values : List Value} {first last : σ}
    (h : LeavesGive eval component leaves values first last) (trace : List (P × C)) :
    LeavesGive eval.traced component leaves values (first, trace)
      (last, trace ++ runsOf component leaves) := by
  induction h generalizing trace with
  | nil memory =>
    have hnone : runsOf component ([] : List (Leaf P)) = [] := by cases component <;> rfl
    rw [hnone, List.append_nil]
    exact .nil _
  | @cons leaf rest value values c first mid last hcomponent hfirst hrest ih =>
    subst hcomponent
    have hnoted : eval.traced leaf.producer c (first, trace) =
        (.ok value, (mid, trace ++ [(leaf.producer, c)])) := by
      rw [Evaluator.traced, hfirst]
    have hruns : trace ++ runsOf (some c) (leaf :: rest) =
        trace ++ [(leaf.producer, c)] ++ runsOf (some c) rest := by simp [runsOf]
    rw [hruns]
    exact .cons rfl hnoted (ih _)

/-- A failing leaf runs once if there is a component. -/
lemma LeafFails.traced {leaf : Leaf P} {error : StyleError} {first last : σ}
    (h : LeafFails eval leaf component first error last) (trace : List (P × C)) :
    LeafFails eval.traced leaf component (first, trace) error
      (last, trace ++ runsOf component [leaf]) := by
  cases h with
  | missing =>
    rw [runsOf, List.append_nil]
    exact .missing _
  | @failed c source _ _ hfails =>
    have hnoted : eval.traced leaf.producer c (first, trace) =
        (.error source, (last, trace ++ [(leaf.producer, c)])) := by
      rw [Evaluator.traced, hfails]
    exact .failed hnoted

/-- A failure that leaves behind a trace too: the leaves up to it have run once each. -/
def Failure.traced (failure : Failure P σ) (component : Option C) (trace : List (P × C)) :
    Failure P (σ × List (P × C)) where
  earlier := failure.earlier
  values := failure.values
  leaf := failure.leaf
  error := failure.error
  memory := (failure.memory, trace ++ runsOf component (failure.earlier ++ [failure.leaf]))

/-- Up to the first failing leaf, and no further, the leaves run once each. -/
lemma Failure.IsFirst.traced {failure : Failure P σ} {leaves : List (Leaf P)} {memory : σ}
    (h : failure.IsFirst eval component leaves memory) (trace : List (P × C)) :
    (failure.traced component trace).IsFirst eval.traced component leaves (memory, trace) := by
  obtain ⟨later, mid, hsplit, hearlier, hfails⟩ := h
  have hruns : trace ++ runsOf component (failure.earlier ++ [failure.leaf]) =
      trace ++ runsOf component failure.earlier ++ runsOf component [failure.leaf] := by
    cases component with
    | none => simp [runsOf]
    | some c => simp [runsOf]
  refine ⟨later, (mid, trace ++ runsOf component failure.earlier), hsplit,
    hearlier.traced trace, ?_⟩
  rw [Failure.traced, hruns]
  exact hfails.traced _

end Traced

/-! ### Writing up to a leaf -/

/-- Puts values in the place of produced ones, in order. -/
def withValues : List (Piece P) → List Value → List (Piece P)
  | .computed _ property _ :: pieces, value :: values =>
    .fixed property value :: withValues pieces values
  | piece :: pieces, values => piece :: withValues pieces values
  | [], _ => []

/-- A piece that is no leaf takes no value. -/
lemma withValues_cons_of_leaf?_eq_none {piece : Piece P} (h : piece.leaf? = none)
    (pieces : List (Piece P)) (values : List Value) :
    withValues (piece :: pieces) values = piece :: withValues pieces values := by
  cases piece with
  | computed selector property producer => cases h
  | opening heading => rfl
  | fixed property value => rfl
  | closing => rfl

section Write

variable {eval : Evaluator P C σ} {component : Option C} (layout : Layout)

/-- A piece that is no leaf is written as its text. -/
lemma Piece.write_of_leaf?_eq_none {piece : Piece P} (h : piece.leaf? = none) (page : Page σ) :
    piece.write eval component layout page =
      .ok () { page with text := page.text ++ piece.text layout } := by
  cases piece with
  | computed selector property producer => cases h
  | opening heading => rfl
  | fixed property value => rfl
  | closing => rfl

/-- Pieces whose leaves give values are written with these. -/
lemma writePieces_of_leavesGive {pieces : List (Piece P)} {values : List Value} {memory last : σ}
    (h : LeavesGive eval component (pieces.filterMap Piece.leaf?) values memory last)
    (text : String) :
    writePieces eval component layout pieces ⟨text, memory⟩ =
      .ok () ⟨text ++ pieceText layout (withValues pieces values), last⟩ := by
  induction pieces generalizing values memory text with
  | nil =>
    cases h
    simp [writePieces, withValues, pieceText]
  | cons piece rest ih =>
    rw [writePieces, Writing.andThen]
    cases hleaf : piece.leaf? with
    | none =>
      rw [List.filterMap_cons_none hleaf] at h
      rw [piece.write_of_leaf?_eq_none layout hleaf, withValues_cons_of_leaf?_eq_none hleaf,
        pieceText, ← String.append_assoc]
      exact ih h _
    | some leaf =>
      rw [List.filterMap_cons_some hleaf] at h
      obtain rfl := Piece.leaf?_eq_some_iff.mp hleaf
      cases h with
      | @cons _ _ value values c _ mid _ hcomponent hfirst hrest =>
        subst hcomponent
        have hwrite : leaf.piece.write eval (some c) layout ⟨text, memory⟩ =
            .ok () ⟨text ++ layout.declaration leaf.property value.written, mid⟩ := by
          simp only [Leaf.piece, Piece.write, writeComputed, hfirst]
        rw [hwrite, Leaf.piece, withValues, pieceText, ← String.append_assoc]
        exact ih hrest _

/-- A leaf that fails writes nothing. -/
lemma Leaf.write_of_leafFails {leaf : Leaf P} {error : StyleError} {memory last : σ}
    (h : LeafFails eval leaf component memory error last) (text : String) :
    leaf.piece.write eval component layout ⟨text, memory⟩ = .error error ⟨text, last⟩ := by
  cases h with
  | missing => rfl
  | failed hfails => simp only [Leaf.piece, Piece.write, writeComputed, hfails]

/-- Pieces are written up to the first leaf that fails, and the error is the one of this leaf. -/
lemma writePieces_of_leafFails {before after : List (Piece P)} {values : List Value} {leaf : Leaf P}
    {error : StyleError} {memory mid last : σ}
    (hbefore : LeavesGive eval component (before.filterMap Piece.leaf?) values memory mid)
    (hfails : LeafFails eval leaf component mid error last) (text : String) :
    writePieces eval component layout (before ++ leaf.piece :: after) ⟨text, memory⟩ =
      .error error ⟨text ++ pieceText layout (withValues before values), last⟩ := by
  rw [writePieces_append, Writing.andThen, writePieces_of_leavesGive layout hbefore text]
  change (leaf.piece.write eval component layout).andThen _ _ = _
  rw [Writing.andThen, leaf.write_of_leafFails layout hfails]

end Write

/-! ### Rendering -/

namespace RuleSet

variable {rules : RuleSet P} {eval : Evaluator P C σ} {component : Option C} (layout : Layout)
  (text : String) {memory : σ}

/-- If all leaves give values, a rule set is rendered with these. -/
lemma renderInto_of_leavesGive {values : List Value} {last : σ}
    (h : LeavesGive eval component rules.leaves values memory last) :
    rules.renderInto eval component layout ⟨text, memory⟩ =
      .ok () ⟨text ++ pieceText layout (withValues rules.pieces values), last⟩ := by
  rw [renderInto_eq_writePieces]
  exact writePieces_of_leavesGive layout (rules.filterMap_leaf?_pieces ▸ h) text

/-- The pieces can be cut at the first leaf that fails. -/
lemma exists_cut_at_failure {failure : Failure P σ}
    (h : failure.IsFirst eval component rules.leaves memory) :
    ∃ before after, rules.pieces = before ++ failure.leaf.piece :: after ∧
      before.filterMap Piece.leaf? = failure.earlier := by
  obtain ⟨later, mid, hsplit, -⟩ := h
  exact exists_cut_at_leaf hsplit

/-- The first leaf that fails ends the rendering. -/
lemma renderInto_of_isFirst (failure : Failure P σ) {before after : List (Piece P)}
    (hcut : rules.pieces = before ++ failure.leaf.piece :: after)
    (hearlier : before.filterMap Piece.leaf? = failure.earlier)
    (h : failure.IsFirst eval component rules.leaves memory) :
    rules.renderInto eval component layout ⟨text, memory⟩ =
      .error failure.error
        ⟨text ++ pieceText layout (withValues before failure.values), failure.memory⟩ := by
  obtain ⟨later, mid, -, hgive, hfails⟩ := h
  rw [← hearlier] at hgive
  rw [renderInto_eq_writePieces, hcut]
  exact writePieces_of_leafFails layout hgive hfails text

/-- Rendering fails if and only if there is a first failing leaf. -/
lemma renderInto_error_iff :
    (∃ error page, rules.renderInto eval component layout ⟨text, memory⟩ = .error error page) ↔
      ∃ failure : Failure P σ, failure.IsFirst eval component rules.leaves memory := by
  constructor
  · rintro ⟨error, page, herror⟩
    refine (leavesGive_or_exists_isFirst eval component rules.leaves memory).resolve_left ?_
    rintro ⟨values, last, hgive⟩
    rw [renderInto_of_leavesGive layout text hgive] at herror
    cases herror
  · rintro ⟨failure, hfirst⟩
    obtain ⟨before, after, hcut, hearlier⟩ := exists_cut_at_failure hfirst
    exact ⟨_, _, renderInto_of_isFirst layout text failure hcut hearlier hfirst⟩

/-- Without a component all leaves fail, so rendering succeeds if and only if there is none. -/
lemma renderInto_none_ok_iff :
    (∃ page, rules.renderInto eval (none : Option C) layout ⟨text, memory⟩ = .ok () page) ↔
      rules.hasDynamic = false := by
  rw [hasDynamic_eq_false_iff_leaves]
  constructor
  · rintro ⟨page, hok⟩
    cases hleaves : rules.leaves with
    | nil => rfl
    | cons leaf rest =>
      have hfirst := isFirst_missing eval leaf rest memory
      rw [← hleaves] at hfirst
      obtain ⟨error, page', herror⟩ := (renderInto_error_iff layout text).mpr ⟨_, hfirst⟩
      rw [hok] at herror
      cases herror
  · intro hleaves
    have hgive : LeavesGive eval none rules.leaves [] memory memory := by
      rw [hleaves]
      exact .nil memory
    exact ⟨_, renderInto_of_leavesGive layout text hgive⟩

end RuleSet

/-! ### Empty texts -/

/-- An opening is not empty, even if its heading is. -/
lemma Layout.opening_ne_empty (layout : Layout) (heading : String) :
    layout.opening heading ≠ "" := by
  cases layout <;> simp [opening]

@[simp] lemma withValues_nil (pieces : List (Piece P)) : withValues pieces [] = pieces := by
  induction pieces with
  | nil => rfl
  | cons piece rest ih => cases piece <;> simp [withValues, ih]

namespace RuleSet

variable {rules : RuleSet P} {eval : Evaluator P C σ} {component : Option C} {layout : Layout}

/-- Whatever the values of its leaves are, a rule set has the empty text if and only if it has no
block: each block has an opening. -/
lemma pieceText_withValues_eq_empty_iff (values : List Value) :
    pieceText layout (withValues rules.pieces values) = "" ↔ rules.isEmpty = true := by
  rw [isEmpty, OrderedMap.isEmpty, List.isEmpty_iff, pieces]
  cases rules.blocks.entries with
  | nil => simp [withValues, pieceText]
  | cons e rest =>
    rw [List.flatMap_cons, blockPieces, List.cons_append, withValues_cons_of_leaf?_eq_none rfl,
      pieceText, Piece.text, String.append_eq_empty_iff]
    simp [layout.opening_ne_empty e.1]

/-- The text of a rule set without produced values is empty if and only if there is no block. -/
lemma fixedText_eq_empty_iff : rules.fixedText layout = "" ↔ rules.isEmpty = true := by
  rw [fixedText, ← withValues_nil rules.pieces, pieceText_withValues_eq_empty_iff]

/-- A text that rendering gives is empty if and only if there is no block. -/
lemma eq_empty_iff_of_render {text : String} {memory last : σ}
    (h : rules.render eval component layout memory = (.ok text, last)) :
    text = "" ↔ rules.isEmpty = true := by
  rcases leavesGive_or_exists_isFirst eval component rules.leaves memory with
    ⟨values, last', hgive⟩ | hfirst
  · rw [render, renderInto_of_leavesGive layout "" hgive, String.empty_append] at h
    obtain ⟨htext, -⟩ := Prod.mk.inj h
    rw [← Except.ok.inj htext, pieceText_withValues_eq_empty_iff]
  · obtain ⟨error, page, herror⟩ := (renderInto_error_iff layout "").mpr hfirst
    rw [render, herror] at h
    cases (Prod.mk.inj h).1

end RuleSet

/-- How rendering ends, for any rule set, component, layout and text on the page. It fails if and
only if there is a first leaf that fails; for producers that do not go by what they remember, this
is the case if and only if some leaf fails at all. The error is that of the first leaf that fails;
the page then holds what it held and the text of everything before this leaf, with the blocks and
frames around it open, and of the producers only those up to this leaf have run, once each. If no
leaf fails, the page holds what it held and the text of the whole rule set. Without a component
rendering succeeds if and only if nothing is dynamic. -/
theorem RuleSet.renderInto_outcome (rules : RuleSet P) (eval : Evaluator P C σ)
    (component : Option C) (layout : Layout) (text : String) (memory : σ) :
    ((∃ error page, rules.renderInto eval component layout ⟨text, memory⟩ = .error error page) ↔
      ∃ failure : Failure P σ, failure.IsFirst eval component rules.leaves memory) ∧
    (eval.IsStateless →
      ((∃ error page, rules.renderInto eval component layout ⟨text, memory⟩ = .error error page) ↔
        ∃ leaf ∈ rules.leaves, ∃ error last, LeafFails eval leaf component memory error last)) ∧
    (∀ failure : Failure P σ, failure.IsFirst eval component rules.leaves memory →
      ∃ before, rules.LeadsTo failure.leaf before ∧
        before.filterMap Piece.leaf? = failure.earlier ∧
        rules.renderInto eval component layout ⟨text, memory⟩ =
          .error failure.error
            ⟨text ++ pieceText layout (withValues before failure.values), failure.memory⟩ ∧
        ∀ trace, rules.renderInto eval.traced component layout ⟨text, (memory, trace)⟩ =
          .error failure.error
            ⟨text ++ pieceText layout (withValues before failure.values),
              (failure.memory, trace ++ runsOf component (failure.earlier ++ [failure.leaf]))⟩) ∧
    (∀ values last, LeavesGive eval component rules.leaves values memory last →
      rules.renderInto eval component layout ⟨text, memory⟩ =
        .ok () ⟨text ++ pieceText layout (withValues rules.pieces values), last⟩) ∧
    ((∃ page, rules.renderInto eval (none : Option C) layout ⟨text, memory⟩ = .ok () page) ↔
      rules.hasDynamic = false) := by
  refine ⟨RuleSet.renderInto_error_iff layout text, fun heval => ?_, fun failure hfirst => ?_,
    fun values last hgive => RuleSet.renderInto_of_leavesGive layout text hgive,
    RuleSet.renderInto_none_ok_iff layout text⟩
  · rw [RuleSet.renderInto_error_iff, exists_isFirst_iff_of_isStateless heval]
  · obtain ⟨before, after, hcut, hearlier⟩ := RuleSet.exists_cut_at_failure hfirst
    refine ⟨before, RuleSet.leadsTo_of_pieces hcut, hearlier,
      RuleSet.renderInto_of_isFirst layout text failure hcut hearlier hfirst, fun trace => ?_⟩
    exact RuleSet.renderInto_of_isFirst layout text (failure.traced component trace) hcut hearlier
      (hfirst.traced trace)

/-- A rule set with a frame in a frame. -/
def dimmed : RuleSet Nat :=
  ⟨⟨[(".A", ⟨[("width", .fixed (.text "1px"))]⟩),
    ("@keyframes x", ⟨[("from", .frame ⟨[("color", .computed 0),
        ("inner", .frame ⟨[("top", .fixed (.text "0")), ("opacity", .computed 1),
          ("color", .computed 0)]⟩)]⟩),
      ("to", .frame ⟨[("color", .computed 0)]⟩)]⟩)]⟩⟩

/-- The producer `0` gives a text and all others fail; the memory counts the runs. -/
def onlyFirst : Evaluator Nat Unit Nat := fun producer _ runs =>
  (if producer = 0 then .ok (.text "red") else .error "no opacity", runs + 1)

/-- The first leaf of `dimmed` that fails is the opacity; it stands in the inner frame, and its
error names the heading. -/
def opacityFailure : Failure Nat Nat where
  earlier := [⟨"@keyframes x", "color", 0⟩]
  values := [.text "red"]
  leaf := ⟨"@keyframes x", "opacity", 1⟩
  error := .producerFailed "@keyframes x" "opacity" "no opacity"
  memory := 2

/-- In `dimmed` the opacity is the first failure, and the text is cut before it, with both frames
open. -/
theorem RuleSet.renderInto_outcome_dimmed :
    opacityFailure.IsFirst onlyFirst (some ()) dimmed.leaves 0 ∧
    ∃ before, dimmed.LeadsTo opacityFailure.leaf before ∧
      before.filterMap Piece.leaf? = opacityFailure.earlier ∧
      dimmed.renderInto onlyFirst (some ()) .compact ⟨"p", 0⟩ =
        .error opacityFailure.error
          ⟨"p" ++ pieceText .compact (withValues before opacityFailure.values), 2⟩ := by
  have hfirst : opacityFailure.IsFirst onlyFirst (some ()) dimmed.leaves 0 :=
    ⟨_, 1, rfl, .cons rfl rfl (.nil 1), .failed rfl⟩
  obtain ⟨-, -, hfails, -⟩ := RuleSet.renderInto_outcome dimmed onlyFirst (some ()) .compact "p" 0
  obtain ⟨before, hleads, hearlier, hrender, -⟩ := hfails opacityFailure hfirst
  exact ⟨hfirst, before, hleads, hearlier, hrender⟩

example : dimmed.renderInto onlyFirst (some ()) .compact ⟨"p", 0⟩ =
    .error opacityFailure.error
      ⟨"p.A\x7bwidth:1px;\x7d@keyframes x\x7bfrom\x7bcolor:red;inner\x7btop:0;", 2⟩ := by
  rfl

end Restyle
