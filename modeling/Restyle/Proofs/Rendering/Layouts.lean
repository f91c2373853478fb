import Restyle.Proofs.Rendering.FirstFailure
import Restyle.Proofs.Rendering.Tokens

/-!
# Two layouts of one sheet

The layout decides how a token is printed, and nothing else. Rendering a rule set from one memory
runs the same producers in every layout and comes to the same end. If it succeeds, there is one
sheet that every layout prints (`RuleSet.render_layouts`). The sheet lists what the rule set lists:
its selectors, frames and declarations in order, each with the headings around it, with the values
that the producers have given (`ItemsGive`).

On a page with a text the rendered text comes after it (`RuleSet.renderInto_cases`), so rule sets
that are rendered one after another have the concatenation of their texts.
-/

namespace Restyle

variable {P C σ : Type}

/-! ### What a rule set lists -/

mutual

/-- What a value lists under the headings of a path: a declaration, or a frame and what is inside
of it. -/
def RuleValue.items (path : List String) (property : String) :
    RuleValue P → List (Sheet.Item (Value ⊕ P))
  | .fixed value => [.declaration path property (.inl value)]
  | .computed producer => [.declaration path property (.inr producer)]
  | .frame ⟨declarations⟩ =>
    .block path property :: declaredItems (property :: path) declarations

/-- What a list of declarations lists under the headings of a path. -/
def declaredItems (path : List String) :
    List (String × RuleValue P) → List (Sheet.Item (Value ⊕ P))
  | [] => []
  | (property, value) :: rest => value.items path property ++ declaredItems path rest

end

/-- What a block lists, itself first. -/
def blockItems (e : String × Declarations P) : List (Sheet.Item (Value ⊕ P)) :=
  .block [] e.1 :: declaredItems [e.1] e.2.entries

/-- The selectors, frames and declarations of a rule set, each where it stands. -/
def RuleSet.items (rules : RuleSet P) : List (Sheet.Item (Value ⊕ P)) :=
  rules.blocks.entries.flatMap blockItems

/-- Items with values and producers become items with values. The producers are run for the
component, one after another, and lead from one memory to another. -/
inductive ItemsGive (eval : Evaluator P C σ) (component : Option C) :
    List (Sheet.Item (Value ⊕ P)) → List (Sheet.Item Value) → σ → σ → Prop
  | nil (memory : σ) : ItemsGive eval component [] [] memory memory
  | block {rest : List (Sheet.Item (Value ⊕ P))} {rest' : List (Sheet.Item Value)} {first last : σ}
      (path : List String) (heading : String)
      (hrest : ItemsGive eval component rest rest' first last) :
      ItemsGive eval component (.block path heading :: rest) (.block path heading :: rest')
        first last
  | fixed {rest : List (Sheet.Item (Value ⊕ P))} {rest' : List (Sheet.Item Value)} {first last : σ}
      (path : List String) (property : String) (value : Value)
      (hrest : ItemsGive eval component rest rest' first last) :
      ItemsGive eval component (.declaration path property (.inl value) :: rest)
        (.declaration path property value :: rest') first last
  | computed {rest : List (Sheet.Item (Value ⊕ P))} {rest' : List (Sheet.Item Value)}
      {first mid last : σ} {producer : P} {value : Value} {c : C} (path : List String)
      (property : String) (hcomponent : component = some c)
      (hvalue : eval producer c first = (.ok value, mid))
      (hrest : ItemsGive eval component rest rest' mid last) :
      ItemsGive eval component (.declaration path property (.inr producer) :: rest)
        (.declaration path property value :: rest') first last

/-! ### Pieces as tokens -/

namespace Piece

/-- A piece as a token whose value is still to be produced if the piece is a leaf. -/
def token : Piece P → Sheet.Token (Value ⊕ P)
  | .opening heading => .opening heading
  | .fixed property value => .declaration property (.inl value)
  | .computed _ property producer => .declaration property (.inr producer)
  | .closing => .closing

/-- A piece as a token, unless it is a leaf. -/
def token? : Piece P → Option (Sheet.Token Value)
  | .opening heading => some (.opening heading)
  | .fixed property value => some (.declaration property value)
  | .computed _ _ _ => none
  | .closing => some .closing

end Piece

/-- The text of pieces is that of their tokens. -/
lemma pieceText_eq_print (layout : Layout) (pieces : List (Piece P)) :
    pieceText layout pieces = Sheet.print layout (pieces.filterMap Piece.token?) := by
  induction pieces with
  | nil => rfl
  | cons piece rest ih =>
    rw [pieceText, ih]
    cases piece with
    | computed selector property producer => exact String.empty_append
    | opening heading => exact String.join_cons.symm
    | fixed property value => exact String.join_cons.symm
    | closing => exact String.join_cons.symm

mutual

/-- Inside of a block, the items of a value are read from its pieces. -/
theorem RuleValue.itemsFrom?_pieces (selector property : String) {path : List String}
    {rest : List (Sheet.Token (Value ⊕ P))} {later : List (Sheet.Item (Value ⊕ P))}
    (hpath : path ≠ []) (h : Sheet.itemsFrom? path rest = some later) : (value : RuleValue P) →
    Sheet.itemsFrom? path ((value.pieces selector property).map Piece.token ++ rest) =
      some (value.items path property ++ later)
  | .fixed value => Sheet.itemsFrom?_declaration_iff.mpr ⟨hpath, later, h, rfl⟩
  | .computed producer => Sheet.itemsFrom?_declaration_iff.mpr ⟨hpath, later, h, rfl⟩
  | .frame ⟨declarations⟩ => by
    have hclosing : Sheet.itemsFrom? (property :: path) (.closing :: rest) = some later :=
      Sheet.itemsFrom?_closing_iff.mpr ⟨property, path, rfl, h⟩
    have hinner :=
      itemsFrom?_declarationPieces selector (List.cons_ne_nil _ _) hclosing declarations
    simp [RuleValue.pieces, RuleValue.items, Piece.token, Sheet.itemsFrom?_opening_iff, hinner]

/-- Inside of a block, the items of a list of declarations are read from their pieces. -/
theorem itemsFrom?_declarationPieces (selector : String) {path : List String}
    {rest : List (Sheet.Token (Value ⊕ P))} {later : List (Sheet.Item (Value ⊕ P))}
    (hpath : path ≠ []) (h : Sheet.itemsFrom? path rest = some later) :
    (declarations : List (String × RuleValue P)) →
    Sheet.itemsFrom? path ((declarationPieces selector declarations).map Piece.token ++ rest) =
      some (declaredItems path declarations ++ later)
  | [] => by simpa [declarationPieces, declaredItems] using h
  | (property, value) :: declarations => by
    have hrest := itemsFrom?_declarationPieces selector hpath h declarations
    rw [declarationPieces, declaredItems, List.map_append, List.append_assoc, List.append_assoc]
    exact RuleValue.itemsFrom?_pieces selector property hpath hrest value

end

/-- From the pieces of a rule set its items are read. -/
lemma RuleSet.items?_pieces (rules : RuleSet P) :
    Sheet.items? (rules.pieces.map Piece.token) = some rules.items := by
  rw [pieces, items]
  induction rules.blocks.entries with
  | nil => rfl
  | cons e rest ih =>
    have hclosing : Sheet.itemsFrom? [e.1]
        (.closing :: (rest.flatMap blockPieces).map Piece.token) =
          some (rest.flatMap blockItems) := Sheet.itemsFrom?_closing_iff.mpr ⟨e.1, [], rfl, ih⟩
    have hinner := itemsFrom?_declarationPieces e.1 (List.cons_ne_nil _ _) hclosing e.2.entries
    simp [Sheet.items?, blockPieces, blockItems, Piece.token, Sheet.itemsFrom?_opening_iff, hinner]

section Outcome

variable {eval : Evaluator P C σ} {component : Option C}

/-- With values in the place of leaves, the items are read that these values make. -/
lemma exists_items_of_leavesGive {pieces : List (Piece P)} {values : List Value} {memory last : σ}
    (h : LeavesGive eval component (pieces.filterMap Piece.leaf?) values memory last)
    {path : List String} {items : List (Sheet.Item (Value ⊕ P))}
    (hitems : Sheet.itemsFrom? path (pieces.map Piece.token) = some items) :
    ∃ items', Sheet.itemsFrom? path ((withValues pieces values).filterMap Piece.token?) =
      some items' ∧ ItemsGive eval component items items' memory last := by
  induction pieces generalizing values memory path items with
  | nil =>
    cases h
    cases path with
    | nil =>
      obtain rfl := Option.some.inj hitems
      exact ⟨[], rfl, .nil last⟩
    | cons outer path => cases hitems
  | cons piece rest ih =>
    cases piece with
    | opening heading =>
      obtain ⟨later, hlater, rfl⟩ := Sheet.itemsFrom?_opening_iff.mp hitems
      obtain ⟨later', hread, hgive⟩ := ih h hlater
      exact ⟨_, Sheet.itemsFrom?_opening_iff.mpr ⟨later', hread, rfl⟩, .block path heading hgive⟩
    | fixed property value =>
      obtain ⟨hpath, later, hlater, rfl⟩ := Sheet.itemsFrom?_declaration_iff.mp hitems
      obtain ⟨later', hread, hgive⟩ := ih h hlater
      exact ⟨_, Sheet.itemsFrom?_declaration_iff.mpr ⟨hpath, later', hread, rfl⟩,
        .fixed path property value hgive⟩
    | computed selector property producer =>
      obtain ⟨hpath, later, hlater, rfl⟩ := Sheet.itemsFrom?_declaration_iff.mp hitems
      change LeavesGive eval component
        (⟨selector, property, producer⟩ :: rest.filterMap Piece.leaf?) values memory last at h
      cases h with
      | cons hcomponent hfirst hrest =>
        obtain ⟨later', hread, hgive⟩ := ih hrest hlater
        exact ⟨_, Sheet.itemsFrom?_declaration_iff.mpr ⟨hpath, later', hread, rfl⟩,
          .computed path property hcomponent hfirst hgive⟩
    | closing =>
      obtain ⟨heading, outer, rfl, hlater⟩ := Sheet.itemsFrom?_closing_iff.mp hitems
      obtain ⟨items', hread, hgive⟩ := ih h hlater
      exact ⟨items', Sheet.itemsFrom?_closing_iff.mpr ⟨heading, outer, rfl, hread⟩, hgive⟩

end Outcome

/-! ### One sheet for all layouts -/

namespace RuleSet

/-- The sheet of a rule set with values in the place of produced ones. -/
def sheet (rules : RuleSet P) (values : List Value) : List (Sheet.Token Value) :=
  (withValues rules.pieces values).filterMap Piece.token?

/-- The sheet lists what the rule set lists, with the values that its leaves give. -/
lemma exists_items_sheet {rules : RuleSet P} {eval : Evaluator P C σ} {component : Option C}
    {values : List Value} {memory last : σ}
    (h : LeavesGive eval component rules.leaves values memory last) :
    ∃ items, Sheet.items? (rules.sheet values) = some items ∧
      ItemsGive eval component rules.items items memory last := by
  rw [← filterMap_leaf?_pieces] at h
  exact exists_items_of_leavesGive h rules.items?_pieces

/-- If all leaves of a rule set give values, every layout prints its sheet with these. -/
lemma render_of_leavesGive {rules : RuleSet P} {eval : Evaluator P C σ} {component : Option C}
    {values : List Value} {memory last : σ}
    (h : LeavesGive eval component rules.leaves values memory last) (layout : Layout) :
    rules.render eval component layout memory =
      (.ok (Sheet.print layout (rules.sheet values)), last) := by
  rw [render, renderInto_of_leavesGive layout "" h, String.empty_append, pieceText_eq_print, sheet]

/-- If there is a first leaf that fails, every layout fails with its error. -/
lemma render_of_isFirst {rules : RuleSet P} {eval : Evaluator P C σ} {component : Option C}
    {failure : Failure P σ} {memory : σ}
    (h : failure.IsFirst eval component rules.leaves memory) (layout : Layout) :
    rules.render eval component layout memory = (.error failure.error, failure.memory) := by
  obtain ⟨before, after, hcut, hearlier⟩ := exists_cut_at_failure h
  rw [render, renderInto_of_isFirst layout "" failure hcut hearlier h]

/-! ### Texts after one another -/

section Page

variable {rules second : RuleSet P} {eval : Evaluator P C σ} {component : Option C}
  {layout : Layout} {text whole : String} {error : StyleError} {memory last : σ}

/-- On a page with a text, the rendered text comes after it, or what is rendered before an error. -/
lemma renderInto_cases (rules : RuleSet P) (eval : Evaluator P C σ) (component : Option C)
    (layout : Layout) (memory : σ) :
    (∃ own last, rules.render eval component layout memory = (.ok own, last) ∧
      ∀ text, rules.renderInto eval component layout ⟨text, memory⟩ =
        .ok () ⟨text ++ own, last⟩) ∨
    ∃ error cut last, rules.render eval component layout memory = (.error error, last) ∧
      ∀ text, rules.renderInto eval component layout ⟨text, memory⟩ =
        .error error ⟨text ++ cut, last⟩ := by
  rcases leavesGive_or_exists_isFirst eval component rules.leaves memory with
    ⟨values, last, h⟩ | ⟨failure, h⟩
  · refine Or.inl ⟨_, last, render_of_leavesGive h layout, fun text => ?_⟩
    rw [renderInto_of_leavesGive layout text h, pieceText_eq_print, sheet]
  · obtain ⟨before, after, hcut, hearlier⟩ := exists_cut_at_failure h
    exact Or.inr ⟨_, _, _, render_of_isFirst h layout, fun text =>
      renderInto_of_isFirst layout text failure hcut hearlier h⟩

lemma renderInto_eq_ok_iff :
    rules.renderInto eval component layout ⟨text, memory⟩ = .ok () ⟨whole, last⟩ ↔
      ∃ own, rules.render eval component layout memory = (.ok own, last) ∧ whole = text ++ own := by
  rcases rules.renderInto_cases eval component layout memory with
    ⟨own, last', hrender, hinto⟩ | ⟨error, cut, last', hrender, hinto⟩
  · rw [hrender, hinto]
    simp [eq_comm, and_comm]
  · rw [hrender, hinto]
    simp

lemma exists_renderInto_eq_error_iff :
    (∃ whole, rules.renderInto eval component layout ⟨text, memory⟩ = .error error ⟨whole, last⟩) ↔
      rules.render eval component layout memory = (.error error, last) := by
  rcases rules.renderInto_cases eval component layout memory with
    ⟨own, last', hrender, hinto⟩ | ⟨error', cut, last', hrender, hinto⟩
  · rw [hrender, hinto]
    simp
  · rw [hrender, hinto]
    simp

/-- Two rule sets rendered one after another have the concatenation of their texts, the second one
rendered from where the first one has led to. -/
lemma andThen_renderInto_eq_ok_iff :
    (rules.renderInto eval component layout).andThen (second.renderInto eval component layout)
        ⟨text, memory⟩ = .ok () ⟨whole, last⟩ ↔
      ∃ own mid other, rules.render eval component layout memory = (.ok own, mid) ∧
        second.render eval component layout mid = (.ok other, last) ∧
        whole = text ++ (own ++ other) := by
  unfold Writing.andThen
  cases hfirst : rules.renderInto eval component layout ⟨text, memory⟩ with
  | ok _ page =>
    obtain ⟨middle, mid⟩ := page
    obtain ⟨own, hown, rfl⟩ := renderInto_eq_ok_iff.mp hfirst
    simp [renderInto_eq_ok_iff, hown, String.append_assoc]
  | error e page =>
    obtain ⟨middle, mid⟩ := page
    have hown := exists_renderInto_eq_error_iff.mp ⟨middle, hfirst⟩
    simp [hown]

/-- Rendering two rule sets one after another fails if and only if one of them does, the second one
from where the first one has led to. -/
lemma exists_andThen_renderInto_eq_error_iff :
    (∃ whole, (rules.renderInto eval component layout).andThen
        (second.renderInto eval component layout) ⟨text, memory⟩ = .error error ⟨whole, last⟩) ↔
      rules.render eval component layout memory = (.error error, last) ∨
        ∃ own mid, rules.render eval component layout memory = (.ok own, mid) ∧
          second.render eval component layout mid = (.error error, last) := by
  unfold Writing.andThen
  cases hfirst : rules.renderInto eval component layout ⟨text, memory⟩ with
  | ok _ page =>
    obtain ⟨middle, mid⟩ := page
    obtain ⟨own, hown, -⟩ := renderInto_eq_ok_iff.mp hfirst
    simp [exists_renderInto_eq_error_iff, hown]
  | error e page =>
    obtain ⟨middle, mid⟩ := page
    have hown := exists_renderInto_eq_error_iff.mp ⟨middle, hfirst⟩
    simp [hown]

end Page

/-! ### Texts without a component -/

/-- Without a component the first leaf fails, and nothing runs. -/
lemma render_none (rules : RuleSet P) (eval : Evaluator P C σ) (layout : Layout) (memory : σ) :
    rules.render eval none layout memory =
      (match rules.leaves with
        | [] => .ok (rules.fixedText layout)
        | leaf :: _ => .error (.missingComponent leaf.selector leaf.property), memory) := by
  cases hleaves : rules.leaves with
  | nil => exact render_of_not_hasDynamic (rules.hasDynamic_eq_false_iff_leaves.mpr hleaves) ..
  | cons leaf rest =>
    have hfirst := isFirst_missing eval leaf rest memory
    rw [← hleaves] at hfirst
    exact render_of_isFirst hfirst layout

/-- The blocks of all rule sets of a list, one after another. -/
def joined (sheets : List (RuleSet P)) : RuleSet P :=
  ⟨⟨sheets.flatMap fun rules => rules.blocks.entries⟩⟩

/-- Joined rule sets are rendered one after another. -/
lemma renderInto_joined_pair (rules second : RuleSet P) (eval : Evaluator P C σ)
    (component : Option C) (layout : Layout) :
    (joined [rules, second]).renderInto eval component layout =
      (rules.renderInto eval component layout).andThen
        (second.renderInto eval component layout) := by
  have hpieces : (joined [rules, second]).pieces = rules.pieces ++ second.pieces := by
    simp [joined, pieces]
  simp only [renderInto_eq_writePieces, hpieces, writePieces_append]

/-- Rule sets that are written without a component are joined. There is nothing that an evaluator
could be asked with, so it does not matter which one it is. -/
lemma renderFixed_eq (sheets : List (RuleSet P)) (eval : Evaluator P Empty Unit) (layout : Layout) :
    renderFixed sheets layout = ((joined sheets).render eval none layout ()).1 := by
  have hunique : ∀ eval' : Evaluator P Empty Unit, eval' = eval := by
    intro eval'
    funext _ component
    exact component.elim
  simp only [renderFixed]
  split
  next page hok =>
    have hjoined : (joined sheets).renderInto eval none layout ⟨"", ()⟩ = .ok () page := by
      rw [← hunique]
      exact hok
    rw [render, hjoined]
  next error page herror =>
    have hjoined : (joined sheets).renderInto eval none layout ⟨"", ()⟩ = .error error page := by
      rw [← hunique]
      exact herror
    rw [render, hjoined]

/-- Two rule sets written one after another without a component have the concatenation of their
texts, or fail as the first of them that fails. -/
lemma renderFixed_pair (rules second : RuleSet P) (eval : Evaluator P C σ) (layout : Layout)
    (memory : σ) :
    renderFixed [rules, second] layout =
      (rules.render eval none layout memory).1.bind fun own =>
        (second.render eval none layout memory).1.map fun other => own ++ other := by
  obtain ⟨eval'⟩ : Nonempty (Evaluator P Empty Unit) := ⟨fun _ component => component.elim⟩
  have hsame : ∀ sheet : RuleSet P,
      (sheet.render eval none layout memory).1 = (sheet.render eval' none layout ()).1 := by
    intro sheet
    rw [render_none, render_none]
  rw [hsame, hsame, renderFixed_eq _ eval', render, renderInto_joined_pair]
  cases hboth : (rules.renderInto eval' none layout).andThen
      (second.renderInto eval' none layout) ⟨"", ()⟩ with
  | ok _ page =>
    obtain ⟨whole, last⟩ := page
    obtain ⟨own, mid, other, hown, hother, rfl⟩ := andThen_renderInto_eq_ok_iff.mp hboth
    simp [hown, hother, Except.bind, Except.map]
  | error e page =>
    obtain ⟨whole, last⟩ := page
    rcases exists_andThen_renderInto_eq_error_iff.mp ⟨whole, hboth⟩ with
      hown | ⟨own, mid, hown, hother⟩
    · simp [hown, Except.bind]
    · simp [hown, hother, Except.bind, Except.map]

end RuleSet

/-- The layouts print one sheet. From one memory, rendering a rule set runs the same producers in
every layout and leaves one memory. Either every layout succeeds, and there is a balanced sheet that
each of them prints: it lists the selectors, frames and declarations of the rule set in their order,
each under its headings, with the values that the producers give for the component one after
another, and each producer has run once. Or every layout fails with one error. On a page with a text
the outcome is the same and the rendered text comes after it. Two rule sets rendered one after
another have the concatenation of their texts, the second one rendered from where the first one has
led to, and so have two rule sets that are written without a component. -/
theorem RuleSet.render_layouts (rules : RuleSet P) (eval : Evaluator P C σ)
    (component : Option C) (memory : σ) :
    ((∃ tokens items last, Sheet.items? tokens = some items ∧ Sheet.Balanced tokens ∧
        ItemsGive eval component rules.items items memory last ∧
        ∀ layout, rules.render eval component layout memory =
            (.ok (Sheet.print layout tokens), last) ∧
          ∀ trace, rules.render eval.traced component layout (memory, trace) =
            (.ok (Sheet.print layout tokens), (last, trace ++ runsOf component rules.leaves))) ∨
      ∃ error last runs, ∀ layout,
        rules.render eval component layout memory = (.error error, last) ∧
        ∀ trace, rules.render eval.traced component layout (memory, trace) =
          (.error error, (last, trace ++ runs))) ∧
    (∀ layout text,
      (∀ whole last,
        rules.renderInto eval component layout ⟨text, memory⟩ = .ok () ⟨whole, last⟩ ↔
          ∃ own, rules.render eval component layout memory = (.ok own, last) ∧
            whole = text ++ own) ∧
      ∀ error last,
        (∃ whole, rules.renderInto eval component layout ⟨text, memory⟩ =
            .error error ⟨whole, last⟩) ↔
          rules.render eval component layout memory = (.error error, last)) ∧
    (∀ (second : RuleSet P) layout text,
      (∀ whole last,
        (rules.renderInto eval component layout).andThen (second.renderInto eval component layout)
            ⟨text, memory⟩ = .ok () ⟨whole, last⟩ ↔
          ∃ own mid other, rules.render eval component layout memory = (.ok own, mid) ∧
            second.render eval component layout mid = (.ok other, last) ∧
            whole = text ++ (own ++ other)) ∧
      ∀ error last,
        (∃ whole, (rules.renderInto eval component layout).andThen
            (second.renderInto eval component layout) ⟨text, memory⟩ =
              .error error ⟨whole, last⟩) ↔
          rules.render eval component layout memory = (.error error, last) ∨
            ∃ own mid, rules.render eval component layout memory = (.ok own, mid) ∧
              second.render eval component layout mid = (.error error, last)) ∧
    ∀ (second : RuleSet P) layout, RuleSet.renderFixed [rules, second] layout =
      (rules.render eval none layout memory).1.bind fun own =>
        (second.render eval none layout memory).1.map fun other => own ++ other := by
  refine ⟨?_, fun layout text => ⟨fun whole last => RuleSet.renderInto_eq_ok_iff,
    fun error last => RuleSet.exists_renderInto_eq_error_iff⟩, fun second layout text =>
    ⟨fun whole last => RuleSet.andThen_renderInto_eq_ok_iff,
      fun error last => RuleSet.exists_andThen_renderInto_eq_error_iff⟩,
    fun second layout => rules.renderFixed_pair second eval layout memory⟩
  rcases leavesGive_or_exists_isFirst eval component rules.leaves memory with
    ⟨values, last, hgive⟩ | ⟨failure, hfirst⟩
  · obtain ⟨items, hread, hitems⟩ := RuleSet.exists_items_sheet hgive
    refine Or.inl ⟨rules.sheet values, items, last, hread, Sheet.balanced_of_items? hread, hitems,
      fun layout => ⟨RuleSet.render_of_leavesGive hgive layout, fun trace => ?_⟩⟩
    exact RuleSet.render_of_leavesGive (hgive.traced trace) layout
  · refine Or.inr ⟨failure.error, failure.memory,
      runsOf component (failure.earlier ++ [failure.leaf]), fun layout =>
      ⟨RuleSet.render_of_isFirst hfirst layout, fun trace => ?_⟩⟩
    exact RuleSet.render_of_isFirst (hfirst.traced trace) layout

end Restyle
