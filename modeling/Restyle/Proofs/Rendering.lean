import Mathlib.Tactic.Lemma
import Restyle.Rendering

/-!
# Rendering piece by piece

Rendering recurses through blocks and frames. What it does can be said without recursion: a rule set
is a list of pieces in rendering order (openings, declarations, closings), and rendering writes one
piece after another until one fails (`RuleSet.renderInto_eq_writePieces`).

A piece can only fail if its value is produced from the component. A rule set without such values
therefore always has a text, the same for every component and with the memory untouched
(`RuleSet.render_of_not_hasDynamic`), and several of them one after another have the concatenation
of their texts (`RuleSet.renderFixed_of_not_hasDynamic`).
-/

namespace Restyle

variable {P C σ : Type}

/-! ### Pieces -/

/-- A piece of a rendered rule set. -/
inductive Piece (P : Type) where
  /-- The opening of a block or of a frame. -/
  | opening (heading : String)
  /-- A declaration with a fixed value. -/
  | fixed (property : String) (value : Value)
  /-- A declaration with a produced value, and the selector of its outermost block. -/
  | computed (selector property : String) (producer : P)
  /-- The end of a block or of a frame. -/
  | closing

/-- Whether the value of a piece is produced from the component. -/
def Piece.isComputed : Piece P → Bool
  | .computed _ _ _ => true
  | _ => false

mutual

/-- The pieces of one declaration. -/
def RuleValue.pieces (selector property : String) : RuleValue P → List (Piece P)
  | .fixed value => [.fixed property value]
  | .computed producer => [.computed selector property producer]
  | .frame ⟨declarations⟩ =>
    .opening property :: (declarationPieces selector declarations ++ [.closing])

/-- The pieces of a list of declarations. -/
def declarationPieces (selector : String) : List (String × RuleValue P) → List (Piece P)
  | [] => []
  | (property, value) :: rest => value.pieces selector property ++ declarationPieces selector rest

end

/-- The pieces of one block. -/
def blockPieces (e : String × Declarations P) : List (Piece P) :=
  .opening e.1 :: (declarationPieces e.1 e.2.entries ++ [.closing])

/-- The pieces of a rule set in rendering order. -/
def RuleSet.pieces (rules : RuleSet P) : List (Piece P) := rules.blocks.entries.flatMap blockPieces

/-- Writes one piece. -/
def Piece.write (eval : Evaluator P C σ) (component : Option C) (layout : Layout) :
    Piece P → Writing σ
  | .opening heading => Writing.append (layout.opening heading)
  | .fixed property value => Writing.append (layout.declaration property value.written)
  | .computed selector property producer =>
    writeComputed eval component layout selector property producer
  | .closing => Writing.append layout.closing

/-- Writes pieces one after another until one fails. -/
def writePieces (eval : Evaluator P C σ) (component : Option C) (layout : Layout) :
    List (Piece P) → Writing σ
  | [] => fun page => .ok () page
  | piece :: rest =>
    (piece.write eval component layout).andThen (writePieces eval component layout rest)

/-! ### Rendering writes the pieces -/

namespace Writing

/-- Actions can be grouped in any way. -/
lemma andThen_assoc (first second third : Writing σ) :
    (first.andThen second).andThen third = first.andThen (second.andThen third) := by
  funext page
  unfold andThen
  cases first page <;> rfl

/-- An action is unchanged by one after it that does nothing. -/
@[simp] lemma andThen_ok (first : Writing σ) : first.andThen (fun page => .ok () page) = first := by
  funext page
  unfold andThen
  cases first page <;> rfl

end Writing

section Pieces

variable (eval : Evaluator P C σ) (component : Option C) (layout : Layout)

lemma writePieces_append (xs ys : List (Piece P)) :
    writePieces eval component layout (xs ++ ys) =
      (writePieces eval component layout xs).andThen (writePieces eval component layout ys) := by
  induction xs with
  | nil => rfl
  | cons piece rest ih =>
    rw [List.cons_append, writePieces, writePieces, ih, Writing.andThen_assoc]

lemma writePieces_singleton (piece : Piece P) :
    writePieces eval component layout [piece] = piece.write eval component layout :=
  Writing.andThen_ok _

mutual

/-- One declaration is written piece by piece. -/
theorem writeValue_eq_writePieces (selector property : String) : (value : RuleValue P) →
    writeValue eval component layout selector property value =
      writePieces eval component layout (value.pieces selector property)
  | .fixed value => by
    rw [writeValue, RuleValue.pieces, writePieces_singleton]
    rfl
  | .computed producer => by
    rw [writeValue, RuleValue.pieces, writePieces_singleton]
    rfl
  | .frame ⟨declarations⟩ => by
    rw [writeValue, RuleValue.pieces, writePieces, writePieces_append, writePieces_singleton,
      writeDeclarations_eq_writePieces selector declarations]
    rfl

/-- A list of declarations is written piece by piece. -/
theorem writeDeclarations_eq_writePieces (selector : String) :
    (declarations : List (String × RuleValue P)) →
    writeDeclarations eval component layout selector declarations =
      writePieces eval component layout (declarationPieces selector declarations)
  | [] => by
    rw [writeDeclarations, declarationPieces, writePieces]
  | (property, value) :: rest => by
    rw [writeDeclarations, declarationPieces, writePieces_append,
      writeValue_eq_writePieces selector property value,
      writeDeclarations_eq_writePieces selector rest]

end

lemma writeBlock_eq_writePieces (selector : String) (block : Declarations P) :
    writeBlock eval component layout selector block =
      writePieces eval component layout (blockPieces (selector, block)) := by
  rw [writeBlock, blockPieces, writePieces, writePieces_append, writePieces_singleton,
    writeDeclarations_eq_writePieces]
  rfl

/-- A list of blocks is written piece by piece. -/
lemma writeBlocks_eq_writePieces (blocks : List (String × Declarations P)) :
    writeBlocks eval component layout blocks =
      writePieces eval component layout (blocks.flatMap blockPieces) := by
  induction blocks with
  | nil => rfl
  | cons e rest ih =>
    obtain ⟨selector, block⟩ := e
    rw [writeBlocks, List.flatMap_cons, writePieces_append, writeBlock_eq_writePieces, ih]

/-- Rendering a rule set writes its pieces one after another. -/
theorem RuleSet.renderInto_eq_writePieces (rules : RuleSet P) :
    rules.renderInto eval component layout = writePieces eval component layout rules.pieces :=
  writeBlocks_eq_writePieces eval component layout rules.blocks.entries

end Pieces

/-- What comes of the opening and the closing of a block or frame can be left out if it is
nothing. -/
lemma Piece.filterMap_framed {α : Type} {f : Piece P → Option α} {heading : String}
    (hopening : f (.opening heading) = none) (hclosing : f .closing = none)
    (inner : List (Piece P)) :
    (Piece.opening heading :: (inner ++ [Piece.closing])).filterMap f = inner.filterMap f := by
  rw [List.filterMap_cons_none hopening, List.filterMap_append, List.filterMap_cons_none hclosing,
    List.filterMap_nil, List.append_nil]

/-! ### Texts without a component -/

/-- The text of a piece; a produced value has none of its own. -/
def Piece.text (layout : Layout) : Piece P → String
  | .opening heading => layout.opening heading
  | .fixed property value => layout.declaration property value.written
  | .computed _ _ _ => ""
  | .closing => layout.closing

/-- The texts of pieces one after another. -/
def pieceText (layout : Layout) : List (Piece P) → String
  | [] => ""
  | piece :: rest => piece.text layout ++ pieceText layout rest

lemma pieceText_append (layout : Layout) (xs ys : List (Piece P)) :
    pieceText layout (xs ++ ys) = pieceText layout xs ++ pieceText layout ys := by
  induction xs with
  | nil => simp [pieceText]
  | cons piece rest ih => rw [List.cons_append, pieceText, pieceText, ih, String.append_assoc]

/-- Pieces without produced values are written whatever the component is. -/
lemma writePieces_of_fixed (eval : Evaluator P C σ) (component : Option C) (layout : Layout)
    {pieces : List (Piece P)} (h : ∀ piece ∈ pieces, piece.isComputed = false) (page : Page σ) :
    writePieces eval component layout pieces page =
      .ok () { page with text := page.text ++ pieceText layout pieces } := by
  induction pieces generalizing page with
  | nil => simp [writePieces, pieceText]
  | cons piece rest ih =>
    have hpiece : piece.write eval component layout page =
        .ok () { page with text := page.text ++ piece.text layout } := by
      cases piece with
      | computed selector property producer => simpa [Piece.isComputed] using h _ List.mem_cons_self
      | _ => rfl
    rw [writePieces, Writing.andThen, hpiece]
    change writePieces eval component layout rest _ = _
    rw [ih (fun p hp => h p (List.mem_cons_of_mem _ hp)), pieceText, String.append_assoc]

mutual

/-- A value is dynamic if and only if one of its pieces is. -/
theorem RuleValue.isDynamic_eq_any (selector property : String) : (value : RuleValue P) →
    value.isDynamic = (value.pieces selector property).any Piece.isComputed
  | .fixed _ => by simp [RuleValue.isDynamic, RuleValue.pieces, Piece.isComputed]
  | .computed _ => by simp [RuleValue.isDynamic, RuleValue.pieces, Piece.isComputed]
  | .frame ⟨declarations⟩ => by
    simp [RuleValue.isDynamic, RuleValue.pieces, Piece.isComputed,
      anyDynamic_eq_any selector declarations]

/-- Some declaration of a list is dynamic if and only if one of its pieces is. -/
theorem anyDynamic_eq_any (selector : String) : (declarations : List (String × RuleValue P)) →
    anyDynamic declarations = (declarationPieces selector declarations).any Piece.isComputed
  | [] => by simp [anyDynamic, declarationPieces]
  | (property, value) :: rest => by
    rw [anyDynamic, declarationPieces, List.any_append,
      RuleValue.isDynamic_eq_any selector property value, anyDynamic_eq_any selector rest]

end

namespace RuleSet

/-- A rule set is dynamic if and only if one of its pieces is. -/
lemma hasDynamic_eq_any (rules : RuleSet P) :
    rules.hasDynamic = rules.pieces.any Piece.isComputed := by
  rw [hasDynamic, pieces, List.any_flatMap]
  congr 1
  funext e
  simp [blockPieces, Piece.isComputed, anyDynamic_eq_any e.1]

lemma isComputed_of_not_hasDynamic {rules : RuleSet P} (h : rules.hasDynamic = false) :
    ∀ piece ∈ rules.pieces, piece.isComputed = false := by
  rw [hasDynamic_eq_any, List.any_eq_false] at h
  exact fun piece hpiece => Bool.eq_false_iff.mpr (h piece hpiece)

/-- The text of a rule set without produced values. -/
def fixedText (rules : RuleSet P) (layout : Layout) : String := pieceText layout rules.pieces

/-- A rule set without produced values is rendered whatever the component is, and nothing runs. -/
theorem render_of_not_hasDynamic {rules : RuleSet P} (h : rules.hasDynamic = false)
    (eval : Evaluator P C σ) (component : Option C) (layout : Layout) (memory : σ) :
    rules.render eval component layout memory = (.ok (rules.fixedText layout), memory) := by
  rw [render, renderInto_eq_writePieces,
    writePieces_of_fixed eval component layout (isComputed_of_not_hasDynamic h)]
  simp [fixedText]

/-- Rule sets without produced values that are written one after another have the concatenation of
their texts. -/
theorem renderFixed_of_not_hasDynamic {first second : RuleSet P} (hfirst : first.hasDynamic = false)
    (hsecond : second.hasDynamic = false) (layout : Layout) :
    renderFixed [first, second] layout =
      .ok (first.fixedText layout ++ second.fixedText layout) := by
  have hpieces : ∀ piece ∈ first.pieces ++ second.pieces, piece.isComputed = false := by
    intro piece hpiece
    rcases List.mem_append.mp hpiece with hp | hp
    · exact isComputed_of_not_hasDynamic hfirst piece hp
    · exact isComputed_of_not_hasDynamic hsecond piece hp
  have hflat : ([first, second].flatMap fun rules => rules.blocks.entries).flatMap blockPieces =
      first.pieces ++ second.pieces := by
    simp [pieces]
  rw [renderFixed]
  simp only [writeBlocks_eq_writePieces, hflat, writePieces_of_fixed _ _ _ hpieces]
  simp [fixedText, pieceText_append]

end RuleSet

end Restyle
