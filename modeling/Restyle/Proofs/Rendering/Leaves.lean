import Restyle.Proofs.Rendering

/-!
# The produced declarations of a rule set

A leaf is a declaration whose value is produced from the component, with its own property and the
selector of the outermost block around it. `RuleSet.leaves` lists the leaves of a rule set in
rendering order, those inside frames included, however deep the frames are nested.

What is rendered before a leaf is said by `RuleSet.LeadsTo`: the blocks before its own, the opening
of its own block, and then on each level of frames the declarations before and the opening of the
next frame. The blocks and frames around the leaf are thus open. The pieces of a rule set are cut at
a leaf exactly there (`RuleSet.leadsTo_of_pieces`).
-/

namespace Restyle

variable {P : Type}

/-! ### Leaves in rendering order -/

/-- A declaration with a produced value. -/
structure Leaf (P : Type) where
  /-- The selector of the outermost block around it. -/
  selector : String
  /-- Its own property. -/
  property : String
  /-- The producer of its value. -/
  producer : P

mutual

/-- The leaves of a value; those of a frame are the ones inside it. -/
def RuleValue.leaves (selector property : String) : RuleValue P → List (Leaf P)
  | .fixed _ => []
  | .computed producer => [⟨selector, property, producer⟩]
  | .frame ⟨declarations⟩ => declaredLeaves selector declarations

/-- The leaves of a list of declarations, in order. -/
def declaredLeaves (selector : String) : List (String × RuleValue P) → List (Leaf P)
  | [] => []
  | (property, value) :: rest => value.leaves selector property ++ declaredLeaves selector rest

end

/-- The leaves of a rule set, in rendering order. -/
def RuleSet.leaves (rules : RuleSet P) : List (Leaf P) :=
  rules.blocks.entries.flatMap fun e => declaredLeaves e.1 e.2.entries

/-- The leaf that a piece is, if its value is produced. -/
def Piece.leaf? : Piece P → Option (Leaf P)
  | .computed selector property producer => some ⟨selector, property, producer⟩
  | _ => none

/-- The piece that a leaf is. -/
def Leaf.piece (leaf : Leaf P) : Piece P := .computed leaf.selector leaf.property leaf.producer

lemma Piece.leaf?_eq_some_iff {piece : Piece P} {leaf : Leaf P} :
    piece.leaf? = some leaf ↔ piece = leaf.piece := by
  cases piece with
  | computed selector property producer =>
    obtain ⟨s, p, q⟩ := leaf
    simp [Piece.leaf?, Leaf.piece]
  | opening heading => simp [Piece.leaf?, Leaf.piece]
  | fixed property value => simp [Piece.leaf?, Leaf.piece]
  | closing => simp [Piece.leaf?, Leaf.piece]

mutual

/-- The pieces of a value come with its leaves, in the same order. -/
theorem RuleValue.filterMap_leaf?_pieces (selector property : String) : (value : RuleValue P) →
    (value.pieces selector property).filterMap Piece.leaf? = value.leaves selector property
  | .fixed _ => by simp [RuleValue.pieces, RuleValue.leaves, Piece.leaf?]
  | .computed _ => by simp [RuleValue.pieces, RuleValue.leaves, Piece.leaf?]
  | .frame ⟨declarations⟩ => by
    rw [RuleValue.pieces, RuleValue.leaves, Piece.filterMap_framed rfl rfl]
    exact filterMap_leaf?_declarationPieces selector declarations

/-- The pieces of a list of declarations come with its leaves, in the same order. -/
theorem filterMap_leaf?_declarationPieces (selector : String) :
    (declarations : List (String × RuleValue P)) →
    (declarationPieces selector declarations).filterMap Piece.leaf? =
      declaredLeaves selector declarations
  | [] => by simp [declarationPieces, declaredLeaves]
  | (property, value) :: rest => by
    rw [declarationPieces, declaredLeaves, List.filterMap_append,
      RuleValue.filterMap_leaf?_pieces selector property value,
      filterMap_leaf?_declarationPieces selector rest]

end

namespace RuleSet

/-- The pieces of a rule set come with its leaves, in the same order. -/
lemma filterMap_leaf?_pieces (rules : RuleSet P) :
    rules.pieces.filterMap Piece.leaf? = rules.leaves := by
  have hblock : ∀ e : String × Declarations P,
      (blockPieces e).filterMap Piece.leaf? = declaredLeaves e.1 e.2.entries := by
    intro e
    rw [blockPieces, Piece.filterMap_framed rfl rfl, filterMap_leaf?_declarationPieces]
  rw [pieces, leaves, List.filterMap_flatMap]
  simp only [hblock]

/-- A rule set is dynamic if and only if it has a leaf. -/
lemma hasDynamic_eq_false_iff_leaves (rules : RuleSet P) :
    rules.hasDynamic = false ↔ rules.leaves = [] := by
  rw [hasDynamic_eq_any, ← filterMap_leaf?_pieces, List.any_eq_false, List.filterMap_eq_nil_iff]
  refine forall₂_congr fun piece _ => ?_
  cases piece <;> simp [Piece.isComputed, Piece.leaf?]

end RuleSet

/-! ### What stands before a leaf -/

/-- A leaf stands in a list of declarations, and `before` are the pieces up to it. -/
inductive DeclarationsLeadTo (leaf : Leaf P) : List (String × RuleValue P) → List (Piece P) → Prop
  /-- It is one of the declarations. -/
  | here (earlier later : List (String × RuleValue P)) :
    DeclarationsLeadTo leaf (earlier ++ (leaf.property, .computed leaf.producer) :: later)
      (declarationPieces leaf.selector earlier)
  /-- It stands in one of the frames, which is open. -/
  | inside (earlier later : List (String × RuleValue P)) (offset : String)
    {frame : Declarations P} {before : List (Piece P)}
    (h : DeclarationsLeadTo leaf frame.entries before) :
    DeclarationsLeadTo leaf (earlier ++ (offset, .frame frame) :: later)
      (declarationPieces leaf.selector earlier ++ .opening offset :: before)

/-- A leaf stands in the block of its selector, which is open, and `before` are the pieces up to
it. -/
def RuleSet.LeadsTo (rules : RuleSet P) (leaf : Leaf P) (before : List (Piece P)) : Prop :=
  ∃ earlier block later inner,
    rules.blocks.entries = earlier ++ (leaf.selector, block) :: later ∧
    DeclarationsLeadTo leaf block.entries inner ∧
    before = earlier.flatMap blockPieces ++ .opening leaf.selector :: inner

/-- A declaration in front is before every leaf. -/
lemma DeclarationsLeadTo.cons {leaf : Leaf P} {declarations : List (String × RuleValue P)}
    {before : List (Piece P)} (h : DeclarationsLeadTo leaf declarations before) (property : String)
    (value : RuleValue P) :
    DeclarationsLeadTo leaf ((property, value) :: declarations)
      (value.pieces leaf.selector property ++ before) := by
  cases h with
  | here earlier later =>
    have hhere : DeclarationsLeadTo leaf _ _ := .here ((property, value) :: earlier) later
    rwa [declarationPieces] at hhere
  | inside earlier later offset hinner =>
    have hinside := DeclarationsLeadTo.inside ((property, value) :: earlier) later offset hinner
    rwa [declarationPieces, List.append_assoc] at hinside

/-- An element at which two lists in a row are cut stands in the first or in the second of them. -/
lemma append_cut {α : Type} {first second before after : List α} {x : α}
    (h : first ++ second = before ++ x :: after) :
    (∃ after', first = before ++ x :: after') ∨
      ∃ before', before = first ++ before' ∧ second = before' ++ x :: after := by
  rcases List.append_eq_append_iff.mp h with ⟨before', hbefore, hsecond⟩ | ⟨rest, hfirst, hafter⟩
  · exact Or.inr ⟨before', hbefore, hsecond⟩
  · cases rest with
    | nil => exact Or.inr ⟨[], by simpa using hfirst.symm, hafter.symm⟩
    | cons y rest =>
      obtain ⟨rfl, -⟩ := List.cons.inj hafter
      exact Or.inl ⟨rest, hfirst⟩

mutual

/-- Where the pieces of a value are cut at a leaf, the value is the leaf or a frame around it. -/
theorem RuleValue.cut_at_leaf {leaf : Leaf P} {before after : List (Piece P)}
    (selector property : String) : (value : RuleValue P) →
    value.pieces selector property = before ++ leaf.piece :: after →
    leaf.selector = selector ∧
      ((leaf.property = property ∧ value = .computed leaf.producer ∧ before = []) ∨
        ∃ frame inner, value = .frame frame ∧ DeclarationsLeadTo leaf frame.entries inner ∧
          before = .opening property :: inner)
  | .fixed value, h => by
    rw [RuleValue.pieces, List.singleton_eq_append_iff] at h
    simp [Leaf.piece] at h
  | .computed producer, h => by
    rw [RuleValue.pieces, List.singleton_eq_append_iff] at h
    rcases h with ⟨rfl, hpiece⟩ | ⟨-, hnil⟩
    · obtain ⟨⟨rfl, rfl, rfl⟩, -⟩ := by simpa [Leaf.piece] using hpiece
      exact ⟨rfl, Or.inl ⟨rfl, rfl, rfl⟩⟩
    · cases hnil
  | .frame ⟨declarations⟩, h => by
    rw [RuleValue.pieces] at h
    cases before with
    | nil => cases h
    | cons opening inner =>
      obtain ⟨rfl, hinner⟩ := List.cons.inj h
      -- the closing is no leaf, so the cut is among the pieces inside the frame
      rcases append_cut hinner with ⟨after', hcut⟩ | ⟨before', -, hclosing⟩
      · obtain ⟨hselector, hleads⟩ := cut_at_leaf_declarations selector declarations hcut
        exact ⟨hselector, Or.inr ⟨⟨declarations⟩, inner, rfl, hleads, rfl⟩⟩
      · rw [List.singleton_eq_append_iff] at hclosing
        simp [Leaf.piece] at hclosing

/-- Where the pieces of a list of declarations are cut at a leaf, what is before the cut leads to
it. -/
theorem cut_at_leaf_declarations {leaf : Leaf P} {before after : List (Piece P)}
    (selector : String) : (declarations : List (String × RuleValue P)) →
    declarationPieces selector declarations = before ++ leaf.piece :: after →
    leaf.selector = selector ∧ DeclarationsLeadTo leaf declarations before
  | [], h => by
    rw [declarationPieces] at h
    exact absurd h.symm (by simp)
  | (property, value) :: rest, h => by
    rw [declarationPieces] at h
    rcases append_cut h with ⟨after', hvalue⟩ | ⟨before', rfl, hrest⟩
    · obtain ⟨hselector, hcases⟩ := RuleValue.cut_at_leaf selector property value hvalue
      rcases hcases with ⟨rfl, rfl, rfl⟩ | ⟨frame, inner, rfl, hleads, rfl⟩
      · exact ⟨hselector, .here [] rest⟩
      · exact ⟨hselector, .inside [] rest property hleads⟩
    · obtain ⟨rfl, hleads⟩ := cut_at_leaf_declarations selector rest hrest
      exact ⟨rfl, hleads.cons property value⟩

end

/-- Where the pieces of a rule set are cut at a leaf, what is before the cut leads to it. -/
theorem RuleSet.leadsTo_of_pieces {rules : RuleSet P} {leaf : Leaf P}
    {before after : List (Piece P)} (h : rules.pieces = before ++ leaf.piece :: after) :
    rules.LeadsTo leaf before := by
  unfold RuleSet.LeadsTo
  unfold RuleSet.pieces at h
  generalize rules.blocks.entries = blocks at h ⊢
  induction blocks generalizing before with
  | nil => exact absurd h.symm (by simp)
  | cons e rest ih =>
    rw [List.flatMap_cons] at h
    rcases append_cut h with ⟨after', hblock⟩ | ⟨before', rfl, hrest⟩
    · -- a block is cut like a frame
      have hframe : (RuleValue.frame e.2).pieces e.1 e.1 = before ++ leaf.piece :: after' := by
        rw [← hblock, blockPieces, RuleValue.pieces]
      obtain ⟨hselector, ⟨-, hcomputed, -⟩ | ⟨frame, inner, hvalue, hleads, rfl⟩⟩ :=
        RuleValue.cut_at_leaf e.1 e.1 _ hframe
      · cases hcomputed
      · obtain rfl := RuleValue.frame.inj hvalue
        exact ⟨[], e.2, rest, inner, by rw [hselector]; rfl, hleads, by rw [hselector]; rfl⟩
    · obtain ⟨earlier, block, later, inner, hentries, hleads, rfl⟩ := ih hrest
      exact ⟨e :: earlier, block, later, inner, by rw [hentries]; rfl, hleads, by simp⟩

/-- The pieces of a rule set can be cut at each of its leaves. -/
lemma RuleSet.exists_cut_at_leaf {rules : RuleSet P} {earlier later : List (Leaf P)} {leaf : Leaf P}
    (h : rules.leaves = earlier ++ leaf :: later) :
    ∃ before after, rules.pieces = before ++ leaf.piece :: after ∧
      before.filterMap Piece.leaf? = earlier := by
  rw [← filterMap_leaf?_pieces] at h
  obtain ⟨before, rest, hpieces, hbefore, hrest⟩ := List.filterMap_eq_append_iff.mp h
  obtain ⟨still, piece, after, rfl, hstill, hpiece, -⟩ := List.filterMap_eq_cons_iff.mp hrest
  obtain rfl := Piece.leaf?_eq_some_iff.mp hpiece
  -- the pieces between the leaf before and this one are no leaves
  refine ⟨before ++ still, after, by rw [hpieces, List.append_assoc], ?_⟩
  rw [List.filterMap_append, hbefore, List.filterMap_eq_nil_iff.mpr hstill, List.append_nil]

end Restyle
