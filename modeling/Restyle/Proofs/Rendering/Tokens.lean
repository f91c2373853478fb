import Mathlib.Data.List.Count
import Mathlib.Tactic.Lemma
import Restyle.Layout
import Restyle.Value

/-!
# Sheets as token sequences

A sheet is a sequence of tokens: the openings and closings of blocks, and declarations. A layout
prints it token by token (`Sheet.print`), so two layouts print one sheet in two ways.

What a sheet lists is read off its tokens, whatever the values are (`Sheet.items?`): its blocks and
declarations in order, each with the headings of the blocks around it. The reader refuses a closing
or a declaration outside of all blocks, and a sheet that ends inside of one. So a sheet that can be
read is balanced (`Sheet.balanced_of_items?`).
-/

namespace Restyle.Sheet

/-- A token of a sheet whose declarations have values of type `α`. -/
inductive Token (α : Type) where
  /-- The opening of a block or of a frame. -/
  | opening (heading : String)
  /-- A declaration. -/
  | declaration (property : String) (value : α)
  /-- The end of a block or of a frame. -/
  | closing

variable {α : Type}

/-! ### Printing -/

/-- A token as it is printed. -/
def Token.text (layout : Layout) : Token Value → String
  | .opening heading => layout.opening heading
  | .declaration property value => layout.declaration property value.written
  | .closing => layout.closing

/-- The tokens of a sheet printed one after another. -/
def print (layout : Layout) (tokens : List (Token Value)) : String :=
  String.join (tokens.map (Token.text layout))

/-! ### Reading -/

/-- Something that a sheet lists. -/
inductive Item (α : Type) where
  /-- A block or a frame, with the headings of those around it, innermost first. -/
  | block (path : List String) (heading : String)
  /-- A declaration, with the headings of the blocks around it, innermost first. -/
  | declaration (path : List String) (property : String) (value : α)

/-- What the rest of a sheet lists if the blocks of a path are open. -/
def itemsFrom? : List String → List (Token α) → Option (List (Item α))
  | [], [] => some []
  | path, .opening heading :: rest =>
    (itemsFrom? (heading :: path) rest).map (.block path heading :: ·)
  | outer :: path, .declaration property value :: rest =>
    (itemsFrom? (outer :: path) rest).map (.declaration (outer :: path) property value :: ·)
  | _ :: path, .closing :: rest => itemsFrom? path rest
  | _, _ => none

/-- What a sheet lists. -/
def items? (tokens : List (Token α)) : Option (List (Item α)) := itemsFrom? [] tokens

section Step

variable {path : List String} {rest : List (Token α)} {items : List (Item α)}

/-- An opening can be read anywhere, and what is behind it is read one block further in. -/
lemma itemsFrom?_opening_iff {heading : String} :
    itemsFrom? path (.opening heading :: rest) = some items ↔
      ∃ later, itemsFrom? (heading :: path) rest = some later ∧
        .block path heading :: later = items := by
  cases path <;> simp [itemsFrom?]

/-- A declaration can be read inside of a block. -/
lemma itemsFrom?_declaration_iff {property : String} {value : α} :
    itemsFrom? path (.declaration property value :: rest) = some items ↔
      path ≠ [] ∧ ∃ later, itemsFrom? path rest = some later ∧
        .declaration path property value :: later = items := by
  cases path <;> simp [itemsFrom?]

/-- A closing can be read inside of a block, and what is behind it is read outside of this block. -/
lemma itemsFrom?_closing_iff :
    itemsFrom? path (.closing :: rest) = some items ↔
      ∃ heading outer, path = heading :: outer ∧ itemsFrom? outer rest = some items := by
  cases path <;> simp [itemsFrom?]

end Step

/-! ### Balance -/

namespace Token

/-- Whether a token opens a block. -/
def isOpening : Token α → Bool
  | .opening _ => true
  | _ => false

/-- Whether a token closes a block. -/
def isClosing : Token α → Bool
  | .closing => true
  | _ => false

end Token

/-- Every block is closed, and every declaration stands in a block. -/
structure Balanced (tokens : List (Token α)) : Prop where
  /-- There are as many closings as openings. -/
  closed : tokens.countP Token.isClosing = tokens.countP Token.isOpening
  /-- Before a declaration and before a closing some block is open. -/
  inside : ∀ before token after, tokens = before ++ token :: after → token.isOpening = false →
    before.countP Token.isClosing < before.countP Token.isOpening

/-- What reading one token does. An opening opens one block more and a closing one less, and
outside of all blocks only an opening can be read. -/
lemma of_itemsFrom?_cons {path : List String} {token : Token α} {rest : List (Token α)}
    {items : List (Item α)} (h : itemsFrom? path (token :: rest) = some items) :
    ∃ path' later, itemsFrom? path' rest = some later ∧
      path'.length + (if token.isClosing then 1 else 0) =
        path.length + (if token.isOpening then 1 else 0) ∧
      (token.isOpening = false → 0 < path.length) := by
  cases token with
  | opening heading =>
    obtain ⟨later, hlater, -⟩ := itemsFrom?_opening_iff.mp h
    exact ⟨heading :: path, later, hlater, rfl, nofun⟩
  | declaration property value =>
    obtain ⟨hpath, later, hlater, -⟩ := itemsFrom?_declaration_iff.mp h
    exact ⟨path, later, hlater, rfl, fun _ => List.length_pos_iff.mpr hpath⟩
  | closing =>
    obtain ⟨heading, outer, rfl, hlater⟩ := itemsFrom?_closing_iff.mp h
    exact ⟨outer, items, hlater, rfl, fun _ => Nat.zero_lt_succ _⟩

/-- With the blocks of a path open, a sheet that can be read closes these and its own. -/
lemma countP_isClosing_of_itemsFrom? {path : List String} {tokens : List (Token α)}
    {items : List (Item α)} (h : itemsFrom? path tokens = some items) :
    tokens.countP Token.isClosing = path.length + tokens.countP Token.isOpening := by
  induction tokens generalizing path items with
  | nil =>
    cases path with
    | nil => rfl
    | cons outer path => cases h
  | cons token rest ih =>
    obtain ⟨path', later, hlater, hlength, -⟩ := of_itemsFrom?_cons h
    have hrest := ih hlater
    rw [List.countP_cons, List.countP_cons]
    omega

/-- With the blocks of a path open, a sheet that can be read has an open block before each of its
declarations and closings. -/
lemma countP_lt_of_itemsFrom? {path : List String} {before after : List (Token α)}
    {token : Token α} {items : List (Item α)}
    (h : itemsFrom? path (before ++ token :: after) = some items)
    (htoken : token.isOpening = false) :
    before.countP Token.isClosing < path.length + before.countP Token.isOpening := by
  induction before generalizing path items with
  | nil =>
    obtain ⟨-, -, -, -, hpath⟩ := of_itemsFrom?_cons h
    simpa using hpath htoken
  | cons first before ih =>
    obtain ⟨path', later, hlater, hlength, -⟩ := of_itemsFrom?_cons h
    have hrest := ih hlater
    rw [List.countP_cons, List.countP_cons]
    omega

/-- A sheet that can be read is balanced. -/
theorem balanced_of_items? {tokens : List (Token α)} {items : List (Item α)}
    (h : items? tokens = some items) : Balanced tokens where
  closed := by simpa using countP_isClosing_of_itemsFrom? h
  inside := fun before token after hsplit htoken => by
    subst hsplit
    simpa using countP_lt_of_itemsFrom? h htoken

example : items? [.opening ".A", .opening "to", .declaration "top" 0, .closing, .closing] =
    some [.block [] ".A", .block [".A"] "to", .declaration ["to", ".A"] "top" 0] := by
  rfl

end Restyle.Sheet
