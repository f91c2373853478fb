import Restyle.Error
import Restyle.Layout
import Restyle.RuleSet

/-!
# Rendering rule sets

Rendering goes through a rule set in order and appends to a page: the opening of each block, its
declarations, its closing. Produced values are evaluated when they are reached. An error stops the
rendering at once; what the page holds by then stays, and no later producer has run. The error names
the property that was reached and the selector of the outermost block.
-/

namespace Restyle

variable {P C σ : Type}

/-- How producers of type `P` give values for components of type `C`: a producer may fail with a
text, and it may read and change a memory `σ` that all producers share. -/
abbrev Evaluator (P C σ : Type) := P → C → σ → Except String Value × σ

/-- A text under construction, together with the memory of the producers. -/
structure Page (σ : Type) where
  /-- The text so far. -/
  text : String
  /-- The memory of the producers. -/
  memory : σ

/-- An action on a page that keeps what it has done when it fails. -/
abbrev Writing (σ : Type) := EStateM StyleError (Page σ) Unit

namespace Writing

/-- Appends a text to the page. -/
def append (s : String) : Writing σ := fun page => .ok () { page with text := page.text ++ s }

/-- One action after another; the second does not start if the first fails. -/
def andThen (first second : Writing σ) : Writing σ := fun page =>
  match first page with
  | .ok _ page => second page
  | .error e page => .error e page

end Writing

/-- Appends a declaration whose value is produced. The component is asked for before the producer
runs. -/
def writeComputed (eval : Evaluator P C σ) (component : Option C) (layout : Layout)
    (selector property : String) (producer : P) : Writing σ := fun page =>
  match component with
  | none => .error (.missingComponent selector property) page
  | some c =>
    match eval producer c page.memory with
    | (.ok value, memory) =>
      .ok () ⟨page.text ++ layout.declaration property value.written, memory⟩
    | (.error source, memory) =>
      .error (.producerFailed selector property source) { page with memory }

mutual

/-- Appends one declaration, or one frame as a nested block. -/
def writeValue (eval : Evaluator P C σ) (component : Option C) (layout : Layout)
    (selector property : String) : RuleValue P → Writing σ
  | .fixed value => Writing.append (layout.declaration property value.written)
  | .computed producer => writeComputed eval component layout selector property producer
  | .frame ⟨declarations⟩ =>
    (Writing.append (layout.opening property)).andThen
      ((writeDeclarations eval component layout selector declarations).andThen
        (Writing.append layout.closing))

/-- Appends a list of declarations. -/
def writeDeclarations (eval : Evaluator P C σ) (component : Option C) (layout : Layout)
    (selector : String) : List (String × RuleValue P) → Writing σ
  | [] => fun page => .ok () page
  | (property, value) :: rest =>
    (writeValue eval component layout selector property value).andThen
      (writeDeclarations eval component layout selector rest)

end

/-- Appends one block. -/
def writeBlock (eval : Evaluator P C σ) (component : Option C) (layout : Layout)
    (selector : String) (block : Declarations P) : Writing σ :=
  (Writing.append (layout.opening selector)).andThen
    ((writeDeclarations eval component layout selector block.entries).andThen
      (Writing.append layout.closing))

/-- Appends a list of blocks. -/
def writeBlocks (eval : Evaluator P C σ) (component : Option C) (layout : Layout) :
    List (String × Declarations P) → Writing σ
  | [] => fun page => .ok () page
  | (selector, block) :: rest =>
    (writeBlock eval component layout selector block).andThen
      (writeBlocks eval component layout rest)

namespace RuleSet

/-- Appends a rule set to a page. -/
def renderInto (rules : RuleSet P) (eval : Evaluator P C σ) (component : Option C)
    (layout : Layout) : Writing σ :=
  writeBlocks eval component layout rules.blocks.entries

/-- The text of a rule set, with the memory that the producers leave behind. -/
def render (rules : RuleSet P) (eval : Evaluator P C σ) (component : Option C) (layout : Layout)
    (memory : σ) : Except StyleError String × σ :=
  match rules.renderInto eval component layout ⟨"", memory⟩ with
  | .ok _ page => (.ok page.text, page.memory)
  | .error e page => (.error e, page.memory)

/-- The text of rule sets written one after another without a component. With no component there is
nothing a producer could be given, so no memory is needed. -/
def renderFixed (sheets : List (RuleSet P)) (layout : Layout) : Except StyleError String :=
  let eval : Evaluator P Empty Unit := fun _ component _ => nomatch component
  let blocks := sheets.flatMap fun rules => rules.blocks.entries
  match writeBlocks eval none layout blocks ⟨"", ()⟩ with
  | .ok _ page => .ok page.text
  | .error e _ => .error e

end RuleSet

end Restyle
