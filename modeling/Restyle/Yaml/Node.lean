import Restyle.Yaml.Event

/-!
# Nodes

The tree of a document, still with its tags, its scalar styles and its aliases. An alias refers to a
position, and the document keeps the node that is anchored there. Positions are handed out by the
number of distinct names known so far, so a name given anew shares its position with the next new
name, and the node anchored last at a position is the one that counts.
-/

namespace Restyle.Yaml

/-- A node of a document. -/
inductive Node where
  /-- A scalar. -/
  | scalar (tag : Option TagText) (text : String) (style : ScalarStyle)
  /-- A sequence. -/
  | sequence (tag : Option TagText) (items : List Node)
  /-- A mapping, keys beside values. -/
  | mapping (tag : Option TagText) (pairs : List (Node × Node))
  /-- A reference to the node anchored at a position. -/
  | alias (position : Nat)

instance : Inhabited Node := ⟨.scalar none "" .plain⟩

/-- A document: its root, the nodes anchored at positions, and the number of its events. -/
structure Document where
  /-- The root. -/
  root : Node
  /-- The anchored nodes by position, with the count of events before each. -/
  anchored : List (Nat × Nat × Node)
  /-- The number of events of the document. -/
  size : Nat

namespace Document

/-- The node anchored at a position: of several, the one that starts last. -/
def anchoredAt? (d : Document) (position : Nat) : Option Node :=
  let here := d.anchored.filter fun a => a.1 == position
  (here.foldl
    (fun best a =>
      match best with
      | some b => if b.2.1 < a.2.1 then some a else best
      | none => some a)
    (none : Option (Nat × Nat × Node))).map fun a => a.2.2

/-- A container that has started and not ended yet. -/
structure Open where
  /-- Whether it is a mapping. -/
  isMapping : Bool
  /-- Its tag. -/
  tag : Option TagText
  /-- The position of its anchor. -/
  position : Option Nat
  /-- The count of events before it. -/
  startsAt : Nat
  /-- Its children so far, in reverse. -/
  children : List Node

/-- The state while events are put together. -/
structure Assembly where
  /-- The open containers, innermost first. -/
  stack : List Open
  /-- The finished root. -/
  root : Option Node
  /-- The known names with their positions. -/
  names : List (String × Nat)
  /-- The anchored nodes that are finished. -/
  anchored : List (Nat × Nat × Node)
  /-- The count of events so far. -/
  size : Nat

/-- Pairs up the children of a mapping. -/
def pairs : List Node → List (Node × Node)
  | key :: value :: rest => (key, value) :: pairs rest
  | _ => []

namespace Assembly

/-- The state before the first event. -/
def start : Assembly := ⟨[], none, [], [], 0⟩

/-- Hands out a position for an anchor. -/
def name (anchor : Option String) (a : Assembly) : Option Nat × Assembly :=
  match anchor with
  | none => (none, a)
  | some n =>
    let position := a.names.length
    (some position, { a with names := (n, position) :: a.names.filter fun e => e.1 ≠ n })

/-- Adds a finished node to the innermost open container. -/
def add (node : Node) (a : Assembly) : Assembly :=
  match a.stack with
  | top :: rest => { a with stack := { top with children := node :: top.children } :: rest }
  | [] => { a with root := some node }

/-- Remembers a finished node under its position. -/
def remember (position : Option Nat) (startsAt : Nat) (node : Node) (a : Assembly) : Assembly :=
  match position with
  | some p => { a with anchored := (p, startsAt, node) :: a.anchored }
  | none => a

/-- Starts a container. -/
def openContainer (isMapping : Bool) (anchor : Option String) (tag : Option TagText)
    (a : Assembly) : Assembly :=
  let (position, a) := a.name anchor
  { a with stack := ⟨isMapping, tag, position, a.size, []⟩ :: a.stack }

/-- Ends the innermost container. -/
def closeContainer (a : Assembly) : Except Fault Assembly :=
  match a.stack with
  | [] => .error .badStructure
  | top :: rest =>
    let children := top.children.reverse
    let node := if top.isMapping then Node.mapping top.tag (pairs children)
      else .sequence top.tag children
    .ok (({ a with stack := rest }.remember top.position top.startsAt node).add node)

/-- Takes one more event into account. -/
def step (a : Assembly) (e : Event) : Except Fault Assembly := do
  let a ← match e with
    | .alias n =>
      match a.names.lookup n with
      | some position => pure (a.add (.alias position))
      | none => throw .unknownAnchor
    | .scalar anchor tag text style =>
      let (position, a) := a.name anchor
      let node := Node.scalar tag text style
      pure ((a.remember position a.size node).add node)
    | .sequenceStart anchor tag => pure (a.openContainer false anchor tag)
    | .mappingStart anchor tag => pure (a.openContainer true anchor tag)
    | .sequenceEnd | .mappingEnd => a.closeContainer
  pure { a with size := a.size + 1 }

end Assembly

/-- Puts the events of a document together; none at all give no document. -/
def ofEvents (es : List Event) : Except Fault (Option Document) := do
  let a ← es.foldlM Assembly.step .start
  pure (a.root.map fun root => ⟨root, a.anchored, a.size⟩)

end Document

/-- The document of a text, if the text holds one. -/
def document (s : String) : Except Fault (Option Document) := do
  Document.ofEvents (← events s)

/-- The name in a tag that an application defines for itself: what follows the exclamation mark, or
the mark itself if it stands alone. -/
def localTag? (tag : Option TagText) : Option String :=
  match tag with
  | some (b :: rest) =>
    if b = bang then String.fromUTF8? ⟨(if rest = [] then [b] else rest).toArray⟩ else none
  | _ => none

/-- The full form of a tag that every document knows. -/
def commonTag (name : String) : TagText := bytesOf ("tag:yaml.org,2002:" ++ name).toList

end Restyle.Yaml
