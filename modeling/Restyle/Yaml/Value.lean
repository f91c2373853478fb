import Restyle.Yaml.Scalar

/-!
# Values of a document

What a document says once its scalars are read and its aliases are followed. Tags that an
application defines for itself stay visible as tagged values. Two limits guard the expansion:
containers nest at most 128 deep, and aliases are followed at most a hundred times as often as the
document has events, so a document that refers to itself or repeats itself without measure is
refused.
-/

namespace Restyle.Yaml

/-- The value of a document. -/
inductive Value where
  /-- Nothing. -/
  | null
  /-- A truth value. -/
  | bool (b : Bool)
  /-- A number. -/
  | number (n : Numeral)
  /-- A text. -/
  | string (s : String)
  /-- A sequence. -/
  | sequence (items : List Value)
  /-- A mapping in document order. -/
  | mapping (pairs : List (Value × Value))
  /-- A value with a tag of an application. -/
  | tagged (tag : String) (inner : Value)

namespace Value

instance : Inhabited Value := ⟨.null⟩

/-- The value of a scalar. -/
def ofAtom : Atom → Value
  | .null => .null
  | .bool b => .bool b
  | .number n => .number n
  | .text s => .string s

/-- A tag without a leading exclamation mark, unless it is nothing else. -/
def bareTag (tag : String) : List Char :=
  match tag.toList with
  | '!' :: c :: rest => c :: rest
  | cs => cs

mutual

/-- Whether two values count as the same key. The order of the pairs of a mapping does not matter.
-/
def sameKey : Value → Value → Bool
  | .null, .null => true
  | .bool a, .bool b => a == b
  | .number a, .number b => a.sameKey b
  | .string a, .string b => a == b
  | .sequence as, .sequence bs => sameItems as bs
  | .mapping ps, .mapping qs => ps.length == qs.length && samePairs ps qs
  | .tagged s a, .tagged t b => bareTag s == bareTag t && a.sameKey b
  | _, _ => false

/-- Whether two lists of values agree in length and item by item. -/
def sameItems : List Value → List Value → Bool
  | [], [] => true
  | a :: as, b :: bs => a.sameKey b && sameItems as bs
  | _, _ => false

/-- Whether every pair of the first list has its like in the second. -/
def samePairs : List (Value × Value) → List (Value × Value) → Bool
  | [], _ => true
  | (k, v) :: rest, qs => (qs.any fun q => k.sameKey q.1 && v.sameKey q.2) && samePairs rest qs

end

/-- The value below all tags. -/
def untagged : Value → Value
  | .tagged _ inner => inner.untagged
  | v => v

end Value

/-- A computation that counts how many aliases it has followed. -/
abbrev Following := StateT Nat (Except Fault)

/-- How many times as often as a document has events its aliases may be followed. -/
def repetitionFactor : Nat := 100

/-- How deep containers may nest. -/
def nestingLimit : Nat := 128

/-- The node itself, or the node that an alias refers to. -/
def Document.follow (d : Document) (node : Node) : Following Node :=
  match node with
  | .alias position => do
    let jumps ← get
    if repetitionFactor * d.size < jumps + 1 then throw .tooRepetitive
    set (jumps + 1)
    match d.anchoredAt? position with
    | some target => pure target
    | none => throw .unknownAnchor
  | node => pure node

/-- Adds a pair to the pairs of a mapping, in reverse; its key must be new. -/
def addPair (pairs : List (Value × Value)) (key : Value) (value : Value) :
    Except Fault (List (Value × Value)) :=
  if pairs.any fun p => p.1.sameKey key then .error .repeatedKey else .ok ((key, value) :: pairs)

/-- The value as an application tags it. -/
def withTag (tag : Option String) (v : Value) : Value :=
  match tag with
  | some t => .tagged t v
  | none => v

/-- The value of a node below which containers may nest `depth` deep. -/
def Document.valueOf (d : Document) : Nat → Node → Following Value
  | depth, node => do
    match ← d.follow node with
    | .alias _ => throw .unknownAnchor
    | .scalar tag text style =>
      let name := localTag? tag
      let a ← atom (if name.isSome then none else tag) text style
      pure (withTag name (.ofAtom a))
    | .sequence tag items =>
      match depth with
      | 0 => throw .tooDeep
      | depth + 1 =>
        let items ← items.mapM (d.valueOf depth)
        pure (withTag (localTag? tag) (.sequence items))
    | .mapping tag pairs =>
      match depth with
      | 0 => throw .tooDeep
      | depth + 1 =>
        let pairs ← pairs.foldlM
          (fun acc p => do
            let key ← d.valueOf depth p.1
            let value ← d.valueOf depth p.2
            addPair acc key value)
          []
        pure (withTag (localTag? tag) (.mapping pairs.reverse))

/-- The value of a document; a text without document is null. -/
def Document.value (d : Option Document) : Except Fault Value :=
  match d with
  | none => .ok .null
  | some d => (d.valueOf nestingLimit d.root).run' 0

/-- Reads the value of a text. -/
def read (s : String) : Except Fault Value := do
  Document.value (← document s)

end Restyle.Yaml
