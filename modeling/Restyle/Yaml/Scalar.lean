import Restyle.Numeral
import Restyle.Decimal.Numeral
import Restyle.Yaml.Node

/-!
# Reading plain scalars

A scalar without quotes and without tag is null, a truth value or a number if it is spelled like
one, and a text otherwise. Whole numbers may be decimal, hexadecimal, octal or binary; a decimal
with superfluous leading zeros is a text.
-/

namespace Restyle.Yaml

/-- What a plain scalar stands for. -/
inductive Atom where
  /-- Nothing. -/
  | null
  /-- A truth value. -/
  | bool (b : Bool)
  /-- A number. -/
  | number (n : Numeral)
  /-- A text. -/
  | text (s : String)

/-- Whether a text spells null. -/
def isNull (s : String) : Bool := s ∈ ["null", "Null", "NULL", "~"]

/-- The truth value that a text spells. -/
def truth? (s : String) : Option Bool :=
  if s ∈ ["true", "True", "TRUE"] then some true
  else if s ∈ ["false", "False", "FALSE"] then some false
  else none

/-- The digits of a base from 2 to 16 as a number; there must be at least one. -/
def digitsIn? (base : Nat) (cs : List Char) : Option Nat :=
  if cs.isEmpty then none
  else cs.foldl
    (fun acc c =>
      match acc, hexValue? c with
      | some n, some d => if d < base then some (base * n + d) else none
      | _, _ => none)
    (some 0)

/-- Whether a text is a decimal with superfluous leading zeros. -/
def hasLeadingZero (cs : List Char) : Bool :=
  match (Decimal.splitSign cs).2 with
  | '0' :: c :: rest => (c :: rest).all Char.isDigit
  | _ => false

/-- The whole number that a text spells, of any size: an optional sign, then the mark of a base with
its digits, or decimal digits. -/
def wholeNumber? (cs : List Char) : Option Int :=
  let (negative, body) := Decimal.splitSign cs
  let magnitude :=
    match body with
    | '0' :: 'x' :: ds => digitsIn? 16 ds
    | '0' :: 'o' :: ds => digitsIn? 8 ds
    | '0' :: 'b' :: ds => digitsIn? 2 ds
    | ds => if hasLeadingZero cs then none else digitsIn? 10 ds
  magnitude.map fun n => if negative then -(n : Int) else n

/-- How a whole number fits the ranges of a document. -/
inductive WholeRange where
  /-- It is kept exactly. -/
  | exact
  /-- It belongs to a range that no value has. -/
  | refused
  /-- It is read as a double instead. -/
  | beyond

/-- Numbers of 64 bits are exact, further ones of 128 bits are refused. -/
def WholeRange.of (n : Int) : WholeRange :=
  if -(Int.pow 2 63) ≤ n ∧ n < Int.pow 2 64 then .exact
  else if -(Int.pow 2 127) ≤ n ∧ n < Int.pow 2 128 then .refused
  else .beyond

/-- The double that a text spells, if it is finite or spells an infinity or not-a-number. -/
def real? (s : String) : Option Float :=
  if s ∈ [".inf", ".Inf", ".INF", "+.inf", "+.Inf", "+.INF"] then
    some (Decimal.infiniteFloat false)
  else if s ∈ ["-.inf", "-.Inf", "-.INF"] then some (Decimal.infiniteFloat true)
  else if s ∈ [".nan", ".NaN", ".NAN"] then some Decimal.nanFloat
  else
    match Decimal.float? s with
    | some x => if x.isFinite then some x else none
    | none => none

/-- The whole number that a text must spell, `none` if it spells none. -/
def whole? (s : String) : Except Fault (Option Numeral) :=
  match wholeNumber? s.toList with
  | none => .ok none
  | some n =>
    match WholeRange.of n with
    | .exact => .ok (some (.whole n))
    | .refused => .error .badScalar
    | .beyond => .ok none

/-- Reads a plain scalar. -/
def plainAtom (s : String) : Except Fault Atom := do
  if s.isEmpty || isNull s then return .null
  match truth? s with
  | some b => return .bool b
  | none =>
    match ← whole? s with
    | some n => return .number n
    | none =>
      if hasLeadingZero s.toList then return .text s
      match real? s with
      | some x => return .number (.real x)
      | none => return .text s

/-- Reads a scalar. Quoted and block scalars are texts. The common tags for truth values, numbers
and null force their reading, further common tags make a text, and the tag of an application leaves
a plain scalar to its spelling. -/
def atom (tag : Option TagText) (s : String) (style : ScalarStyle) : Except Fault Atom :=
  match tag with
  | none => if style = .plain then plainAtom s else .ok (.text s)
  | some t =>
    if t = commonTag "bool" then
      match truth? s with
      | some b => .ok (.bool b)
      | none => .error .badScalar
    else if t = commonTag "int" then do
      match ← whole? s with
      | some n => pure (.number n)
      | none => throw .badScalar
    else if t = commonTag "float" then
      match real? s with
      | some x => .ok (.number (.real x))
      | none => .error .badScalar
    else if t = commonTag "null" then
      if isNull s then .ok .null else .error .badScalar
    else if t.head? = some bang ∧ style = .plain then plainAtom s
    else .ok (.text s)

end Restyle.Yaml
