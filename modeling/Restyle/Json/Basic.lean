import Restyle.Numeral
import Restyle.OrderedMap

/-!
# JSON values

A JSON value as it was written: the members of an object stand in document order, repeated names
included. `merged` gives the value that an object with repeated names stands for, in which a name
keeps its first place and takes its last value. The compact text of a value has no white space.
-/

namespace Restyle

/-- A JSON value. -/
inductive Json where
  /-- The null value. -/
  | null
  /-- A truth value. -/
  | bool (b : Bool)
  /-- A number. -/
  | number (n : Numeral)
  /-- A string. -/
  | string (s : String)
  /-- An array. -/
  | array (items : List Json)
  /-- An object with its members in document order. -/
  | object (members : List (String × Json))

namespace Json

instance : Inhabited Json := ⟨.null⟩

mutual

/-- The value with repeated names merged, at every depth. -/
def merged : Json → Json
  | .array items => .array (mergedItems items)
  | .object members => .object (OrderedMap.ofList (mergedMembers members)).entries
  | v => v

/-- The items of an array with repeated names merged. -/
def mergedItems : List Json → List Json
  | [] => []
  | v :: rest => v.merged :: mergedItems rest

/-- The members of an object with repeated names merged below them. -/
def mergedMembers : List (String × Json) → List (String × Json)
  | [] => []
  | (name, v) :: rest => (name, v.merged) :: mergedMembers rest

end

/-- The two hexadecimal digits of a small code point. -/
def hexPair (n : Nat) : List Char := [Nat.digitChar (n / 16), Nat.digitChar (n % 16)]

/-- The spelling of a character inside a string: the quote, the backslash and the control characters
are escaped, those with a letter of their own by that letter. -/
def stringChar (c : Char) : List Char :=
  if c = '"' then ['\\', '"']
  else if c = '\\' then ['\\', '\\']
  else if c = '\x08' then ['\\', 'b']
  else if c = '\x0c' then ['\\', 'f']
  else if c = '\n' then ['\\', 'n']
  else if c = '\r' then ['\\', 'r']
  else if c = '\t' then ['\\', 't']
  else if c.toNat < 0x20 then '\\' :: 'u' :: '0' :: '0' :: hexPair c.toNat
  else [c]

/-- A string between quotes. -/
def stringText (s : String) : String :=
  String.ofList ('"' :: s.toList.flatMap stringChar ++ ['"'])

/-- Doubles below `10 ^ 16`, and from `10 ^ -5` on, have the point in place; others have an exponent
with its sign. -/
def marking : Decimal.Marking := ⟨16, 4, true⟩

mutual

/-- The compact text of a value. -/
def text : Json → String
  | .null => "null"
  | .bool b => if b then "true" else "false"
  | .number n => n.text marking
  | .string s => stringText s
  | .array items => "[" ++ ",".intercalate (itemTexts items) ++ "]"
  | .object members => "\x7b" ++ ",".intercalate (memberTexts members) ++ "\x7d"

/-- The compact texts of the items of an array. -/
def itemTexts : List Json → List String
  | [] => []
  | v :: rest => v.text :: itemTexts rest

/-- The compact texts of the members of an object. -/
def memberTexts : List (String × Json) → List String
  | [] => []
  | (name, v) :: rest => (stringText name ++ ":" ++ v.text) :: memberTexts rest

end

end Json

end Restyle
