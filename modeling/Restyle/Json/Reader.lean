import Restyle.Decimal.Numeral
import Restyle.Json.Basic

/-!
# Reading JSON

A strict reader: white space is the four blanks of the format, numbers have no superfluous zeros,
every escape is complete, surrogates come in pairs, and containers nest at most 127 deep. Nothing
may follow the value.

A number without point and exponent is whole if it fits 64 bits. Any other number is a double, and
it is made in steps: the digits that fit 64 bits give a significand, which is multiplied or divided
by a power of ten, and each step rounds. A product that is not finite is no number.
-/

namespace Restyle.Json

/-- Why a text is not a JSON value. -/
inductive Fault where
  /-- The text ends before the value does. -/
  | unfinished
  /-- A character stands where it may not. -/
  | unexpected (c : Char)
  /-- A malformed number, or one beyond the doubles. -/
  | badNumber
  /-- A malformed string. -/
  | badString
  /-- Containers nested too deeply. -/
  | tooDeep
deriving Repr, DecidableEq

/-- How deep containers may nest. -/
def nestingLimit : Nat := 127

/-- Whether a character may stand between tokens. -/
def isSpace (c : Char) : Bool := c == ' ' || c == '\n' || c == '\t' || c == '\r'

/-- Drops white space. -/
def skipSpace (cs : List Char) : List Char := cs.dropWhile isSpace

/-- The bound of a significand. -/
def significandBound : Nat := Nat.pow 2 64

/-- Collects digits while the number they spell stays below the bound. Gives the number, the count
of digits taken and what follows. -/
def significandFrom : Nat → Nat → List Char → Nat × Nat × List Char
  | n, taken, c :: cs =>
    if c.isDigit then
      let next := 10 * n + Decimal.digitValue c
      if next < significandBound then significandFrom next (taken + 1) cs else (n, taken, c :: cs)
    else (n, taken, c :: cs)
  | n, taken, [] => (n, taken, [])

/-- The double nearest to a power of ten up to `10 ^ 308`. -/
def powerOfTen (n : Nat) : Float := Decimal.ofFraction false (Nat.pow 10 n) 1

/-- The greatest exponent with a power of ten among the doubles. -/
def greatestPower : Nat := 308

/-- Divides by `10 ^ exponent`, in steps of the greatest power. -/
def divideByPower (x : Float) (exponent : Nat) : Float :=
  if exponent ≤ greatestPower then x / powerOfTen exponent
  else
    let x := x / powerOfTen greatestPower
    if exponent - greatestPower ≤ greatestPower then x / powerOfTen (exponent - greatestPower)
    else Decimal.ofInt 0

/-- Scales a significand by a power of ten. -/
def scaled (significand : Nat) (exponent : Int) : Except Fault Float :=
  let x := Decimal.ofInt significand
  if significand = 0 then .ok x
  else if exponent < 0 then .ok (divideByPower x (-exponent).toNat)
  else if exponent.toNat ≤ greatestPower then
    let y := x * powerOfTen exponent.toNat
    if y.isFinite then .ok y else .error .badNumber
  else .error .badNumber

/-- Reads the exponent after its letter: an optional sign and at least one digit. -/
def exponentPart (cs : List Char) : Except Fault (Int × List Char) :=
  let (negative, cs) := Decimal.splitSign cs
  let digits := cs.takeWhile Char.isDigit
  if digits.isEmpty then .error .badNumber
  else
    let n : Int := Decimal.digitsValue digits
    .ok (if negative then -n else n, cs.dropWhile Char.isDigit)

/-- Reads the digits after the point, at least one: the significand they lead to, and how many of
them it has taken. Digits that it has no room for are dropped. -/
def fractionPart (significand : Nat) (cs : List Char) : Except Fault (Nat × Nat × List Char) :=
  match cs with
  | c :: _ =>
    if c.isDigit then
      let (n, taken, rest) := significandFrom significand 0 cs
      .ok (n, taken, rest.dropWhile Char.isDigit)
    else .error .badNumber
  | [] => .error .unfinished

/-- Reads a number after its sign. -/
def unsignedNumber (negative : Bool) (cs : List Char) : Except Fault (Numeral × List Char) := do
  let sign (x : Float) : Numeral := .real (if negative then -x else x)
  let (n, dropped, rest) ←
    match cs with
    | '0' :: rest =>
      match rest with
      | c :: _ => if c.isDigit then throw .badNumber else pure (0, 0, rest)
      | [] => pure (0, 0, rest)
    | c :: _ =>
      if !c.isDigit then throw .badNumber
      let (n, _, rest) := significandFrom 0 0 cs
      let extra := rest.takeWhile Char.isDigit
      pure (n, extra.length, rest.dropWhile Char.isDigit)
    | [] => throw .unfinished
  let (m, places, rest, pointed) ←
    match rest with
    | '.' :: more => do
      let (m, places, rest) ← fractionPart n more
      pure (m, places, rest, true)
    | _ => pure (n, 0, rest, false)
  let power : Int := (dropped : Int) - (places : Int)
  match rest with
  | 'e' :: more | 'E' :: more => do
    let (e, rest) ← exponentPart more
    let x ← scaled m (power + e)
    pure (sign x, rest)
  | _ =>
    if pointed || 0 < dropped then
      let x ← scaled m power
      pure (sign x, rest)
    else if !negative then pure (.whole m, rest)
    else if 0 < m ∧ m ≤ Nat.pow 2 63 then pure (.whole (-(m : Int)), rest)
    else pure (sign (Decimal.ofInt m), rest)

/-- The value of a hexadecimal digit. -/
def hexValue? (c : Char) : Option Nat :=
  if c.isDigit then some (c.toNat - '0'.toNat)
  else if 'a' ≤ c ∧ c ≤ 'f' then some (c.toNat - 'a'.toNat + 10)
  else if 'A' ≤ c ∧ c ≤ 'F' then some (c.toNat - 'A'.toNat + 10)
  else none

/-- The number that four hexadecimal digits spell. -/
def hexFour? (a b c d : Char) : Option Nat := do
  let a ← hexValue? a
  let b ← hexValue? b
  let c ← hexValue? c
  let d ← hexValue? d
  some (((16 * a + b) * 16 + c) * 16 + d)

/-- The character that a one-letter escape stands for. -/
def escape? (c : Char) : Option Char :=
  match c with
  | '"' => some '"'
  | '\\' => some '\\'
  | '/' => some '/'
  | 'b' => some '\x08'
  | 'f' => some '\x0c'
  | 'n' => some '\n'
  | 'r' => some '\r'
  | 't' => some '\t'
  | _ => none

/-- Reads a string after its opening quote. `high` is the first half of a surrogate pair whose
second half must come next. -/
def stringFrom : Option Nat → List Char → List Char → Except Fault (String × List Char)
  | high, acc, '\\' :: 'u' :: a :: b :: c :: d :: rest =>
    match hexFour? a b c d, high with
    | none, _ => .error .badString
    | some n, none =>
      if 0xD800 ≤ n ∧ n < 0xDC00 then stringFrom (some n) acc rest
      else if 0xDC00 ≤ n ∧ n < 0xE000 then .error .badString
      else stringFrom none (Char.ofNat n :: acc) rest
    | some n, some h =>
      if 0xDC00 ≤ n ∧ n < 0xE000 then
        stringFrom none (Char.ofNat (0x10000 + (h - 0xD800) * 0x400 + (n - 0xDC00)) :: acc) rest
      else .error .badString
  | some _, _, _ => .error .badString
  | none, acc, '"' :: rest => .ok (String.ofList acc.reverse, rest)
  | none, acc, '\\' :: e :: rest =>
    match escape? e with
    | some c => stringFrom none (c :: acc) rest
    | none => .error .badString
  | none, _, ['\\'] => .error .unfinished
  | none, acc, c :: rest =>
    if c.toNat < 0x20 then .error .badString else stringFrom none (c :: acc) rest
  | none, _, [] => .error .unfinished

/-- Reads a given word. -/
def word (w : String) (v : Json) (cs : List Char) : Except Fault (Json × List Char) :=
  match w.toList.isPrefixOf? cs with
  | some rest => .ok (v, rest)
  | none => .error (cs.head?.elim .unfinished .unexpected)

mutual

/-- Reads one value. Every call passes on less fuel, and none passes it on without taking a
character first, so the length of the text is enough. -/
def valueFrom : Nat → Nat → List Char → Except Fault (Json × List Char)
  | 0, _, _ => .error .unfinished
  | fuel + 1, depth, cs =>
    match skipSpace cs with
    | [] => .error .unfinished
    | '\x7b' :: rest =>
      match depth with
      | 0 => .error .tooDeep
      | depth + 1 =>
        match skipSpace rest with
        | '\x7d' :: rest => .ok (.object [], rest)
        | rest => membersFrom fuel depth [] rest
    | '[' :: rest =>
      match depth with
      | 0 => .error .tooDeep
      | depth + 1 =>
        match skipSpace rest with
        | ']' :: rest => .ok (.array [], rest)
        | rest => itemsFrom fuel depth [] rest
    | '"' :: rest => do
      let (s, rest) ← stringFrom none [] rest
      pure (.string s, rest)
    | 'n' :: rest => word "null" .null ('n' :: rest)
    | 't' :: rest => word "true" (.bool true) ('t' :: rest)
    | 'f' :: rest => word "false" (.bool false) ('f' :: rest)
    | '-' :: rest => do
      let (n, rest) ← unsignedNumber true rest
      pure (.number n, rest)
    | c :: rest =>
      if c.isDigit then do
        let (n, rest) ← unsignedNumber false (c :: rest)
        pure (.number n, rest)
      else .error (.unexpected c)

/-- Reads the items of an array, from the first one on. -/
def itemsFrom : Nat → Nat → List Json → List Char → Except Fault (Json × List Char)
  | 0, _, _, _ => .error .unfinished
  | fuel + 1, depth, acc, cs => do
    let (v, rest) ← valueFrom fuel depth cs
    match skipSpace rest with
    | ',' :: rest => itemsFrom fuel depth (v :: acc) rest
    | ']' :: rest => pure (.array (v :: acc).reverse, rest)
    | c :: _ => throw (.unexpected c)
    | [] => throw .unfinished

/-- Reads the members of an object, from the first one on. -/
def membersFrom : Nat → Nat → List (String × Json) → List Char → Except Fault (Json × List Char)
  | 0, _, _, _ => .error .unfinished
  | fuel + 1, depth, acc, cs => do
    match skipSpace cs with
    | '"' :: rest =>
      let (name, rest) ← stringFrom none [] rest
      match skipSpace rest with
      | ':' :: rest =>
        let (v, rest) ← valueFrom fuel depth rest
        match skipSpace rest with
        | ',' :: rest => membersFrom fuel depth ((name, v) :: acc) rest
        | '\x7d' :: rest => pure (.object ((name, v) :: acc).reverse, rest)
        | c :: _ => throw (.unexpected c)
        | [] => throw .unfinished
      | c :: _ => throw (.unexpected c)
      | [] => throw .unfinished
    | c :: _ => throw (.unexpected c)
    | [] => throw .unfinished

end

/-- Reads the value of a text, with repeated names left as they are. -/
def read (s : String) : Except Fault Json := do
  let cs := s.toList
  let (v, rest) ← valueFrom (2 * cs.length + 2) nestingLimit cs
  match skipSpace rest with
  | [] => pure v
  | c :: _ => throw (.unexpected c)

end Restyle.Json
