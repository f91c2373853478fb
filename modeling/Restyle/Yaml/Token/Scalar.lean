import Restyle.Yaml.Token.Basic

/-!
# Scalar lexemes

Plain, quoted and block scalars. In the first two a run of line breaks is folded: a single break
becomes a space, further ones are kept; blanks beside breaks are dropped. In a block scalar the
common indentation is dropped, lines are kept or joined, and the header says what becomes of the
breaks at the end.

Each reader goes through the located text once and gives back the text of the scalar and what
follows. Texts under construction are kept in reverse.
-/

namespace Restyle.Yaml

/-- What stands between two words of a plain or quoted scalar. -/
inductive Gap where
  /-- Blanks on one line, in reverse. -/
  | inline (blanks : List Char)
  /-- Line breaks: the first one, unless it was escaped, and the further ones in reverse. -/
  | folded (first : Option Char) (more : List Char)

/-- No gap. -/
def Gap.none : Gap := .inline []

/-- Whether a gap holds a line break. -/
def Gap.isFolded : Gap → Bool
  | .inline _ => false
  | .folded _ _ => true

/-- Whether there is a gap at all. -/
def Gap.isOpen : Gap → Bool
  | .inline [] => false
  | _ => true

/-- Adds a blank to a gap; beside line breaks it is dropped. -/
def Gap.addBlank (c : Char) : Gap → Gap
  | .inline blanks => .inline (c :: blanks)
  | .folded first more => .folded first more

/-- Adds a line break to a gap; it takes the place of blanks. -/
def Gap.addBreak (c : Char) : Gap → Gap
  | .inline _ => .folded (some c) []
  | .folded first more => .folded first (c :: more)

/-- What a gap contributes to the text, in reverse: a first line feed is folded. -/
def Gap.contribution : Gap → List Char
  | .inline blanks => blanks
  | .folded (some '\n') [] => [' ']
  | .folded (some '\n') more => more
  | .folded (some c) more => more ++ [c]
  | .folded .none more => more

/-- The characters that end a plain scalar inside a flow collection. -/
def isFlowIndicator (c : Char) : Bool :=
  c == ',' || c == '[' || c == ']' || c == '\x7b' || c == '\x7d'

/-- Reads a plain scalar: `flow` tells whether a flow collection encloses it, `indent` is the least
column of its further lines. Gives the text in reverse, the gap that ended it and what follows. At
the `start` of the scalar and after every gap, a comment or a document marker ends it. -/
def plainFrom (flow : Bool) (indent : Int) :
    Bool → List Char → Gap → List Glyph → Except Fault (List Char × Gap × List Glyph)
  | _, acc, gap, [] => .ok (acc, gap, [])
  | start, acc, gap, g :: rest =>
    let c := g.char
    if start && (isDocumentMarker (g :: rest) || c == '#') then .ok (acc, gap, g :: rest)
    else if isSpace c then
      if gap.isFolded && decide ((g.column : Int) < indent) && c == '\t' then .error .tabIndentation
      else plainFrom flow indent true acc (gap.addBlank c) rest
    else if isBreak c then plainFrom flow indent true acc (gap.addBreak c) rest
    else if c == endMark then .ok (acc, gap, g :: rest)
    else if gap.isOpen && !flow && decide ((g.column : Int) < indent) then .ok (acc, gap, g :: rest)
    else if flow && c == ':' && (isFlowIndicator (peek 0 rest) || peek 0 rest == '?') then
      .error .strayCharacter
    else if (c == ':' && isGap (peek 0 rest)) || (flow && isFlowIndicator c) then
      .ok (acc, gap, g :: rest)
    else plainFrom flow indent false (c :: (gap.contribution ++ acc)) .none rest

/-- The value of a hexadecimal digit. -/
def hexValue? (c : Char) : Option Nat :=
  if c.isDigit then some (c.toNat - '0'.toNat)
  else if 'a' ≤ c ∧ c ≤ 'f' then some (c.toNat - 'a'.toNat + 10)
  else if 'A' ≤ c ∧ c ≤ 'F' then some (c.toNat - 'A'.toNat + 10)
  else none

/-- The character that a one-letter escape stands for. -/
def escape? (c : Char) : Option Char :=
  match c with
  | '0' => some '\x00'
  | 'a' => some '\x07'
  | 'b' => some '\x08'
  | 't' => some '\t'
  | '\t' => some '\t'
  | 'n' => some '\n'
  | 'v' => some '\x0b'
  | 'f' => some '\x0c'
  | 'r' => some '\r'
  | 'e' => some '\x1b'
  | ' ' => some ' '
  | '"' => some '"'
  | '/' => some '/'
  | '\\' => some '\\'
  | 'N' => some '\u0085'
  | '_' => some '\u00a0'
  | 'L' => some '\u2028'
  | 'P' => some '\u2029'
  | _ => none

/-- The number of hexadecimal digits after an escape by code point. -/
def escapeWidth? (c : Char) : Option Nat :=
  match c with
  | 'x' => some 2
  | 'u' => some 4
  | 'U' => some 8
  | _ => none

/-- The character with a given code point. -/
def charOfCode? (n : Nat) : Option Char :=
  if h : n.isValidChar then some (Char.ofNatAux n h) else none

/-- Reads a quoted scalar after its opening quote. `hex` holds the count of digits still to come and
the value so far while an escape by code point is read. -/
def quotedFrom (double : Bool) :
    Option (Nat × Nat) → List Char → Gap → List Glyph → Except Fault (List Char × List Glyph)
  | _, _, _, [] => .error .badQuoted
  | some (left, value), acc, gap, g :: rest =>
    match hexValue? g.char with
    | none => .error .badQuoted
    | some d =>
      let value := 16 * value + d
      match left with
      | left + 2 => quotedFrom double (some (left + 1, value)) acc gap rest
      | _ =>
        match charOfCode? value with
        | some c => quotedFrom double none (c :: acc) gap rest
        | none => .error .badQuoted
  | none, acc, gap, g :: rest =>
    let c := g.char
    if c == endMark || isDocumentMarker (g :: rest) then .error .badQuoted
    else if isSpace c then quotedFrom double none acc (gap.addBlank c) rest
    else if isBreak c then quotedFrom double none acc (gap.addBreak c) rest
    else
      let acc := gap.contribution ++ acc
      if !double then
        if c != '\'' then quotedFrom double none (c :: acc) .none rest
        else
          match rest with
          | h :: more =>
            if h.char == '\'' then quotedFrom double none ('\'' :: acc) .none more
            else .ok (acc, h :: more)
          | [] => .ok (acc, [])
      else if c == '"' then .ok (acc, rest)
      else if c == '\\' then
        match rest with
        | h :: more =>
          if isBreak h.char then quotedFrom double none acc (.folded .none []) more
          else
            match escape? h.char, escapeWidth? h.char with
            | some e, _ => quotedFrom double none (e :: acc) .none more
            | none, some width => quotedFrom double (some (width, 0)) acc .none more
            | none, none => .error .badQuoted
        | [] => .error .badQuoted
      else quotedFrom double none (c :: acc) .none rest

/-- What becomes of the line breaks at the end of a block scalar. -/
inductive Chomping where
  /-- All are dropped. -/
  | strip
  /-- One is kept. -/
  | clip
  /-- All are kept. -/
  | keep
deriving DecidableEq

/-- The header of a block scalar: its chomping and its indentation, if it is given. -/
structure BlockHeader where
  /-- The treatment of the last breaks. -/
  chomping : Chomping
  /-- The indentation relative to the enclosing block. -/
  increment : Option Nat

/-- The chomping that a sign asks for. -/
def chomping? (c : Char) : Option Chomping :=
  if c == '+' then some .keep else if c == '-' then some .strip else none

/-- The indentation that a digit asks for. Zero is no indentation. -/
def increment? (c : Char) : Except Fault (Option Nat) :=
  if c == '0' then .error .badBlockHeader
  else if c.isDigit then .ok (some (c.toNat - '0'.toNat))
  else .ok none

/-- Reads the header of a block scalar after its indicator, up to the end of the line. The sign and
the digit may come in either order. -/
def blockHeader (gs : List Glyph) : Except Fault (BlockHeader × List Glyph) := do
  let (header, gs) ←
    match chomping? (peek 0 gs) with
    | some chomping =>
      match ← increment? (peek 1 gs) with
      | some n => pure (BlockHeader.mk chomping (some n), gs.drop 2)
      | none => pure (BlockHeader.mk chomping none, gs.drop 1)
    | none =>
      match ← increment? (peek 0 gs) with
      | some n =>
        match chomping? (peek 1 gs) with
        | some chomping => pure (BlockHeader.mk chomping (some n), gs.drop 2)
        | none => pure (BlockHeader.mk .clip (some n), gs.drop 1)
      | none => pure (BlockHeader.mk .clip none, gs)
  let gs ← skipToLineEnd .badBlockHeader gs
  pure (header, gs)

/-- Reads the blank lines at the start of a block scalar. With `indent` zero the indentation is
still to be found: it is the greatest column reached before the first text, and at least `least`.
Gives the indentation, the breaks in reverse and what follows. -/
def blockStart (indent least : Nat) :
    Nat → List Char → List Glyph → Except Fault (Nat × List Char × List Glyph)
  | deepest, breaks, [] => .ok (if indent = 0 then max deepest least else indent, breaks, [])
  | deepest, breaks, g :: rest =>
    let within := indent == 0 || decide (g.column < indent)
    if within && g.char == ' ' then blockStart indent least deepest breaks rest
    else
      let deepest := max deepest g.column
      if within && g.char == '\t' then .error .tabIndentation
      else if isBreak g.char then blockStart indent least deepest (g.char :: breaks) rest
      else .ok (if indent = 0 then max deepest least else indent, breaks, g :: rest)

/-- The text of a block scalar under construction. -/
structure BlockText where
  /-- The text so far, in reverse. -/
  text : List Char
  /-- The break after the last line. -/
  lineBreak : Option Char
  /-- The breaks of the blank lines since, in reverse. -/
  blankLines : List Char
  /-- Whether the last line started with a blank. -/
  leadingBlank : Bool

/-- The text up to the start of a new line whose first character is `c`. Two lines of a folded
scalar are joined by a space, unless one of them starts with a blank or blank lines stand between
them. -/
def BlockText.beginLine (literal : Bool) (c : Char) (b : BlockText) : BlockText :=
  let text :=
    if !literal && b.lineBreak == some '\n' && !b.leadingBlank && !isSpace c then
      if b.blankLines.isEmpty then ' ' :: b.text else b.text
    else b.lineBreak.toList ++ b.text
  ⟨b.blankLines ++ text, none, [], isSpace c⟩

/-- The text with its last breaks treated as the header asks. -/
def BlockText.finish (chomping : Chomping) (b : BlockText) : List Char :=
  match chomping with
  | .strip => b.text
  | .clip => b.lineBreak.toList ++ b.text
  | .keep => b.blankLines ++ b.lineBreak.toList ++ b.text

/-- Reads the lines of a block scalar. `inLine` tells whether the text of a line is being read. -/
def blockFrom (literal : Bool) (indent : Nat) :
    Bool → BlockText → List Glyph → Except Fault (BlockText × List Glyph)
  | _, b, [] => .ok (b, [])
  | true, b, g :: rest =>
    if isBreak g.char then blockFrom literal indent false { b with lineBreak := some g.char } rest
    else if g.char == endMark then .ok (b, g :: rest)
    else blockFrom literal indent true { b with text := g.char :: b.text } rest
  | false, b, g :: rest =>
    if g.column < indent && g.char == ' ' then blockFrom literal indent false b rest
    else if g.column < indent && g.char == '\t' then .error .tabIndentation
    else if isBreak g.char then
      blockFrom literal indent false { b with blankLines := g.char :: b.blankLines } rest
    else if g.column == indent && g.char != endMark then
      let b := b.beginLine literal g.char
      blockFrom literal indent true { b with text := g.char :: b.text } rest
    else .ok (b, g :: rest)

/-- Reads a block scalar after its indicator, inside a block indented by `parent`. -/
def blockScalar (literal : Bool) (parent : Int) (gs : List Glyph) :
    Except Fault (String × List Glyph) := do
  let (header, gs) ← blockHeader gs
  let outer := if 0 ≤ parent then parent.toNat else 0
  let indent := match header.increment with
    | some n => outer + n
    | none => 0
  let least := max 1 (parent + 1).toNat
  let (indent, breaks, gs) ← blockStart indent least 0 [] gs
  let (b, gs) ← blockFrom literal indent false ⟨[], none, breaks, false⟩ gs
  pure (String.ofList (b.finish header.chomping).reverse, gs)

end Restyle.Yaml
