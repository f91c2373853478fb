import Restyle.Yaml.Token.Tag

/-!
# The token stream

A document becomes a list of tokens in one pass. Two things are decided in hindsight. A node turns
out to be a key only when its colon is met, so the place of every node that could be a key is
remembered and the key token is put there later; a key ends on the line where it starts, within 1024
bytes. And a column deeper than the open blocks opens a block, a shallower one closes the deeper
blocks.
-/

namespace Restyle.Yaml

/-- A node that could still turn out to be a key. -/
structure PendingKey where
  /-- The number of tokens before it. -/
  position : Nat
  /-- Whether only a key may start at its column. -/
  required : Bool
  /-- Where it starts. -/
  place : Glyph

/-- How far a key may reach, in bytes. -/
def keyReach : Nat := 1024

/-- The state of the pass. -/
structure Lexer where
  /-- The tokens so far, in reverse. -/
  tokens : List Token
  /-- The column of the innermost open block; `-1` outside of all. -/
  indent : Int
  /-- The columns of the blocks around it, innermost first. -/
  outer : List Int
  /-- Whether a key may start here. -/
  keyAllowed : Bool
  /-- The node that could be a key at the current flow level. -/
  pending : Option PendingKey
  /-- The same for the flow collections around, innermost first. Their number is the flow level. -/
  flow : List (Option PendingKey)

namespace Lexer

/-- The state before the first token. -/
def start : Lexer := ⟨[], -1, [], true, none, []⟩

/-- Whether a flow collection is open. -/
def inFlow (l : Lexer) : Bool := !l.flow.isEmpty

/-- Appends a token. -/
def push (t : Token) (l : Lexer) : Lexer := { l with tokens := t :: l.tokens }

/-- Puts a token in front of all but the first `position` tokens. -/
def insertAt (position : Nat) (t : Token) (l : Lexer) : Lexer :=
  let later := l.tokens.length - position
  { l with tokens := l.tokens.take later ++ t :: l.tokens.drop later }

/-- Gives up the pending key of a level; a required key must not be given up. -/
def settle : Option PendingKey → Except Fault (Option PendingKey)
  | none => .ok none
  | some k => if k.required then .error .missingColon else .ok none

/-- Gives up the pending key of the current level. -/
def dropKey (l : Lexer) : Except Fault Lexer := do
  let pending ← settle l.pending
  pure { l with pending }

/-- Gives up a key that has ended without its colon before the glyph `g`. -/
def expire (g : Glyph) : Option PendingKey → Except Fault (Option PendingKey)
  | none => .ok none
  | some k =>
    if k.place.line < g.line || k.place.index + keyReach < g.index then settle (some k)
    else .ok (some k)

/-- Gives up the keys of all levels that have ended before the glyph `g`. -/
def expireKeys (g : Glyph) (l : Lexer) : Except Fault Lexer := do
  let flow ← l.flow.mapM (expire g)
  let pending ← expire g l.pending
  pure { l with pending, flow }

/-- Remembers that the node at `g` could be a key, if one may start there. -/
def saveKey (g : Glyph) (l : Lexer) : Except Fault Lexer :=
  if l.keyAllowed then do
    let l ← l.dropKey
    let required := !l.inFlow && decide (l.indent = g.column)
    pure { l with pending := some ⟨l.tokens.length, required, g⟩ }
  else .ok l

/-- Opens a block at `column` with the given token, if that is deeper than the open blocks. The
token goes in front of all but the first `position` tokens. -/
def openBlock (column : Nat) (position : Nat) (t : Token) (l : Lexer) : Lexer :=
  if l.inFlow then l
  else if l.indent < column then
    { l.insertAt position t with indent := column, outer := l.indent :: l.outer }
  else l

/-- Closes the blocks deeper than `column`. -/
def closeBlocks (column : Int) (l : Lexer) : Lexer :=
  if l.inFlow then l
  else
    let rec go (tokens : List Token) (indent : Int) : List Int → List Token × Int × List Int
      | [] => (tokens, indent, [])
      | parent :: rest =>
        if column < indent then go (.blockEnd :: tokens) parent rest
        else (tokens, indent, parent :: rest)
    let (tokens, indent, outer) := go l.tokens l.indent l.outer
    { l with tokens, indent, outer }

/-- Drops blanks, comments and line breaks up to the next token. A tab counts as a blank where no
key may start; a byte order mark may stand at the start of a line. `comment` tells whether a comment
is being dropped. -/
def toNextToken (inFlow : Bool) : Bool → Bool → List Glyph → Bool × List Glyph
  | _, keyAllowed, [] => (keyAllowed, [])
  | comment, keyAllowed, g :: rest =>
    if isBreak g.char then toNextToken inFlow false (keyAllowed || !inFlow) rest
    else if g.char == endMark then (keyAllowed, g :: rest)
    else if comment then toNextToken inFlow true keyAllowed rest
    else if g.char == '#' then toNextToken inFlow true keyAllowed rest
    else if g.char == ' ' || (g.char == '\t' && (inFlow || !keyAllowed)) then
      toNextToken inFlow false keyAllowed rest
    else if g.char == '\ufeff' && g.column == 0 then toNextToken inFlow false keyAllowed rest
    else (keyAllowed, g :: rest)

/-- Ends all blocks and the pending key before a line that belongs to no block. -/
def leaveBlocks (l : Lexer) : Except Fault Lexer := do
  let l ← (l.closeBlocks (-1)).dropKey
  pure { l with keyAllowed := false }

/-- The dash before an entry of an indented sequence. -/
def blockEntry (g : Glyph) (l : Lexer) : Except Fault Lexer := do
  if !l.inFlow && !l.keyAllowed then throw .misplacedIndicator
  let l ← (l.openBlock g.column l.tokens.length .blockSequenceStart).dropKey
  pure { l.push .blockEntry with keyAllowed := true }

/-- The question mark before a key. -/
def explicitKey (g : Glyph) (l : Lexer) : Except Fault Lexer := do
  if !l.inFlow && !l.keyAllowed then throw .misplacedIndicator
  let l ← (l.openBlock g.column l.tokens.length .blockMappingStart).dropKey
  pure { l.push .key with keyAllowed := !l.inFlow }

/-- The colon before a value: the pending key becomes a key, and a mapping opens at its column. -/
def valueIndicator (g : Glyph) (l : Lexer) : Except Fault Lexer :=
  match l.pending with
  | some k =>
    let l := { (l.insertAt k.position .key) with pending := none, keyAllowed := false }
    .ok ((l.openBlock k.place.column k.position .blockMappingStart).push .value)
  | none => do
    if !l.inFlow && !l.keyAllowed then throw .misplacedIndicator
    let l := l.openBlock g.column l.tokens.length .blockMappingStart
    pure { l.push .value with keyAllowed := !l.inFlow }

/-- The opening of a flow collection. -/
def openFlow (g : Glyph) (t : Token) (l : Lexer) : Except Fault Lexer := do
  let l ← l.saveKey g
  pure { l.push t with flow := l.pending :: l.flow, pending := none, keyAllowed := true }

/-- The closing of a flow collection. -/
def closeFlow (t : Token) (l : Lexer) : Except Fault Lexer := do
  let l ← l.dropKey
  let (pending, flow) := match l.flow with
    | outer :: rest => (outer, rest)
    | [] => (none, [])
  pure { l.push t with pending, flow, keyAllowed := false }

/-- Whether a plain scalar may start here. -/
def startsPlain (inFlow : Bool) (gs : List Glyph) : Bool :=
  let c := peek 0 gs
  let next := peek 1 gs
  let indicators := ['-', '?', ':', ',', '[', ']', '\x7b', '\x7d', '#', '&', '*', '!', '|', '>',
    '\'', '"', '%', '@', '`']
  !(isGap c || c ∈ indicators) || (c == '-' && !isSpace next) ||
    (!inFlow && (c == '?' || c == ':') && !isGap next)

/-- Reads the token at the head of the text. -/
def token (g : Glyph) (rest : List Glyph) (l : Lexer) : Except Fault (Lexer × List Glyph) := do
  let c := g.char
  let gs := g :: rest
  let after := isGap (peek 0 rest)
  if g.column == 0 && c == '%' then
    let l ← l.leaveBlocks
    let (t, gs) ← directiveToken rest
    pure (l.push t, gs)
  else if isMarker '-' gs then
    let l ← l.leaveBlocks
    pure (l.push .documentStart, gs.drop 3)
  else if isMarker '.' gs then
    let l ← l.leaveBlocks
    pure (l.push .documentEnd, gs.drop 3)
  else if c == '[' then pure (← l.openFlow g .flowSequenceStart, rest)
  else if c == '\x7b' then pure (← l.openFlow g .flowMappingStart, rest)
  else if c == ']' then pure (← l.closeFlow .flowSequenceEnd, rest)
  else if c == '\x7d' then pure (← l.closeFlow .flowMappingEnd, rest)
  else if c == ',' then
    let l ← l.dropKey
    pure ({ l.push .flowEntry with keyAllowed := true }, rest)
  else if c == '-' && after then pure (← l.blockEntry g, rest)
  else if c == '?' && (l.inFlow || after) then pure (← l.explicitKey g, rest)
  else if c == ':' && (l.inFlow || after) then pure (← l.valueIndicator g, rest)
  else if c == '*' || c == '&' then
    let l ← l.saveKey g
    let (name, gs) ← anchorName rest
    pure ({ l.push (if c == '*' then .alias name else .anchor name) with keyAllowed := false }, gs)
  else if c == '!' then
    let l ← l.saveKey g
    let (t, gs) ← tagToken l.inFlow gs
    pure ({ l.push t with keyAllowed := false }, gs)
  else if (c == '|' || c == '>') && !l.inFlow then
    let l ← l.dropKey
    let (text, gs) ← blockScalar (c == '|') l.indent rest
    let style := if c == '|' then ScalarStyle.literal else .folded
    pure ({ l.push (.scalar text style) with keyAllowed := true }, gs)
  else if c == '\'' || c == '"' then
    let l ← l.saveKey g
    let (text, gs) ← quotedFrom (c == '"') none [] .none rest
    let style := if c == '"' then ScalarStyle.doubleQuoted else .singleQuoted
    let t := Token.scalar (String.ofList text.reverse) style
    pure ({ l.push t with keyAllowed := false }, gs)
  else if startsPlain l.inFlow gs then
    let l ← l.saveKey g
    let (text, gap, gs) ← plainFrom l.inFlow (l.indent + 1) true [] .none gs
    let t := Token.scalar (String.ofList text.reverse) .plain
    pure ({ l.push t with keyAllowed := gap.isFolded }, gs)
  else throw .strayCharacter

/-- Reads tokens up to the end of the text. Each token takes at least one glyph, so `fuel` may be
the number of glyphs. -/
def run : Nat → Lexer → List Glyph → Except Fault (List Token)
  | 0, _, _ => .error .strayCharacter
  | fuel + 1, l, gs => do
    let (keyAllowed, gs) := toNextToken l.inFlow false l.keyAllowed gs
    let l := { l with keyAllowed }
    match gs with
    | [] => .error .strayCharacter
    | g :: rest =>
      let l ← l.expireKeys g
      let l := l.closeBlocks g.column
      if g.char == endMark then
        let l ← l.leaveBlocks
        pure (l.push .streamEnd).tokens.reverse
      else
        let (l, gs) ← l.token g rest
        run fuel l gs

end Lexer

/-- The tokens of a text. -/
def tokens (s : String) : Except Fault (List Token) := do
  let gs ← source s
  Lexer.run (gs.length + 1) .start gs

end Restyle.Yaml
