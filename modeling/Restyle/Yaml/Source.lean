/-!
# Located source text

The characters of a document, each with the place where it stands. Line breaks are unified on the
way: carriage return with line feed, carriage return alone and next line all become a line feed,
while the line and paragraph separators, which are breaks too, stay what they are. The text ends
with a mark, so a reader can always look at the next glyph.
-/

namespace Restyle.Yaml

/-- Why a text is not a document. -/
inductive Fault where
  /-- A character that may not occur in a document. -/
  | forbiddenCharacter
  /-- No token starts here. -/
  | strayCharacter
  /-- An entry, a key or a value stands where none may start. -/
  | misplacedIndicator
  /-- A key without its colon. -/
  | missingColon
  /-- A tab stands where indentation is expected. -/
  | tabIndentation
  /-- A quoted scalar that is cut off, or holds an unknown escape. -/
  | badQuoted
  /-- A malformed header of a block scalar. -/
  | badBlockHeader
  /-- A malformed directive. -/
  | badDirective
  /-- A malformed anchor, alias or tag. -/
  | badProperty
  /-- Tokens in an order that no document has. -/
  | badStructure
  /-- More than one document in a text. -/
  | severalDocuments
  /-- An alias without its anchor. -/
  | unknownAnchor
  /-- Containers nested too deeply. -/
  | tooDeep
  /-- Aliases followed too often. -/
  | tooRepetitive
  /-- A scalar that does not fit its tag, or a number beyond all ranges. -/
  | badScalar
  /-- A key that occurs twice in a mapping. -/
  | repeatedKey
deriving Repr, DecidableEq

/-- A character with its place: the count of bytes before it, its line and its column. -/
structure Glyph where
  /-- The character. -/
  char : Char
  /-- The number of bytes before it in the text. -/
  index : Nat
  /-- The number of line breaks before it. -/
  line : Nat
  /-- The number of characters before it on its line. -/
  column : Nat

/-- The mark that stands after the last character. It cannot occur in a document itself. -/
def endMark : Char := '\x00'

/-- Whether a character ends a line, once breaks are unified. -/
def isBreak (c : Char) : Bool := c == '\n' || c == '\u2028' || c == '\u2029'

/-- Whether a character separates words on a line. -/
def isSpace (c : Char) : Bool := c == ' ' || c == '\t'

/-- Whether a character ends a line or the text. -/
def isBreakOrEnd (c : Char) : Bool := isBreak c || c == endMark

/-- Whether a character is no part of a word. -/
def isGap (c : Char) : Bool := isSpace c || isBreakOrEnd c

/-- Whether a character may be part of an anchor or of a tag handle. -/
def isWordChar (c : Char) : Bool := c.isAlphanum || c == '_' || c == '-'

/-- Whether a character may occur in a document. -/
def isAllowed (c : Char) : Bool :=
  let n := c.toNat
  n == 0x9 || n == 0xA || n == 0xD || (0x20 ≤ n && n ≤ 0x7E) || n == 0x85 ||
    (0xA0 ≤ n && n ≤ 0xFFFD) || 0x10000 ≤ n

/-- Places the characters of a text, from the given place on. -/
def locate (index line column : Nat) : List Char → List Glyph
  | [] => [⟨endMark, index, line, column⟩]
  | '\r' :: '\n' :: cs => ⟨'\n', index, line, column⟩ :: locate (index + 2) (line + 1) 0 cs
  | c :: cs =>
    let next := index + c.utf8Size
    if c = '\n' ∨ c = '\r' ∨ c = '\u0085' then
      ⟨'\n', index, line, column⟩ :: locate next (line + 1) 0 cs
    else if isBreak c then ⟨c, index, line, column⟩ :: locate next (line + 1) 0 cs
    else ⟨c, index, line, column⟩ :: locate next line (column + 1) cs

/-- The located text of a document, if all its characters are allowed. -/
def source (s : String) : Except Fault (List Glyph) :=
  if s.toList.all isAllowed then .ok (locate 0 0 0 s.toList) else .error .forbiddenCharacter

/-- The character `n` places on; the end mark beyond the text. -/
def peek (n : Nat) (gs : List Glyph) : Char :=
  match gs[n]? with
  | some g => g.char
  | none => endMark

/-- Whether three equal characters stand alone at the start of a line. -/
def isMarker (c : Char) (gs : List Glyph) : Bool :=
  match gs with
  | g :: _ =>
    g.column == 0 && g.char == c && peek 1 gs == c && peek 2 gs == c && isGap (peek 3 gs)
  | [] => false

/-- Whether a document starts or ends here. -/
def isDocumentMarker (gs : List Glyph) : Bool := isMarker '-' gs || isMarker '.' gs

/-- Splits off the glyphs whose characters satisfy `p`. -/
def spanChars (p : Char → Bool) (gs : List Glyph) : List Char × List Glyph :=
  ((gs.takeWhile fun g => p g.char).map Glyph.char, gs.dropWhile fun g => p g.char)

/-- Drops the glyphs whose characters satisfy `p`. -/
def skipChars (p : Char → Bool) (gs : List Glyph) : List Glyph := gs.dropWhile fun g => p g.char

/-- Drops the rest of a line that may hold blanks and a comment, and the break after it. -/
def skipToLineEnd (fault : Fault) (gs : List Glyph) : Except Fault (List Glyph) :=
  let gs := skipChars isSpace gs
  let gs := if peek 0 gs == '#' then skipChars (fun c => !isBreakOrEnd c) gs else gs
  match gs with
  | [] => .ok []
  | g :: rest =>
    if isBreak g.char then .ok rest
    else if g.char == endMark then .ok (g :: rest)
    else .error fault

end Restyle.Yaml
