import Restyle.Yaml.Token.Scalar

/-!
# Tags and directives

A tag is written in angle brackets as a whole, or as a handle with a suffix. Its characters are
those of an address, where a percent sign with two hexadecimal digits stands for one byte. A zero
byte ends the part of a tag in which it is spelled. A directive line declares the version of the
format or the expansion of a tag handle.
-/

namespace Restyle.Yaml

/-- The bytes of a list of characters. -/
def bytesOf (cs : List Char) : TagText := (String.ofList cs).toUTF8.toList

/-- Whether a character may stand in a tag; `whole` tells whether angle brackets enclose it. -/
def isTagChar (whole : Bool) (c : Char) : Bool :=
  isWordChar c ||
    c ∈ [';', '/', '?', ':', '@', '&', '=', '+', '$', '.', '!', '~', '*', '\'', '(', ')', '%'] ||
    (whole && (c == ',' || c == '[' || c == ']'))

/-- The number of bytes that follow a first byte in the encoding of a character. -/
def continuation? (byte : Nat) : Option Nat :=
  if byte < 0x80 then some 0
  else if 0xC0 ≤ byte ∧ byte < 0xE0 then some 1
  else if 0xE0 ≤ byte ∧ byte < 0xF0 then some 2
  else if 0xF0 ≤ byte ∧ byte < 0xF8 then some 3
  else none

/-- Reads the characters of a tag, in reverse. `pending` counts the escaped bytes that still belong
to the character being spelled. -/
def tagCharsFrom (whole : Bool) : Nat → TagText → List Glyph → Except Fault (TagText × List Glyph)
  | pending, acc, ⟨'%', _, _, _⟩ :: h :: l :: rest =>
    match hexValue? h.char, hexValue? l.char with
    | some high, some low =>
      let byte := 16 * high + low
      let acc := UInt8.ofNat byte :: acc
      match pending with
      | 0 =>
        match continuation? byte with
        | some more => tagCharsFrom whole more acc rest
        | none => .error .badProperty
      | more + 1 =>
        if 0x80 ≤ byte ∧ byte < 0xC0 then tagCharsFrom whole more acc rest else .error .badProperty
    | _, _ => .error .badProperty
  | pending, acc, g :: rest =>
    if pending ≠ 0 || g.char == '%' then .error .badProperty
    else if isTagChar whole g.char then
      tagCharsFrom whole 0 ((bytesOf [g.char]).reverse ++ acc) rest
    else .ok (acc, g :: rest)
  | pending, acc, [] => if pending ≠ 0 then .error .badProperty else .ok (acc, [])

/-- What a part of a tag says: its bytes before the first zero. -/
def tagText (bytes : TagText) : TagText := bytes.takeWhile (· ≠ 0)

/-- Reads the characters of a tag, which may be none. -/
def tagChars (whole : Bool) (gs : List Glyph) : Except Fault (TagText × List Glyph) := do
  let (bytes, gs) ← tagCharsFrom whole 0 [] gs
  pure (bytes.reverse, gs)

/-- Reads a part of a tag that must be spelled by at least one character. -/
def tagPart (whole : Bool) (fault : Fault) (gs : List Glyph) :
    Except Fault (TagText × List Glyph) := do
  let (bytes, gs) ← tagChars whole gs
  if bytes.isEmpty then throw fault
  pure (tagText bytes, gs)

/-- Reads the part of a tag up to a second exclamation mark. -/
def tagHandle (gs : List Glyph) : Except Fault (List Char × List Glyph) :=
  if peek 0 gs != '!' then .error .badProperty
  else
    let (word, rest) := spanChars isWordChar (gs.drop 1)
    if peek 0 rest == '!' then .ok ('!' :: word ++ ['!'], rest.drop 1) else .ok ('!' :: word, rest)

/-- The byte of an exclamation mark. -/
def bang : UInt8 := 0x21

/-- Reads a tag. The handle is empty for a tag given as a whole and for the mark that stands alone.
-/
def tagToken (flow : Bool) (gs : List Glyph) : Except Fault (Token × List Glyph) := do
  let (token, gs) ←
    if peek 1 gs == '<' then do
      let (whole, gs) ← tagPart true .badProperty (gs.drop 2)
      if peek 0 gs != '>' then throw .badProperty
      pure (Token.tag [] whole, gs.drop 1)
    else do
      let (handle, gs) ← tagHandle gs
      if 2 ≤ handle.length ∧ handle.getLast? = some '!' then do
        let (suffix, gs) ← tagPart false .badProperty gs
        pure (Token.tag (bytesOf handle) suffix, gs)
      else do
        let (bytes, gs) ← tagChars false gs
        let suffix := bytesOf (handle.drop 1) ++ tagText bytes
        if suffix.isEmpty then pure (Token.tag [] [bang], gs)
        else pure (Token.tag [bang] suffix, gs)
  if (flow && peek 0 gs == ',') || isGap (peek 0 gs) then pure (token, gs) else throw .badProperty

/-- Reads an anchor or an alias after its indicator: a word, and then nothing that could belong to
it. -/
def anchorName (gs : List Glyph) : Except Fault (String × List Glyph) :=
  let (word, rest) := spanChars isWordChar gs
  let next := peek 0 rest
  if word.isEmpty then .error .badProperty
  else if isGap next || next ∈ ['?', ':', ',', ']', '\x7d', '%', '@', '`'] then
    .ok (String.ofList word, rest)
  else .error .badProperty

/-- Reads one number of a version, of at most nine digits. -/
def versionNumber (gs : List Glyph) : Except Fault (Nat × List Glyph) :=
  let (digits, rest) := spanChars Char.isDigit gs
  if digits.isEmpty || 9 < digits.length then .error .badDirective
  else .ok (digits.foldl (fun n c => 10 * n + (c.toNat - '0'.toNat)) 0, rest)

/-- Reads a directive after its percent sign, with the rest of its line. -/
def directiveToken (gs : List Glyph) : Except Fault (Token × List Glyph) := do
  let (name, gs) := spanChars isWordChar gs
  if name.isEmpty || !isGap (peek 0 gs) then throw .badDirective
  let gs := skipChars isSpace gs
  let (token, gs) ←
    if name = "YAML".toList then do
      let (major, gs) ← versionNumber gs
      if peek 0 gs != '.' then throw .badDirective
      let (minor, gs) ← versionNumber (gs.drop 1)
      pure (Token.version major minor, gs)
    else if name = "TAG".toList then do
      let (handle, gs) ← tagHandle gs
      if handle ≠ ['!'] ∧ handle.getLast? ≠ some '!' then throw .badDirective
      if !isSpace (peek 0 gs) then throw .badDirective
      let (expansion, gs) ← tagPart true .badDirective (skipChars isSpace gs)
      if !isGap (peek 0 gs) then throw .badDirective
      pure (Token.tagDirective (bytesOf handle) expansion, gs)
    else throw .badDirective
  let gs ← skipToLineEnd .badDirective gs
  pure (token, gs)

end Restyle.Yaml
