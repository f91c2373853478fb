import Restyle.Yaml.Source

/-!
# Tokens

The tokens of a document. Indentation appears as explicit starts and ends of block collections, and
a key token stands before every key, also where the text has none.
-/

namespace Restyle.Yaml

/-- How a scalar was written. -/
inductive ScalarStyle where
  /-- Without quotes. -/
  | plain
  /-- Between single quotes. -/
  | singleQuoted
  /-- Between double quotes. -/
  | doubleQuoted
  /-- As a block that keeps its line breaks. -/
  | literal
  /-- As a block whose lines are joined. -/
  | folded
deriving Repr, DecidableEq

/-- The bytes of a tag or of a part of one. -/
abbrev TagText := List UInt8

/-- A token of a document. -/
inductive Token where
  /-- The end of the text. -/
  | streamEnd
  /-- The version of the format that a document asks for. -/
  | version (major minor : Nat)
  /-- The declaration of a tag handle. -/
  | tagDirective (handle expansion : TagText)
  /-- The start of a document. -/
  | documentStart
  /-- The end of a document. -/
  | documentEnd
  /-- The start of an indented sequence. -/
  | blockSequenceStart
  /-- The start of an indented mapping. -/
  | blockMappingStart
  /-- The end of an indented collection. -/
  | blockEnd
  /-- An opening square bracket. -/
  | flowSequenceStart
  /-- A closing square bracket. -/
  | flowSequenceEnd
  /-- An opening brace. -/
  | flowMappingStart
  /-- A closing brace. -/
  | flowMappingEnd
  /-- The dash before an entry. -/
  | blockEntry
  /-- The comma between entries. -/
  | flowEntry
  /-- The start of a key. -/
  | key
  /-- The colon before a value. -/
  | value
  /-- A reference to an anchor. -/
  | alias (name : String)
  /-- A name for the node that follows. -/
  | anchor (name : String)
  /-- A tag, as its handle and its suffix. -/
  | tag (handle suffix : TagText)
  /-- A scalar. -/
  | scalar (text : String) (style : ScalarStyle)
deriving Repr, DecidableEq

end Restyle.Yaml
