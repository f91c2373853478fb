/-!
# Files

A file as a loader sees it: a bare name and the bytes read from it, if there are any to read. The
extension is what follows the last point of the name; a point at the very start begins no extension.
-/

namespace Restyle

/-- A named file. -/
structure File where
  /-- The bare name. -/
  name : String
  /-- The bytes, or `none` if the file cannot be read. -/
  content : Option ByteArray

namespace File

/-- The text of a file, if it can be read and is well-formed. -/
def text? (f : File) : Option String := f.content.bind fun bytes => String.fromUTF8? bytes

/-- What follows the last point of a name that has characters before that point. -/
def extensionOf? (name : List Char) : Option (List Char) :=
  let tail := name.reverse.takeWhile (· ≠ '.')
  if tail.length + 1 < name.length then some tail.reverse else none

/-- The extension of a file. -/
def extension? (f : File) : Option String := (extensionOf? f.name.toList).map String.ofList

/-- The formats of documents that a file can hold. -/
inductive Format where
  /-- JSON. -/
  | json
  /-- YAML. -/
  | yaml

/-- The format that the extension of a file announces. Only small letters count. -/
def format? (f : File) : Option Format :=
  match f.extension? with
  | some "json" => some .json
  | some "yaml" => some .yaml
  | some "yml" => some .yaml
  | _ => none

end File

end Restyle
