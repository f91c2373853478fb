/-!
# Errors

Every failing operation names its cause. The wording of all causes is in `StyleError.message`.
-/

namespace Restyle

/-- Why a document is not a definition or a configuration. -/
inductive ParseCause where
  /-- The text is not a document of its format, or the document does not have the fields asked for.
  -/
  | malformed
  /-- The document is not an object; `got` names what it is. -/
  | notAnObject (got : String)
  /-- The document is not a mapping; `got` shows what it is. -/
  | notAMapping (got : String)
  /-- A compilation was refused by its caller. -/
  | refused (reason : String)
deriving Repr, DecidableEq

/-- The wording of a parse cause. -/
def ParseCause.message : ParseCause → String
  | .malformed => "malformed document"
  | .notAnObject got => "style definition must be an object, got " ++ got
  | .notAMapping got => "style definition must be a mapping, got " ++ got
  | .refused reason => "custom: " ++ reason

/-- Why a file gives no document. -/
inductive LoadCause where
  /-- The file is missing or is not a text. -/
  | unreadable
  /-- The extension of a definition file is not one of those listed. -/
  | unknownExtension (known : List String)
  /-- The extension of a configuration file is unknown. -/
  | unknownConfigExtension
deriving Repr, DecidableEq

/-- The wording of a load cause. -/
def LoadCause.message : LoadCause → String
  | .unreadable => "unreadable file"
  | .unknownExtension known =>
    "unrecognized extension, expected one of " ++ ", ".intercalate known
  | .unknownConfigExtension => "unrecognized config extension"

/-- Why an operation on styles failed. -/
inductive StyleError where
  /-- A produced value was reached without a component. -/
  | missingComponent (selector property : String)
  /-- The producer of a value failed. -/
  | producerFailed (selector property source : String)
  /-- A target refused a text. -/
  | output (base source : String)
  /-- A document could not be understood. -/
  | parse (cause : ParseCause)
  /-- A file could not be read. -/
  | load (path : String) (cause : LoadCause)
deriving Repr, DecidableEq

/-- The wording of an error. -/
def StyleError.message : StyleError → String
  | .missingComponent selector property =>
    "dynamic value '" ++ property ++ "' in '" ++ selector ++ "' requires a component reference"
  | .producerFailed selector property source =>
    "dynamic value '" ++ property ++ "' in '" ++ selector ++ "' failed: " ++ source
  | .output base source => "failed to write styles for '" ++ base ++ "': " ++ source
  | .parse cause => "parse error: " ++ cause.message
  | .load path cause => "failed to load " ++ path ++ ": " ++ cause.message

end Restyle
