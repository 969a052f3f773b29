import FoldMark.FrontMatter
import FoldMark.Json.Reader
import FoldMark.Toml.Reader
import FoldMark.Yaml.Reader

/-!
# Metadata

Front matter is decoded to a mapping. Where the payload is not valid, a document counts as having no
metadata; some tags of YAML on texts that do not suit them are no such case, and stop the reader.
-/

namespace FoldMark.FrontMatter

/-- Why a payload has no metadata. -/
inductive DecodeError where
  /-- It is not valid in its notation. -/
  | invalid (kind : Kind)
  /-- It has a value that is no mapping. -/
  | noMapping (kind : Kind) (found : Value)
  /-- It is not valid YAML, in more detail. -/
  | yaml (payload : List Char) (error : Yaml.ReadError)

namespace DecodeError

/-- Whether the payload counts as not valid; any other error stops the reader of the document. -/
def isInvalid : DecodeError → Bool
  | yaml _ error => !error.isFault
  | _ => true

/-- The wording of an error, where it is this library's own. -/
def message? : DecodeError → Option String
  | noMapping kind found =>
    some ("Invalid " ++ kind.name ++ " front matter: expected a mapping, got " ++ found.kindName)
  | yaml _ .malformed => some "Invalid YAML front matter"
  | yaml payload error =>
    (error.detail? payload).map fun detail => "Invalid YAML front matter: " ++ String.ofList detail
  | invalid _ => none

end DecodeError

/-- No metadata. -/
def noMetadata : Value := .map none []

/-- A value that is a mapping. -/
def asMapping (kind : Kind) : Value → Except DecodeError Value
  | .map id entries => .ok (.map id entries)
  | value => .error (.noMapping kind value)

/-- A value, or the error that a payload is not valid. -/
def orInvalid (kind : Kind) (value : Option Value) : Except DecodeError Value :=
  match value with
  | some value => .ok value
  | none => .error (.invalid kind)

/-- The metadata that a payload holds. -/
def decode (kind : Kind) (payload : List Char) : Except DecodeError Value :=
  match kind with
  | .refdef => .ok (.map none (definitionEntries (definitionLines payload)))
  | .json =>
    if Text.isBlankText payload then .ok noMetadata
    else do asMapping .json (← orInvalid .json (Json.read? payload))
  | .toml => do asMapping .toml (← orInvalid .toml (Toml.read? payload))
  | .yaml =>
    match Yaml.read payload with
    | .error error => .error (.yaml payload error)
    | .ok value => asMapping .yaml (if value.isNothing then noMetadata else value)

/-- The metadata of a document's front matter, none where its payload is not valid. -/
def metadata (front : Option FrontMatter) : Except DecodeError Value :=
  match front with
  | none => .ok noMetadata
  | some front =>
    match decode front.kind front.payload with
    | .error error => if error.isInvalid then .ok noMetadata else .error error
    | .ok value => .ok value

end FoldMark.FrontMatter
