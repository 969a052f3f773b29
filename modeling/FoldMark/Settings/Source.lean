import FoldMark.Fault
import FoldMark.Page.File
import FoldMark.Settings

/-!
# Sources of settings

A field is set by the command line, else by the environment, else by a file, and has its default
where none of them sets it. Only the value that counts is checked. The file is the one that is
named, or else the one with the usual name in the working directory, if there is one.
-/

namespace FoldMark.Settings

open Fields Text

/-- The usual name of the file. -/
def fileName : List Char := "mdserve.yaml".toList

/-- The start of the names of the environment's variables. -/
def variableStart : String := "MDSERVE_"

/-- Why there are no settings. -/
inductive LoadError where
  /-- The named file does not exist. -/
  | missing (path : List Char)
  /-- The file is in no known notation. -/
  | unsupported (name : Name)
  /-- The file cannot be read or is not valid in its notation. -/
  | invalid (name : Name)
  /-- The file holds a value that is no mapping. -/
  | noMapping (name : Name) (found : Value)
  /-- Fields are not valid. -/
  | fields (problems : List (Problem Fields.Error))
  /-- Reading them stopped. -/
  | stopped (fault : Fault)

namespace LoadError

/-- The wording of an error, where it is one of the settings. -/
def message? : LoadError → Option String
  | missing path => some ("Config file " ++ String.ofList path ++ " does not exist")
  | unsupported name =>
    some (String.ofList name ++ ": unsupported config format, use json, toml or yaml")
  | invalid name => some ("Invalid " ++ String.ofList name)
  | noMapping name found =>
    some ("Invalid " ++ String.ofList name ++ ": expected a mapping, got " ++ found.kindName)
  | fields _ => some "Invalid configuration"
  | _ => none

/-- The names of the fields that are not valid, in order, each once. -/
def fieldNames : LoadError → List String
  | fields problems =>
    (problems.filterMap fun problem => problem.place.head?).eraseDups.mergeSort fun a b => a ≤ b
  | _ => []

end LoadError

/-- A notation of files. -/
inductive Notation where
  /-- JSON. -/
  | json
  /-- TOML. -/
  | toml
  /-- YAML. -/
  | yaml
  deriving DecidableEq, Repr

/-- The notations by suffix. -/
def notationSuffixes : List (String × Notation) :=
  [(".json", .json), (".toml", .toml), (".yaml", .yaml), (".yml", .yaml)]

/-- The value of a file's text. -/
def readNotation (name : Name) (form : Notation) (chars : List Char) : Except LoadError Value :=
  match form with
  | .json => orInvalid (Json.read? chars)
  | .toml => orInvalid (Toml.read? chars)
  | .yaml =>
    match Yaml.read chars with
    | .ok value => .ok (if value.isNothing then .map none [] else value)
    | .error error => .error (if error.isFault then .stopped (.settings error) else .invalid name)
where
  /-- A value, or the error that the file is not valid. -/
  orInvalid (value : Option Value) : Except LoadError Value :=
    match value with
    | some value => .ok value
    | none => .error (.invalid name)

/-- The entries of a file. -/
def readFile (tree : Tree) (path : Path) : Except LoadError (List (Value × Value)) := do
  match notationSuffixes.lookup (String.ofList (lower path.suffix)) with
  | none => .error (.unsupported path.name)
  | some form =>
    let chars ← (tree.readText path).mapError fun _ => .invalid path.name
    match ← readNotation path.name form chars with
    | .map _ entries => .ok entries
    | value => .error (.noMapping path.name value)

/-- The entries of the file that is named, or of the usual one. -/
def fileEntries (tree : Tree) (named : Option (List Char)) :
    Except LoadError (List (Value × Value)) := do
  match named with
  | some name =>
    let path := Path.parse name
    if ← (tree.isPresent path).mapError (.stopped <| .file ·) then readFile tree path
    else .error (.missing name)
  | none =>
    let path := Path.parse fileName
    if ← (tree.isPresent path).mapError (.stopped <| .file ·) then readFile tree path else .ok []

/-- The fields that the environment sets; an empty variable sets none. -/
def environmentEntries (environment : List (String × String)) : Entries :=
  fieldNames.filterMap fun name =>
    match environment.lookup (variableStart ++ String.ofList (upper name.toList)) with
    | some value => if value.isEmpty then none else some (name, .str value)
    | none => none

/-- The fields that overriding values set; no value sets none. -/
def overridingEntries (overrides : Entries) : Entries :=
  overrides.filter fun entry =>
    match entry.2 with
    | .null => false
    | _ => true

/-- The fields of a file, whose keys must be texts. -/
def namedEntries (entries : List (Value × Value)) : Except LoadError Entries :=
  entries.mapM fun entry =>
    match entry.1 with
    | .str name => .ok (name.toString, entry.2)
    | _ => .error (.stopped .keyNotText)

/-- The settings of a run. -/
def load (tree : Tree) (environment : List (String × String)) (named : Option (List Char))
    (overrides : Entries) : Except LoadError Settings := do
  let entries ← fileEntries tree named
  let entries ← namedEntries entries
  (ofEntries (overridingEntries overrides ++ environmentEntries environment ++ entries)).mapError
    .fields

end FoldMark.Settings
