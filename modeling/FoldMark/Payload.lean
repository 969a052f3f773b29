import FoldMark.Value.Shown

/-!
# Output formats

A rendered document is written as HTML or, in the other formats, as a mapping of its front matter
and its HTML. A format that cannot hold a value refuses it.
-/

namespace FoldMark

/-- An output format. -/
inductive PayloadFormat where
  /-- The HTML alone. -/
  | html
  /-- JSON. -/
  | json
  /-- YAML. -/
  | yaml
  /-- TOML. -/
  | toml
  deriving DecidableEq, Repr

namespace PayloadFormat

/-- The name of a format, which is also the suffix of its files. -/
def name : PayloadFormat → String
  | html => "html"
  | json => "json"
  | yaml => "yaml"
  | toml => "toml"

/-- The formats. -/
def all : List PayloadFormat := [html, json, yaml, toml]

/-- The format of a name. -/
def ofName? (name : String) : Option PayloadFormat := all.find? fun format => format.name == name

/-- The wording of the error that a name is none of a format. -/
def unknownMessage (name : String) : String :=
  Text.quotedString name ++ " is not a valid PayloadFormat"

end PayloadFormat

/-- Why a value cannot be written. -/
inductive WriteError where
  /-- A key is of a kind that the format has no keys of. -/
  | badKey (key : Value)
  /-- A value is of a kind that the format does not have. -/
  | badValue (value : Value)
  /-- A value contains itself, which the format can tell. -/
  | selfContaining
  /-- A value contains itself, and writing it does not end. -/
  | endless
  /-- A value has no representation: a time of day in YAML, an integer of too many digits, or a text
  that there are no bytes for. -/
  | unrepresentable (value : Value)

namespace WriteError

/-- Whether a value was refused for its kind; any other error is one of the writer's own. -/
def isRefusal : WriteError → Bool
  | badKey _ | badValue _ => true
  | _ => false

/-- The wording of the refusal of a key. -/
def keyMessage (format : PayloadFormat) (key : Value) : String :=
  match format, key with
  | .toml, .bytes _ => "can only concatenate str (not \"bytes\") to str"
  | .toml, _ =>
    "Invalid mapping key '" ++ String.ofList key.shown ++ "' of type '" ++ key.kindName ++
      "'. A string is required."
  | _, _ => "keys must be str, int, float, bool or None, not " ++ key.kindName

/-- The wording of a refusal. -/
def message (format : PayloadFormat) : WriteError → String
  | badKey key => keyMessage format key
  | badValue value => "Object of type '" ++ value.kindName ++ "' is not TOML serializable"
  | selfContaining => "Circular reference detected"
  | endless => "maximum recursion depth exceeded"
  | unrepresentable _ => "cannot represent an object"

end WriteError

/-- Whether an integer has more digits than are written. -/
def isLongInt (n : Int) : Bool := (Nat.toDigits 10 n.natAbs).length > Number.maxDigits

namespace Value

mutual

/-- The first integer of too many digits in a value. -/
def longInt? : Value → Option Int
  | int n => if isLongInt n then some n else none
  | list _ items | tuple items | set _ items => longItem? items
  | map _ entries => longPair? entries
  | _ => none

/-- The first integer of too many digits in some values. -/
def longItem? : List Value → Option Int
  | [] => none
  | item :: rest => item.longInt?.or (longItem? rest)

/-- The first integer of too many digits in some entries. -/
def longPair? : List (Value × Value) → Option Int
  | [] => none
  | (key, value) :: rest => (key.longInt?.or value.longInt?).or (longPair? rest)

end

end Value

/-- The text that a value is shown as, unless an integer in it has too many digits. -/
def writeShown (value : Value) : Except WriteError CodeText :=
  match value.longInt? with
  | some n => .error (.unrepresentable (.int n))
  | none => .ok value.shown

end FoldMark
