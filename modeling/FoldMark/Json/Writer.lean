import FoldMark.Payload

/-!
# Writing JSON

Lists and mappings are written with one item a line, indented by two columns for each level. Values
without a place in JSON are written as texts.
-/

namespace FoldMark.Json

/-- The columns of a level. -/
def indentWidth : Nat := 2

/-- A line end and the indentation of a level. -/
def newLine (level : Nat) : List Char := '\n' :: List.replicate (indentWidth * level) ' '

/-- How a character is written within a string. -/
def writeChar (c : Char) : List Char :=
  if c = '"' then ['\\', '"']
  else if c = '\\' then ['\\', '\\']
  else if c = '\n' then ['\\', 'n']
  else if c = '\r' then ['\\', 'r']
  else if c = '\t' then ['\\', 't']
  else if c = '\x08' then ['\\', 'b']
  else if c = '\x0c' then ['\\', 'f']
  else if c.toNat < 0x20 then '\\' :: 'u' :: Text.hexDigits 4 c.toNat
  else [c]

/-- How a code point is written within a string. -/
def writePoint : CodePoint → CodeText
  | .char c => writeChar c
  | point => [point]

/-- A string. -/
def writeString (text : CodeText) : CodeText :=
  .char '"' :: text.flatMap writePoint ++ [.char '"']

/-- The spellings of what is no finite number. -/
def extremes : Number.Extremes := ⟨"NaN", "Infinity", "-Infinity"⟩

/-- The name of a member. -/
def memberName : Value → Except WriteError CodeText
  | .str s => .ok s
  | .null => .ok "null"
  | .bool b => .ok (if b then "true" else "false")
  | .int n => writeShown (.int n)
  | .float x => .ok (Number.floatText extremes x)
  | key => .error (.badKey key)

/-- Puts items on lines of their own between brackets. -/
def bracket (start stop : Char) (level : Nat) (items : List CodeText) : CodeText :=
  if items.isEmpty then [.char start, .char stop]
  else
    let gap : CodeText := newLine (level + 1)
    .char start :: gap ++ (.char ',' :: gap).intercalate items ++
      CodeText.ofChars (newLine level) ++ [.char stop]

mutual

/-- Writes a value at a level. -/
def writeValue (level : Nat) : Value → Except WriteError CodeText
  | .null => .ok "null"
  | .bool b => .ok (if b then "true" else "false")
  | .int n => writeShown (.int n)
  | .float x => .ok (Number.floatText extremes x)
  | .str s => .ok (writeString s)
  | .list _ items | .tuple items => (writeItems (level + 1) items).map (bracket '[' ']' level)
  | .map _ entries => (writeMembers (level + 1) entries).map (bracket '\x7b' '\x7d' level)
  | .again _ => .error .selfContaining
  | value => (writeShown value).map writeString

/-- Writes the items of a list. -/
def writeItems (level : Nat) : List Value → Except WriteError (List CodeText)
  | [] => .ok []
  | item :: rest => do
    let item ← writeValue level item
    let rest ← writeItems level rest
    return item :: rest

/-- Writes the members of a mapping. -/
def writeMembers (level : Nat) : List (Value × Value) → Except WriteError (List CodeText)
  | [] => .ok []
  | (key, value) :: rest => do
    let name ← memberName key
    let value ← writeValue level value
    let rest ← writeMembers level rest
    return (writeString name ++ .char ':' :: .char ' ' :: value) :: rest

end

/-- Writes a value. -/
def write (value : Value) : Except WriteError CodeText := writeValue 0 value

end FoldMark.Json
