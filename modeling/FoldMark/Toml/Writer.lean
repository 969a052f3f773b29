import FoldMark.Payload
import FoldMark.Toml.Reader

/-!
# Writing TOML

A table is written with its single values and lists first, one a line, and then the tables in it,
each under a header. A list of tables has a header for each of them, unless all are short enough to
stand on a line. There is nothing in TOML for no value, so it is left out.
-/

namespace FoldMark.Toml

/-- The columns of a level. -/
def indentWidth : Nat := 4

/-- The columns of the longest line for a table in a list. -/
def maxLineWidth : Nat := 100

/-- The spaces before the items of a level. -/
def indentation (level : Nat) : CodeText := List.replicate (indentWidth * level) (.char ' ')

/-- How a character is written between double quotes. -/
def writeChar (c : Char) : List Char :=
  if c = '"' then ['\\', '"']
  else if c = '\\' then ['\\', '\\']
  else if c = '\x08' then ['\\', 'b']
  else if c = '\n' then ['\\', 'n']
  else if c = '\x0c' then ['\\', 'f']
  else if c = '\r' then ['\\', 'r']
  else if isControl c then '\\' :: 'u' :: Text.hexDigits 4 c.toNat
  else [c]

/-- How a code point is written between double quotes. -/
def writePoint : CodePoint → CodeText
  | .char c => writeChar c
  | point => [point]

/-- A text between double quotes. -/
def writeText (text : CodeText) : CodeText :=
  .char '"' :: text.flatMap writePoint ++ [.char '"']

/-- A part of a key, without quotes where it may be. -/
def writeKeyPart (part : CodeText) : CodeText :=
  if !part.isEmpty && part.all fun point => point.char?.any isBareChar then part
  else writeText part

/-- A key, which only a text can be; another one is shown where it is refused. -/
def writeKey : Value → Except WriteError CodeText
  | .str s => .ok (writeKeyPart s)
  | key => do
    let _ ← writeShown key
    throw (.badKey key)

/-- The items of a list, one a line. -/
def writeItemLines (level : Nat) (items : List CodeText) : CodeText :=
  if items.isEmpty then CodeText.ofString "[]"
  else
    let line (item : CodeText) : CodeText :=
      indentation (level + 1) ++ item ++ CodeText.ofString ",\n"
    CodeText.ofString "[\n" ++ items.flatMap line ++ indentation level ++ CodeText.ofString "]"

/-- A table on one line. -/
def writeLineTable (entries : List CodeText) : CodeText :=
  if entries.isEmpty then CodeText.ofString "\x7b\x7d"
  else
    CodeText.ofString "\x7b " ++ (CodeText.ofString ", ").intercalate entries ++
      CodeText.ofString " \x7d"

/-- A key and its value. -/
def writePair (key value : CodeText) : CodeText := key ++ CodeText.ofString " = " ++ value

mutual

/-- Writes a value after its key, or an item of a level. -/
def writeInline (level : Nat) : Value → Except WriteError CodeText
  | .bool b => .ok (if b then "true" else "false")
  | .int n => writeShown (.int n)
  | .float x => .ok (Number.floatText Number.plainExtremes x)
  | .str s => .ok (writeText s)
  | .date _ d => .ok d.text
  | .dateTime _ t => .ok (t.text ' ')
  | .time t => .ok t.text
  | .list _ items | .tuple items => (writeItems (level + 1) items).map (writeItemLines level)
  | .map _ entries => (writeEntries entries).map writeLineTable
  | .again _ => .error .endless
  | value => .error (.badValue value)

/-- Writes the items of a list. -/
def writeItems (level : Nat) : List Value → Except WriteError (List CodeText)
  | [] => .ok []
  | item :: rest => do
    let item ← writeInline level item
    let rest ← writeItems level rest
    return item :: rest

/-- Writes the entries of a table on one line. -/
def writeEntries : List (Value × Value) → Except WriteError (List CodeText)
  | [] => .ok []
  | (key, value) :: rest => do
    let key ← writeKey key
    let value ← writeInline 0 value
    let rest ← writeEntries rest
    return writePair key value :: rest

end

/-- Whether a value is a table. -/
def isTable : Value → Bool
  | .map .. => true
  | _ => false

/-- Whether a table in a list fits on a line. -/
def fitsLine (table : Value) : Except WriteError Bool :=
  (writeInline 0 table).map fun text =>
    indentWidth + text.length + 1 ≤ maxLineWidth && !text.contains (.char '\n')

/-- Whether a list is written as tables with headers. -/
def isTableList (items : List Value) : Except WriteError Bool :=
  if !items.isEmpty && items.all isTable then (items.allM fitsLine).map (!·) else .ok false

/-- Whether a value is written under headers of its own. -/
def isSection : Value → Except WriteError Bool
  | .map .. => .ok true
  | .list _ items | .tuple items => isTableList items
  | _ => .ok false

/-- Writes the entries of a table that need no headers. -/
def writeLines : List (Value × Value) → Except WriteError CodeText
  | [] => .ok []
  | (key, value) :: rest => do
    if ← isSection value then writeLines rest
    else
      let key ← writeKey key
      let value ← writeInline 0 value
      let rest ← writeLines rest
      return writePair key value ++ .char '\n' :: rest

/-- The header of a table, in a list or not. -/
def header (isListed : Bool) (path : CodeText) : CodeText :=
  if isListed then CodeText.ofString "[[" ++ path ++ CodeText.ofString "]]\n"
  else CodeText.ofString "[" ++ path ++ CodeText.ofString "]\n"

/-- The path of a table within another. -/
def extendPath (path key : CodeText) : CodeText :=
  if path.isEmpty then key else path ++ .char '.' :: key

/-- The header and the lines of a table, where it has a header if there is something to say. -/
def writeFront (isListed : Bool) (path : CodeText) (entries : List (Value × Value)) :
    Except WriteError (List CodeText) := do
  let sections ← entries.mapM fun entry => isSection entry.2
  let lines ← writeLines entries
  let hasHeader := isListed || (!path.isEmpty && (sections.contains false || sections.isEmpty))
  let front := (if hasHeader then header isListed path else []) ++ lines
  return if front.isEmpty then [] else [front]

mutual

/-- Writes the tables of a value, each with those in it, for the tables that `path` leads to. -/
def writeTables (path : CodeText) : Value → Except WriteError (List CodeText)
  | .map _ entries => do
    let front ← writeFront false path entries
    let rest ← writeSections path entries
    return front ++ rest
  | .list _ items | .tuple items => do
    if ← isTableList items then writeListed path items else return []
  | _ => .ok []

/-- Writes the tables of a list. -/
def writeListed (path : CodeText) : List Value → Except WriteError (List CodeText)
  | [] => .ok []
  | .map _ entries :: rest => do
    let front ← writeFront true path entries
    let inner ← writeSections path entries
    let rest ← writeListed path rest
    return front ++ inner ++ rest
  | _ :: rest => writeListed path rest

/-- Writes the entries of a table that have headers. -/
def writeSections (path : CodeText) : List (Value × Value) → Except WriteError (List CodeText)
  | [] => .ok []
  | (key, value) :: rest => do
    if ← isSection value then
      let key ← writeKey key
      let tables ← writeTables (extendPath path key) value
      let rest ← writeSections path rest
      return tables ++ rest
    else writeSections path rest

end

mutual

/-- A value without what has no value, and with lists for all sequences. -/
def withoutNulls : Value → Value
  | .map id entries => .map id (entriesWithoutNulls entries)
  | .list id items => .list id (itemsWithoutNulls items)
  | .tuple items => .list none (itemsWithoutNulls items)
  | value => value

/-- Items without those that have no value. -/
def itemsWithoutNulls : List Value → List Value
  | [] => []
  | .null :: rest => itemsWithoutNulls rest
  | item :: rest => withoutNulls item :: itemsWithoutNulls rest

/-- Entries without those that have no value. -/
def entriesWithoutNulls : List (Value × Value) → List (Value × Value)
  | [] => []
  | (_, .null) :: rest => entriesWithoutNulls rest
  | (key, value) :: rest => (key, withoutNulls value) :: entriesWithoutNulls rest

end

mutual

/-- Whether a value contains itself, or one that does. -/
def isEndless : Value → Bool
  | .again _ => true
  | .list _ items | .tuple items => anyEndless items
  | .map _ entries => anyEntryEndless entries
  | _ => false

/-- Whether a value among some is endless. -/
def anyEndless : List Value → Bool
  | [] => false
  | item :: rest => isEndless item || anyEndless rest

/-- Whether a value of some entries is endless. -/
def anyEntryEndless : List (Value × Value) → Bool
  | [] => false
  | (_, value) :: rest => isEndless value || anyEntryEndless rest

end

/-- Writes a table as a document. -/
def write (value : Value) : Except WriteError CodeText :=
  if isEndless value then .error .endless
  else
    (writeTables [] (withoutNulls value)).map fun tables =>
      (CodeText.ofString "\n").intercalate tables

end FoldMark.Toml
