import FoldMark.Number.Literal
import FoldMark.Yaml.BlockText
import FoldMark.Yaml.PlainText
import FoldMark.Yaml.QuotedText

/-!
# Tokens

What a YAML text consists of below its structure: texts, the names of anchors and tags, directives
and signs. Each reader takes its token from a cursor and returns the cursor after it.
-/

namespace FoldMark.Yaml

open Cursor

/-- A kind of token, with what it holds. -/
inductive Token.Kind where
  /-- The end of the text. -/
  | streamEnd
  /-- The version of the language that a document is in. -/
  | version (major : Nat)
  /-- What a handle of tags stands for. -/
  | handle (name : List Char) (meaning : List Char)
  /-- A directive without a meaning. -/
  | directive
  /-- The start of a document. -/
  | documentStart
  /-- The end of a document. -/
  | documentEnd
  /-- The start of an indented list. -/
  | listStart
  /-- The start of an indented mapping. -/
  | mapStart
  /-- The end of an indented list or mapping. -/
  | blockEnd
  /-- An opening bracket. -/
  | flowListStart
  /-- A closing bracket. -/
  | flowListEnd
  /-- An opening brace. -/
  | flowMapStart
  /-- A closing brace. -/
  | flowMapEnd
  /-- The sign before an item of an indented list. -/
  | entry
  /-- The comma between items. -/
  | flowEntry
  /-- The sign before a key, which may not be written. -/
  | key
  /-- The sign before a value. -/
  | value
  /-- A reference to an anchor. -/
  | alias (name : List Char)
  /-- An anchor. -/
  | anchor (name : List Char)
  /-- A tag with its handle, if it has one. -/
  | tag (handle : Option (List Char)) (suffix : List Char)
  /-- A text, without quotes or not. -/
  | text (content : CodeText) (isPlain : Bool)
  deriving DecidableEq, Repr

/-- A token with its place. -/
structure Token where
  /-- What it is. -/
  kind : Token.Kind
  /-- Where it starts. -/
  start : Mark
  /-- Where it ends. -/
  stop : Mark
  deriving DecidableEq, Repr

namespace Token

/-- A character of the location that a tag is. -/
def isUriChar (c : Char) : Bool := isNameChar c || ";/?:@&=+$,.!~*'()[]%".toList.contains c

/-- Reads bytes written in hexadecimal digits, each after a percent sign. -/
def percentBytes : List Char → List UInt8 × Nat
  | '%' :: a :: b :: rest =>
    match Text.asciiDigit? 16 a, Text.asciiDigit? 16 b with
    | some high, some low =>
      let (bytes, size) := percentBytes rest
      ((high * 16 + low).toUInt8 :: bytes, size + 3)
    | _, _ => ([], 0)
  | _ => ([], 0)

/-- Reads a location, of at most `fuel` pieces. -/
def readUriWithin? : Nat → Cursor → Option (List Char × Cursor)
  | 0, cursor => some ([], cursor)
  | fuel + 1, cursor =>
    if cursor.peek == '%' then do
      let (bytes, size) := percentBytes cursor.rest
      let after := cursor.advance size
      if size = 0 || after.peek == '%' then none
      else
        match Text.Utf8.decode bytes with
        | .error _ => none
        | .ok chars =>
          let (more, cursor) ← readUriWithin? fuel after
          some (chars ++ more, cursor)
    else if isUriChar cursor.peek then do
      let (more, rest) ← readUriWithin? fuel cursor.step
      some (cursor.peek :: more, rest)
    else some ([], cursor)

/-- Reads a location, which is not empty. -/
def readUri? (cursor : Cursor) : Option (List Char × Cursor) :=
  if isUriChar cursor.peek then readUriWithin? (cursor.rest.length + 1) cursor else none

/-- Reads the handle of a tag: an exclamation mark, or a name between two. -/
def readHandle? (cursor : Cursor) : Option (List Char × Cursor) :=
  if cursor.peek != '!' then none
  else if cursor.step.peek == ' ' then some (['!'], cursor.step)
  else
    let (name, cursor) := cursor.step.span isNameChar
    if cursor.peek == '!' then some ('!' :: name ++ ['!'], cursor.step) else none

/-- Reads a tag. -/
def readTag? (cursor : Cursor) : Option (Kind × Cursor) := do
  let next := cursor.peekAt 1
  let (kind, cursor) ←
    if next == '<' then do
      let (uri, cursor) ← readUri? (cursor.advance 2)
      if cursor.peek == '>' then some (Kind.tag none uri, cursor.step) else none
    else if isGap next then some (.tag none ['!'], cursor.step)
    else do
      let word := cursor.step.rest.takeWhile fun c => !isSpaceEnd c
      let (handle, cursor) ←
        if word.contains '!' then readHandle? cursor else some (['!'], cursor.step)
      let (suffix, cursor) ← readUri? cursor
      some (Kind.tag (some handle) suffix, cursor)
  if isSpaceEnd cursor.peek then some (kind, cursor) else none

/-- Reads the name after the sign of an anchor or of a reference to one. -/
def readName? (cursor : Cursor) : Option (List Char × Cursor) :=
  let (name, cursor) := cursor.step.span isNameChar
  let c := cursor.peek
  if !name.isEmpty && (isGap c || "?:,]\x7d%@`".toList.contains c) then some (name, cursor)
  else none

/-- Reads a decimal number. -/
def readNumber? (cursor : Cursor) : Option (Nat × Cursor) :=
  let (digits, cursor) := cursor.span Char.isDigit
  if digits.isEmpty || digits.length > Number.maxDigits then none
  else some (Number.ofDigits 10 Number.digit digits, cursor)

/-- Reads the version of the language. -/
def readVersion? (cursor : Cursor) : Option (Kind × Cursor) := do
  let (major, cursor) ← readNumber? cursor.skipSpaces
  if cursor.peek != '.' then none
  let (_, cursor) ← readNumber? cursor.step
  if isSpaceEnd cursor.peek then some (.version major, cursor) else none

/-- Reads what a handle stands for. -/
def readMeaning? (cursor : Cursor) : Option (Kind × Cursor) := do
  let (name, cursor) ← readHandle? cursor.skipSpaces
  if cursor.peek != ' ' then none
  let (meaning, cursor) ← readUri? cursor.skipSpaces
  if isSpaceEnd cursor.peek then some (.handle name meaning, cursor) else none

/-- Reads a directive with its line. -/
def readDirective? (cursor : Cursor) : Option (Kind × Cursor) := do
  let (name, cursor) := cursor.step.span isNameChar
  if name.isEmpty || !isSpaceEnd cursor.peek then none
  let (kind, cursor) ←
    if name == "YAML".toList then readVersion? cursor
    else if name == "TAG".toList then readMeaning? cursor
    else some (.directive, cursor.skipLine)
  let cursor ← cursor.endOfLine?
  some (kind, cursor)

end Token

end FoldMark.Yaml
