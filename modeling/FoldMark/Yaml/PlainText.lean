import FoldMark.Yaml.Cursor

/-!
# Texts without quotes

A text without quotes ends before a colon or a comment that follows it, within brackets also before
a comma or a bracket, and where a line is not indented enough. Its lines are joined by spaces, and
blank lines between them become line feeds.
-/

namespace FoldMark.Yaml.PlainText

open Cursor

/-- A character that divides a list or mapping between brackets. -/
def isFlowMark (c : Char) : Bool := c == ',' || c == '[' || c == ']' || c == '\x7b' || c == '\x7d'

/-- The size of the word at the front. -/
def wordSize (inFlow : Bool) : List Char → Nat
  | [] => 0
  | c :: rest =>
    let next := rest.headD '\x00'
    let ends := isGap c || (c == ':' && (isGap next || (inFlow && isFlowMark next))) ||
      (inFlow && (isFlowMark c || c == '?'))
    if ends then 0 else wordSize inFlow rest + 1

/-- Passes blank lines and the indentation of the next line, in at most `fuel` steps. There is no
result if a line starts or ends a document. -/
def blankLines? : Nat → Cursor → Option (List Char × Cursor)
  | 0, cursor => some ([], cursor)
  | fuel + 1, cursor =>
    let cursor := cursor.skipSpaces
    if isBreak cursor.peek then
      let (chars, cursor) := cursor.lineBreak
      if cursor.atDocumentLine then none
      else (blankLines? fuel cursor).map fun (more, cursor) => (chars ++ more, cursor)
    else some ([], cursor)

/-- What joins the text before some spaces and line ends to the text after them. -/
structure Joint where
  /-- What stands between the texts; nothing if the text ends. -/
  chars : List Char
  /-- What follows. -/
  cursor : Cursor
  /-- Whether a line ended. -/
  hasBreak : Bool

/-- Passes spaces and line ends. -/
def joint (cursor : Cursor) : Joint :=
  let (spaces, cursor) := cursor.span (· == ' ')
  if isBreak cursor.peek then
    let (first, cursor) := cursor.lineBreak
    if cursor.atDocumentLine then ⟨[], cursor, true⟩
    else
      match blankLines? cursor.rest.length cursor with
      | none => ⟨[], cursor, true⟩
      | some (more, cursor) =>
        let chars := if first != ['\n'] then first ++ more else if more.isEmpty then [' '] else more
        ⟨chars, cursor, true⟩
  else ⟨spaces, cursor, false⟩

/-- A text as it was read. -/
structure Found where
  /-- The text. -/
  text : List Char
  /-- What follows. -/
  cursor : Cursor
  /-- Whether it ends with a line. -/
  endsLine : Bool

/-- Reads a text from a cursor, of at most `fuel` words, given what joins the first to those
before. -/
def readFrom (inFlow : Bool) (indent : Int) : Nat → List Char → Bool → Cursor → Found
  | 0, _, endsLine, cursor => ⟨[], cursor, endsLine⟩
  | fuel + 1, before, endsLine, cursor =>
    let size := if cursor.peek == '#' then 0 else wordSize inFlow cursor.rest
    if size = 0 then ⟨[], cursor, endsLine⟩
    else
      let text := before ++ cursor.rest.take size
      let joint := joint (cursor.advance size)
      let isLast := joint.chars.isEmpty || joint.cursor.peek == '#' ||
        (!inFlow && (joint.cursor.mark.column : Int) < indent)
      if isLast then ⟨text, joint.cursor, joint.hasBreak⟩
      else
        let found := readFrom inFlow indent fuel joint.chars joint.hasBreak joint.cursor
        ⟨text ++ found.text, found.cursor, found.endsLine⟩

/-- Reads a text whose later lines have the given indentation at least. -/
def read (inFlow : Bool) (indent : Int) (cursor : Cursor) : Found :=
  readFrom inFlow indent cursor.rest.length [] false cursor

end FoldMark.Yaml.PlainText
