import FoldMark.Text.Class

/-!
# Places in a YAML text

A cursor is what is left of a text, with the place that it starts at. The null character, which no
readable text holds, stands for what follows the end.
-/

namespace FoldMark.Yaml

/-- A place in a text, counted from zero. -/
structure Mark where
  /-- The characters before it. -/
  index : Nat
  /-- The lines before it. -/
  line : Nat
  /-- The characters before it on its line. -/
  column : Nat
  deriving DecidableEq, Repr

/-- A character that ends a line. -/
def isBreak (c : Char) : Bool :=
  c == '\r' || c == '\n' || c == '\u0085' || c == '\u2028' || c == '\u2029'

/-- The end of a line or of the text. -/
def isLineEnd (c : Char) : Bool := c == '\x00' || isBreak c

/-- What separates words: a space, or the end of a line or of the text. -/
def isSpaceEnd (c : Char) : Bool := c == ' ' || isLineEnd c

/-- What separates tokens: also a tab. -/
def isGap (c : Char) : Bool := c == '\t' || isSpaceEnd c

/-- A letter, a digit, a hyphen or a low line, all in ASCII. -/
def isNameChar (c : Char) : Bool := Text.isAsciiAlphanumeric c || c == '-' || c == '_'

/-- A character that a readable text can hold. -/
def isReadable (c : Char) : Bool :=
  let n := c.toNat
  c == '\t' || c == '\n' || c == '\r' || (0x20 ≤ n && n ≤ 0x7E) || n == 0x85 ||
    (0xA0 ≤ n && n ≤ 0xD7FF) || (0xE000 ≤ n && n ≤ 0xFFFD) || 0x10000 ≤ n

/-- What is left of a text. -/
structure Cursor where
  /-- The characters. -/
  rest : List Char
  /-- Where they start. -/
  mark : Mark
  deriving DecidableEq, Repr

namespace Cursor

/-- The start of a text. -/
def ofText (text : List Char) : Cursor := ⟨text, ⟨0, 0, 0⟩⟩

/-- The character at a distance. -/
def peekAt (cursor : Cursor) (distance : Nat) : Char := cursor.rest.getD distance '\x00'

/-- The next character. -/
def peek (cursor : Cursor) : Char := cursor.peekAt 0

/-- Whether the text starts with the given one. -/
def startsWith (cursor : Cursor) (text : String) : Bool := text.toList.isPrefixOf cursor.rest

/-- The place after a character, given the one that follows it. A byte order mark takes no
column. -/
def markAfter (mark : Mark) (c next : Char) : Mark :=
  if isBreak c && !(c == '\r' && next == '\n') then ⟨mark.index + 1, mark.line + 1, 0⟩
  else ⟨mark.index + 1, mark.line, mark.column + if c == '\uFEFF' then 0 else 1⟩

/-- Passes a character. -/
def step (cursor : Cursor) : Cursor :=
  match cursor.rest with
  | [] => cursor
  | c :: rest => ⟨rest, markAfter cursor.mark c (rest.headD '\x00')⟩

/-- Passes some characters. -/
def advance : Nat → Cursor → Cursor
  | 0, cursor => cursor
  | count + 1, cursor => advance count cursor.step

/-- The longest start whose characters satisfy a test, and what follows it. -/
def span (test : Char → Bool) (cursor : Cursor) : List Char × Cursor :=
  let taken := cursor.rest.takeWhile test
  (taken, cursor.advance taken.length)

/-- Passes characters that satisfy a test. -/
def skipWhile (test : Char → Bool) (cursor : Cursor) : Cursor := (cursor.span test).2

/-- Passes spaces. -/
def skipSpaces (cursor : Cursor) : Cursor := cursor.skipWhile (· == ' ')

/-- Passes the rest of a line but not its end. -/
def skipLine (cursor : Cursor) : Cursor := cursor.skipWhile fun c => !isLineEnd c

/-- Passes the end of a line. It stands for a line feed, but for the Unicode separators. -/
def lineBreak (cursor : Cursor) : List Char × Cursor :=
  let c := cursor.peek
  if c == '\r' && cursor.peekAt 1 == '\n' then (['\n'], cursor.advance 2)
  else if c == '\u2028' || c == '\u2029' then ([c], cursor.step)
  else if isBreak c then (['\n'], cursor.step)
  else ([], cursor)

/-- Whether a line that starts or ends a document stands here. -/
def atDocumentLine (cursor : Cursor) : Bool :=
  (cursor.startsWith "---" || cursor.startsWith "...") && isGap (cursor.peekAt 3)

/-- Passes what may follow on a line that is otherwise complete: spaces and a comment. -/
def endOfLine? (cursor : Cursor) : Option Cursor :=
  let cursor := cursor.skipSpaces
  let cursor := if cursor.peek == '#' then cursor.skipLine else cursor
  if isLineEnd cursor.peek then some cursor.lineBreak.2 else none

end Cursor

namespace Mark

/-- From how many characters on a line is not all shown to a side. -/
def reach : Nat := 37

/-- The columns before a shown line. -/
def shownIndent : Nat := 4

/-- What stands for a part of a line that is not shown. -/
def ellipsis : List Char := " ... ".toList

/-- The end of a line before a place that is shown, after a mark if it is not all. -/
def shownBefore (before : List Char) : List Char :=
  let line := (before.reverse.takeWhile fun c => !isLineEnd c).reverse
  if line.length < reach then line
  else ellipsis ++ line.drop (line.length - reach + ellipsis.length)

/-- The start of a line after a place that is shown, with a mark after it if it is not all. -/
def shownAfter (after : List Char) : List Char :=
  let line := after.takeWhile fun c => !isLineEnd c
  if line.length < reach then line else line.take (reach - ellipsis.length) ++ ellipsis

/-- The line of a place in a text, with a caret below the place. -/
def shownLine (mark : Mark) (text : List Char) : List Char :=
  let before := shownBefore (text.take mark.index)
  List.replicate shownIndent ' ' ++ before ++ shownAfter (text.drop mark.index) ++
    '\n' :: List.replicate (shownIndent + before.length) ' ' ++ ['^']

/-- A place in words, with its line. -/
def shown (mark : Mark) (text : List Char) : List Char :=
  ("  in \"<unicode string>\", line " ++ toString (mark.line + 1) ++ ", column " ++
    toString (mark.column + 1) ++ ":\n").toList ++ mark.shownLine text

end Mark

end FoldMark.Yaml
