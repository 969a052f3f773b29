import FoldMark.Markdown.Token
import FoldMark.Text.Blank

/-!
# Lines of a document

A block is read from a range of lines. Quotations and list items are read by narrowing the lines
they hold, so that their content sees a document of its own: a `Scope` is the view of one nesting
level, and going a level down makes a new scope and leaves the old one alone.
-/

namespace FoldMark.Markdown

open FoldMark.Text

/-- The column after a tab that starts in the given column. -/
def tabStop (column : Nat) : Nat := column + (4 - column % 4)

/-- One line as a nesting level sees it. -/
structure Line where
  /-- Where the line starts in the source, after the marks of what encloses it. -/
  start : Nat
  /-- Where the line ends in the source. -/
  stop : Nat
  /-- Spaces and tabs between the start and the text. -/
  shift : Nat
  /-- The column of the text. A negative one marks a line that can only continue a paragraph. -/
  indent : Int
  /-- Columns taken by the marks of what encloses the line. -/
  offset : Nat
  deriving Repr, Inhabited

namespace Line

/-- Where the text of a line starts. -/
def textStart (line : Line) : Nat := line.start + line.shift

/-- Whether a line holds no text. -/
def isBlank (line : Line) : Bool := line.textStart ≥ line.stop

/-- The lines of a source from a position. A last line without end counts only if it holds text. -/
def ofTexts : Nat → List (List Char) → List Line
  | _, [] => []
  | start, text :: rest =>
    let space := text.takeWhile isSpaceOrTab
    let indent := space.foldl (fun column c => if c == '\t' then tabStop column else column + 1) 0
    let size := if text.getLast? == some '\n' then text.length - 1 else text.length
    if rest.isEmpty && space.length = text.length then []
    else ⟨start, start + size, space.length, indent, 0⟩ :: ofTexts (start + text.length) rest

end Line

/-- The view that a nesting level has of the document. -/
structure Scope where
  /-- The whole source. -/
  source : Array Char
  /-- The lines of the source. -/
  lines : Array Line
  /-- Lines that a paragraph may reach. -/
  last : Nat
  /-- The column where the content of the enclosing list item or footnote starts. -/
  blockIndent : Nat := 0
  /-- The column of the enclosing list. -/
  listIndent : Option Nat := none
  /-- The additions to the language. -/
  features : Features

namespace Scope

/-- The view of a whole document. -/
def ofSource (features : Features) (source : List Char) : Scope :=
  let lines := (Line.ofTexts 0 (Text.lines source)).toArray
  { source := source.toArray, lines, last := lines.size, features }

/-- A line; past the end, an empty one. -/
def line (scope : Scope) (n : Nat) : Line :=
  scope.lines.getD n ⟨scope.source.size, scope.source.size, 0, 0, 0⟩

/-- The characters between two positions of the source. -/
def slice (scope : Scope) (start stop : Nat) : List Char := (scope.source.extract start stop).toList

/-- The character at a position. -/
def char? (scope : Scope) (position : Nat) : Option Char := scope.source[position]?

/-- The text of a line. -/
def text (scope : Scope) (n : Nat) : List Char :=
  let line := scope.line n
  scope.slice line.textStart line.stop

/-- The text of a line with its end. -/
def textWithEnd (scope : Scope) (n : Nat) : List Char :=
  let line := scope.line n
  scope.slice line.textStart (line.stop + 1)

/-- Whether a line is blank. -/
def isBlank (scope : Scope) (n : Nat) : Bool := (scope.line n).isBlank

/-- Whether a line is indented as code is. -/
def isCode (scope : Scope) (n : Nat) : Bool := (scope.line n).indent - scope.blockIndent ≥ 4

/-- Whether a line lies left of the enclosing content. -/
def isOutdented (scope : Scope) (n : Nat) : Bool := (scope.line n).indent < scope.blockIndent

/-- The first line that is not blank, looking at no more than `count` lines. -/
def skipBlankWithin (scope : Scope) : Nat → Nat → Nat
  | 0, n => n
  | count + 1, n =>
    if n < scope.last && scope.isBlank n then skipBlankWithin scope count (n + 1) else n

/-- The first line from a line on that is not blank. -/
def skipBlank (scope : Scope) (n : Nat) : Nat := scope.skipBlankWithin (scope.last - n) n

/-- Drops the columns up to `width` from the front of a line. Within the first `shift` characters
the marks of what encloses the line count as a column too. A tab that reaches past the width leaves
spaces. -/
def dropColumns (offset width : Nat) : Nat → Nat → List Char → List Char
  | column, _, [] => List.replicate (column - width) ' '
  | column, shift, c :: rest =>
    if column ≥ width then List.replicate (column - width) ' ' ++ c :: rest
    else if c == '\t' then
      dropColumns offset width (column + (4 - (column + offset) % 4)) (shift - 1) rest
    else if c == ' ' || shift > 0 then dropColumns offset width (column + 1) (shift - 1) rest
    else c :: rest

/-- The lines of a range without their first `width` columns; `keepEnd` tells whether the end of
the last line is kept. -/
def content (scope : Scope) (first stop width : Nat) (keepEnd : Bool) : List Char :=
  (List.range (stop - first)).flatMap fun i =>
    let line := scope.line (first + i)
    let isInner := first + i + 1 < stop || keepEnd
    dropColumns line.offset width 0 line.shift
      (scope.slice line.start (if isInner then line.stop + 1 else line.stop))

/-- Replaces a line in a copy of the view. -/
def withLine (scope : Scope) (n : Nat) (line : Line) : Scope :=
  { scope with lines := scope.lines.setIfInBounds n line }

end Scope

end FoldMark.Markdown
