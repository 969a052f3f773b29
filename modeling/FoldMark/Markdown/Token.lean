import FoldMark.Markdown.Emoji.Table

/-!
# Tokens

A parsed document is a flat sequence of tokens. An element is an opening token, the tokens of its
content and a closing token; everything else is a single token. `Token.nesting` says which of the
three a token is, so an element's extent is read off the running sum. The running text of a block
is one token that carries its source and its inline content.
-/

namespace FoldMark.Markdown

/-- Attributes of an element in the order they are written. -/
abbrev Attributes := List (List Char × List Char)

/-- What encloses inline content. -/
inductive Span where
  /-- Emphasis. -/
  | emphasis
  /-- Strong emphasis. -/
  | strong
  /-- Struck-out text. -/
  | strikethrough
  /-- A link; an automatic one shows its own destination. -/
  | link (destination title : List Char) (isAutomatic : Bool)
  deriving DecidableEq, Repr

/-- A piece of inline content. -/
inductive Inline where
  /-- Text. -/
  | text (content : List Char)
  /-- Text that was written as an escape or a character reference. -/
  | literal (content : List Char)
  /-- A line end in the source. -/
  | softBreak
  /-- A line end in the document. -/
  | hardBreak
  /-- A code span. -/
  | code (content : List Char)
  /-- An HTML tag or comment. -/
  | html (content : List Char)
  /-- A picture, with the source and the content of its description. -/
  | image (destination title source : List Char) (description : List Inline)
  /-- A reference to a footnote: the note's index, and how many references to it come before. -/
  | footnoteMark (note earlier : Nat)
  /-- The start of a span. -/
  | opening (span : Span)
  /-- The end of a span. -/
  | closing (span : Span)
  deriving Repr

namespace Inline

mutual

/-- Whether two pieces of inline content are the same. -/
def same : Inline → Inline → Bool
  | .text content, .text other => content == other
  | .literal content, .literal other => content == other
  | .softBreak, .softBreak => true
  | .hardBreak, .hardBreak => true
  | .code content, .code other => content == other
  | .html content, .html other => content == other
  | .image destination title source content, .image destination' title' source' content' =>
    destination == destination' && title == title' && source == source' && allSame content content'
  | .footnoteMark note earlier, .footnoteMark note' earlier' => note == note' && earlier == earlier'
  | .opening span, .opening other => span == other
  | .closing span, .closing other => span == other
  | _, _ => false

/-- Whether two inline contents are the same. -/
def allSame : List Inline → List Inline → Bool
  | [], [] => true
  | item :: rest, other :: others => same item other && allSame rest others
  | _, _ => false

end

mutual

/-- The same pieces are equal. -/
theorem same_iff (item other : Inline) : same item other = true ↔ item = other := by
  cases item <;> cases other <;> simp [same, allSame_iff, and_assoc]

/-- The same contents are equal. -/
theorem allSame_iff (content others : List Inline) :
    allSame content others = true ↔ content = others := by
  cases content <;> cases others <;> simp [allSame, same_iff, allSame_iff]

end

instance : DecidableEq Inline := fun item other =>
  decidable_of_iff (same item other = true) (same_iff item other)

end Inline

/-- How the text of a table column is aligned. -/
inductive Alignment where
  /-- As the reader's program likes. -/
  | unset
  /-- To the left. -/
  | left
  /-- In the middle. -/
  | center
  /-- To the right. -/
  | right
  deriving DecidableEq, Repr

/-- What encloses blocks or running text. -/
inductive Element where
  /-- A paragraph. -/
  | paragraph
  /-- A heading of level one to six. -/
  | heading (level : Nat)
  /-- A quotation. -/
  | quotation
  /-- A list with bullets. -/
  | bulletList
  /-- A numbered list. -/
  | orderedList
  /-- An item of a list. -/
  | listItem
  /-- A table. -/
  | table
  /-- The head of a table. -/
  | tableHead
  /-- The body of a table. -/
  | tableBody
  /-- A row of a table. -/
  | tableRow
  /-- A cell in the head of a table. -/
  | headerCell
  /-- A cell in the body of a table. -/
  | cell
  /-- The definition of a footnote, where it stands in the source. -/
  | footnoteDefinition (label : List Char)
  /-- The footnotes at the end of a document. -/
  | footnotes
  /-- One footnote, by its index. -/
  | footnote (note : Nat)
  deriving DecidableEq, Repr

/-- A token of a document. -/
inductive Token where
  /-- The start of an element. A hidden element shows only its content. -/
  | opening (element : Element) (attributes : Attributes) (hidden : Bool)
  /-- The end of an element. -/
  | closing (element : Element) (hidden : Bool)
  /-- Running text: its source and what it was read as. -/
  | inline (source : List Char) (content : List Inline)
  /-- An indented code block. -/
  | code (content : List Char)
  /-- A fenced code block with the text after its opening fence. -/
  | fence (info content : List Char)
  /-- A block of HTML. -/
  | html (content : List Char)
  /-- A thematic break. -/
  | rule
  /-- A link from a footnote back to a reference. -/
  | backReference (note earlier : Nat)
  deriving DecidableEq, Repr

namespace Token

/-- One for a start, minus one for an end, and zero for a token on its own. -/
def nesting : Token → Int
  | .opening .. => 1
  | .closing .. => -1
  | _ => 0

/-- The start of a visible element without attributes. -/
def start (element : Element) : Token := .opening element [] false

/-- The end of a visible element. -/
def stop (element : Element) : Token := .closing element false

/-- Whether a token belongs to an element that shows only its content. -/
def isHidden : Token → Bool
  | .opening _ _ hidden | .closing _ hidden => hidden
  | _ => false

/-- The level of the heading that a token starts. -/
def headingLevel? : Token → Option Nat
  | .opening (.heading level) _ _ => some level
  | _ => none

end Token

namespace Attributes

/-- The value of an attribute. -/
def get? (attributes : Attributes) (name : List Char) : Option (List Char) := attributes.lookup name

/-- Gives an attribute a value; a new one is put at the end. -/
def set (attributes : Attributes) (name value : List Char) : Attributes :=
  if attributes.any (·.1 == name) then
    attributes.map fun entry => if entry.1 == name then (name, value) else entry
  else attributes ++ [(name, value)]

/-- Appends a value to an attribute, after a space if it has one. -/
def join (attributes : Attributes) (name value : List Char) : Attributes :=
  match attributes.get? name with
  | some former => attributes.set name (former ++ ' ' :: value)
  | none => attributes.set name value

end Attributes

/-- Which additions to the core of the language are read. -/
structure Features where
  /-- Tables. -/
  tables : Bool := false
  /-- Footnotes. -/
  footnotes : Bool := false
  /-- Struck-out text between double tildes. -/
  strikethrough : Bool := false
  /-- Check boxes at the start of list items. -/
  taskLists : Bool := false
  /-- Curly quotation marks, dashes and the like. -/
  smartPunctuation : Bool := false
  /-- Attributes in braces at the end of a heading. -/
  headingAttributes : Bool := false
  /-- Names of emoji between colons. -/
  emojiNames : Bool := false
  /-- The names of emoji. -/
  emoji : Emoji.Names := Emoji.common
  deriving DecidableEq, Repr

end FoldMark.Markdown
