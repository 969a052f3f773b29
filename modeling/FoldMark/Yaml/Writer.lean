import FoldMark.Yaml.Form
import FoldMark.Yaml.TextStyle

/-!
# Writing YAML

Lists and mappings are written with one item a line and by indentation, but for empty ones. A list
that is the value of a key is not indented deeper than the key. A key that is empty, long or of
several lines is written after a question mark.
-/

namespace FoldMark.Yaml

open TextStyle

/-- How much deeper a level is indented. -/
def levelWidth : Nat := 2

/-- How many characters a key with its anchor and tag must not reach to be written before its
colon. -/
def maxSimpleKey : Nat := 128

/-- Where a node is written. -/
structure Spot where
  /-- The indentation of what is around it; there is none around the whole. -/
  indent : Option Nat
  /-- The column. -/
  column : Nat
  /-- Whether nothing but signs stands before it on its line. -/
  startsLine : Bool
  /-- Whether it is part of a mapping. -/
  inMapping : Bool

namespace Spot

/-- The place of a whole document. -/
def start : Spot := ⟨none, 0, true, false⟩

/-- What separates a word from what stands before it on its line. -/
def gap (spot : Spot) : List Char := if spot.column = 0 then [] else [' ']

/-- The place after a word. -/
def after (spot : Spot) (word : List Char) : Spot :=
  { spot with column := spot.column + (spot.gap ++ word).length, startsLine := false }

/-- The indentation of the lines of a text after the first. -/
def textIndent (spot : Spot) : Nat := spot.indent.getD 0 + levelWidth

/-- The indentation of a mapping. -/
def mapIndent (spot : Spot) : Nat :=
  match spot.indent with
  | none => 0
  | some indent => indent + levelWidth

/-- The indentation of a list. -/
def listIndent (spot : Spot) : Nat :=
  match spot.indent with
  | none => 0
  | some indent => if spot.inMapping && !spot.startsLine then indent else indent + levelWidth

/-- What stands before the first item of an indentation. -/
def lead (spot : Spot) (indent : Nat) : List Char :=
  if spot.startsLine then spaces (indent - spot.column) else newLine indent

end Spot

/-- The short name of a tag. -/
def Tag.short : Tag → List Char
  | .other name => '!' :: '<' :: name ++ ['>']
  | tag =>
    let known := Tag.names.find? fun entry => entry.2 == tag
    '!' :: '!' :: ((known.map (·.1)).getD "").toList

/-- The name of an anchor. -/
def anchorName (anchor : Nat) : List Char := "id".toList ++ padded 3 anchor

/-- A style of writing a text. -/
inductive Style where
  /-- Without quotes. -/
  | plain
  /-- Between single quotes. -/
  | single
  /-- Between double quotes. -/
  | double
  /-- Indented, under a sign. -/
  | block
  deriving DecidableEq, Repr

/-- The style of a text; a key is written on one line, and half a surrogate pair as an escape. -/
def Style.of (tag : Tag) (text : CodeText) (isBlock isKey : Bool) : Style :=
  match text.chars? with
  | none => .double
  | some chars =>
    if !isBlock && tag == Tag.ofText chars && allowsPlain chars && !(isKey && chars.isEmpty) then
      .plain
    else if isBlock && !isKey && !chars.isEmpty then .block
    else if allowsSingle chars && !(isKey && isMultiline chars) then .single
    else .double

/-- Whether a text is written with its tag. -/
def needsTag (style : Style) (tag : Tag) : Bool := style != .plain && tag != .str

/-- What stands before a node: its anchor, and its tag if it is written. -/
def properties (anchor : Option Nat) (tag : Option Tag) : List (List Char) :=
  (anchor.toList.map fun anchor => '&' :: anchorName anchor) ++ tag.toList.map Tag.short

/-- Writes words at a place, and gives the place after them. -/
def writeWords (spot : Spot) : List (List Char) → List Char × Spot
  | [] => ([], spot)
  | word :: rest =>
    let (text, after) := writeWords (spot.after word) rest
    (spot.gap ++ word ++ text, after)

/-- The lines of an indented text, each with its end. -/
def writeLines (indent : Nat) (chars : List Char) : List Char :=
  (Text.lines chars).flatMap fun line => spaces indent ++ line

/-- Writes a text in a style. -/
def writeStyled (spot : Spot) (style : Style) (text : CodeText) (isKey : Bool) : List Char :=
  let folding : Folding := ⟨!isKey, spot.textIndent⟩
  let column := spot.column + spot.gap.length
  spot.gap ++
    match style with
    | .plain => plain folding column text.toList
    | .single => single folding column text.toList
    | .double => double folding column text
    | .block => '|' :: '\n' :: writeLines spot.textIndent text.toList

/-- Writes a text with its anchor and tag. -/
def writeText (spot : Spot) (anchor : Option Nat) (tag : Tag) (text : CodeText)
    (isBlock isKey : Bool) : List Char :=
  let style := Style.of tag text isBlock isKey
  let (before, spot) :=
    writeWords spot (properties anchor (if needsTag style tag then some tag else none))
  before ++ writeStyled spot style text isKey

/-- Ends the line of an item unless it ended with it. -/
def endLine (item : List Char) : List Char :=
  if item.getLast? == some '\n' then item else item ++ ['\n']

/-- Joins items of which each starts a line. -/
def joinItems (indent : Nat) : List (List Char) → List Char
  | [] => []
  | [item] => item
  | item :: rest => endLine item ++ spaces indent ++ joinItems indent rest

/-- The characters that a key takes with its anchor and its tag. -/
def keySize (anchor : Option Nat) (tag : Tag) (text : CodeText) : Nat :=
  (properties anchor (some tag)).flatten.length + text.length

/-- Whether a key is written before its colon. -/
def isSimpleKey : Form → Bool
  | .alias _ => true
  | .text anchor tag text _ =>
    keySize anchor tag text < maxSimpleKey && !text.isEmpty && !isMultiline text.toList
  | .list _ items => items.isEmpty
  | .map _ _ entries => entries.isEmpty

/-- Writes a key before its colon. -/
def writeSimpleKey (spot : Spot) : Form → List Char
  | .alias anchor => '*' :: anchorName anchor
  | .text anchor tag text isBlock => writeText spot anchor tag text isBlock true
  | .list .. => ['[', ']']
  | .map .. => ['\x7b', '\x7d']

mutual

/-- Writes a node at a place. -/
def writeForm (spot : Spot) : Form → List Char
  | .alias anchor => spot.gap ++ '*' :: anchorName anchor
  | .text anchor tag text isBlock => writeText spot anchor tag text isBlock false
  | .list anchor items =>
    let (before, spot) := writeWords spot (properties anchor none)
    let indent := spot.listIndent
    before ++
      if items.isEmpty then spot.gap ++ ['[', ']']
      else spot.lead indent ++ joinItems indent (writeFormItems indent items)
  | .map anchor isSet entries =>
    let (before, spot) := writeWords spot (properties anchor (if isSet then some .set else none))
    let indent := spot.mapIndent
    before ++
      if entries.isEmpty then spot.gap ++ ['\x7b', '\x7d']
      else spot.lead indent ++ joinItems indent (writeFormEntries indent entries)

/-- Writes the items of a list, each from its sign on. -/
def writeFormItems (indent : Nat) : List Form → List (List Char)
  | [] => []
  | item :: rest =>
    ('-' :: writeForm ⟨some indent, indent + 1, true, false⟩ item) :: writeFormItems indent rest

/-- Writes the entries of a mapping, each from its key on. -/
def writeFormEntries (indent : Nat) : List (Form × Form) → List (List Char)
  | [] => []
  | (key, value) :: rest =>
    let entry :=
      if isSimpleKey key then
        let name := writeSimpleKey ⟨some indent, 0, true, true⟩ key ++ [':']
        name ++ writeForm ⟨some indent, indent + name.length, false, true⟩ value
      else
        let spot : Spot := ⟨some indent, indent + 1, true, true⟩
        endLine ('?' :: writeForm spot key) ++ spaces indent ++ ':' :: writeForm spot value
    entry :: writeFormEntries indent rest

end

/-- Writes a value as a document. -/
def write (value : Value) : Except WriteError (List Char) :=
  (Form.of value).map fun form => endLine (writeForm Spot.start form)

end FoldMark.Yaml
