import FoldMark.Markdown.Token
import FoldMark.Text.Blank

/-!
# Heading attributes

A heading may end in a block `{#id .class key=value}`, which becomes the attributes of the heading
and leaves its text. A block counts only if every item in it is recognised, and an item is
recognised on its own: `parseItem?` reads one, `parse?` the whole block.
-/

namespace FoldMark.Markdown.HeadingAttributes

open FoldMark.Text

/-- The name of the attribute that identifies an element. -/
def idName : List Char := ['i', 'd']

/-- The name of the attribute that classifies an element. -/
def className : List Char := ['c', 'l', 'a', 's', 's']

/-- Drops quotation marks from both ends. -/
def unquote (value : List Char) : List Char :=
  let isQuote (c : Char) : Bool := c == '"' || c == '\''
  dropTrailing isQuote (value.dropWhile isQuote)

/-- Reads an item: an identifier, a class, or a key with a value. -/
def parseItem? (item : List Char) : Option (List Char × List Char) :=
  match item with
  | '#' :: c :: rest => some (idName, c :: rest)
  | '.' :: c :: rest => some (className, c :: rest)
  | _ =>
    match cutAt (· == '=') item with
    | some ([], _) | none => none
    | some (key, value) => some (key, unquote value)

/-- Reads the items of a block, of which there is at least one. -/
def parse? (spec : List Char) : Option Attributes :=
  match (words spec).mapM parseItem? with
  | none | some [] => none
  | some attributes => some attributes

/-- Gives a heading one more attribute; classes add up, and of other attributes the last counts. -/
def assign (attributes : Attributes) (entry : List Char × List Char) : Attributes :=
  if entry.1 == className then attributes.join entry.1 entry.2 else attributes.set entry.1 entry.2

/-- Splits the block off the end of a text: what stands before it, without blanks at the end, and
what stands between the braces. -/
def splitBlock? (text : List Char) : Option (List Char × List Char) :=
  match text.reverse.dropWhile isBlank with
  | '\x7d' :: rest =>
    let isBrace (c : Char) : Bool := c == '\x7b' || c == '\x7d'
    match cutAt isBrace rest with
    | some (spec, before) =>
      if rest[spec.length]? == some '\x7b' then
        some ((before.dropWhile isBlank).reverse, spec.reverse)
      else none
    | none => none
  | _ => none

/-- The characters of a piece of text, whether it was written as such or not. -/
def textOf? : Inline → Option (List Char)
  | .text content | .literal content => some content
  | _ => none

/-- Splits the attributes off the end of a heading's content. -/
def split? (content : List Inline) : Option (List Inline × Attributes) := do
  let tail := (content.reverse.takeWhile fun item => (textOf? item).isSome).reverse
  let (before, spec) ← splitBlock? (tail.filterMap textOf?).flatten
  let attributes ← parse? spec
  let head := content.take (content.length - tail.length)
  some (if before.isEmpty then head else head ++ [.text before], attributes)

/-- The source of a heading without the block at its end. -/
def dropBlock (source : List Char) : List Char :=
  match splitBlock? source with
  | some (before, _) => before
  | none => source

/-- Moves the blocks at the end of headings to the headings. -/
def apply : List Token → List Token
  | .opening (.heading level) attributes hidden :: .inline source content :: rest =>
    match split? content with
    | some (content, added) =>
      .opening (.heading level) (added.foldl assign attributes) hidden ::
        .inline (dropBlock source) content :: apply rest
    | none => .opening (.heading level) attributes hidden :: .inline source content :: apply rest
  | token :: rest => token :: apply rest
  | [] => []

end FoldMark.Markdown.HeadingAttributes
