import FoldMark.Text.Blank
import FoldMark.Text.Case
import FoldMark.Text.Class

/-!
# HTML in Markdown

`inlineSize?` recognises a tag, a comment, a declaration or the like at the front of running text,
and `HtmlBlock.startAt?` the line that begins a block of HTML, which tells how the block ends.
-/

namespace FoldMark.Markdown

open FoldMark.Text

namespace HtmlTag

/-- What stands before and after the first occurrence of a text. -/
def cutAtText (mark : List Char) : List Char → Option (List Char × List Char)
  | [] => if mark.isEmpty then some ([], []) else none
  | c :: rest =>
    if mark.isPrefixOf (c :: rest) then some ([], (c :: rest).drop mark.length)
    else (cutAtText mark rest).map fun (before, after) => (c :: before, after)

/-- Drops a text from the front. -/
def dropFront? (front text : List Char) : Option (List Char) :=
  if front.isPrefixOf text then some (text.drop front.length) else none

/-- Drops the name of a tag from the front. -/
def dropTagName? : List Char → Option (List Char)
  | c :: rest =>
    if isAsciiLetter c then some (rest.dropWhile fun d => isAsciiAlphanumeric d || d == '-')
    else none
  | [] => none

/-- Drops the name of an attribute from the front. -/
def dropAttributeName? : List Char → Option (List Char)
  | c :: rest =>
    if isAsciiLetter c || c == '_' || c == ':' then
      some (rest.dropWhile fun d => isAsciiAlphanumeric d || [':', '.', '_', '-'].contains d)
    else none
  | [] => none

/-- A character of an attribute value without quotes. -/
def isBare (c : Char) : Bool :=
  c.toNat > 0x20 && !(['"', '\'', '=', '<', '>', '\x60'] : List Char).contains c

/-- The texts from which leading blanks have been dropped, the whole text first. -/
def dropBlanks : List Char → List (List Char)
  | [] => [[]]
  | c :: rest => (c :: rest) :: if isBlank c then dropBlanks rest else []

/-- What can follow a value without quotes, the shortest value first: what is no part of a value, or
a blank. -/
def afterBare : List Char → List (List Char)
  | [] => [[]]
  | c :: rest =>
    if !isBare c then [c :: rest]
    else if isBlank c then (c :: rest) :: afterBare rest
    else afterBare rest

/-- What can follow an attribute value at the front of a text, the longest value first. -/
def afterValue : List Char → List (List Char)
  | [] => []
  | c :: rest =>
    if c == '"' || c == '\'' then
      match cutAt (· == c) rest with
      | some (_, after) => [after]
      | none => []
    else if isBare c then (afterBare rest).reverse
    else []

/-- Drops the end of an opening tag from the front: blanks, a slash and the bracket. -/
def dropTagEnd? (text : List Char) : Option (List Char) :=
  match trimLeft text with
  | '>' :: rest | '/' :: '>' :: rest => some rest
  | _ => none

/-- Drops attributes, of which there are at most `fuel`, and the end of the tag from the front.
Blanks before a value are no part of it, unless there is no other way to read the tag. -/
def dropAttributes? : Nat → List Char → Option (List Char)
  | 0, text => dropTagEnd? text
  | fuel + 1, text =>
    let inner := trimLeft text
    match (if inner.length < text.length then dropAttributeName? inner else none) with
    | none => dropTagEnd? text
    | some rest =>
      let valued := match trimLeft rest with
        | '=' :: after => (dropBlanks after).reverse.findSome? fun value =>
          (afterValue value).findSome? (dropAttributes? fuel)
        | _ => none
      valued.or (dropAttributes? fuel rest)

/-- Drops an opening tag from the front. -/
def dropOpening? : List Char → Option (List Char)
  | '<' :: rest => (dropTagName? rest).bind fun rest => dropAttributes? rest.length rest
  | _ => none

/-- Drops a closing tag from the front. -/
def dropClosing? : List Char → Option (List Char)
  | '<' :: '/' :: rest => do
    let rest ← dropTagName? rest
    match trimLeft rest with
    | '>' :: rest => some rest
    | _ => none
  | _ => none

/-- Drops the rest of a comment: a hyphen takes the next character with it, two hyphens the next
character unless it closes the comment. -/
def dropCommentBody? : List Char → Option (List Char)
  | [] => none
  | '-' :: '-' :: '>' :: rest => some rest
  | '-' :: '-' :: _ :: rest => dropCommentBody? rest
  | '-' :: _ :: rest => dropCommentBody? rest
  | c :: rest => if c == '-' then none else dropCommentBody? rest

/-- Drops a comment from the front. -/
def dropComment? (text : List Char) : Option (List Char) :=
  (dropFront? "<!-->".toList text).or <| (dropFront? "<!--->".toList text).or <|
    (dropFront? "<!--".toList text).bind dropCommentBody?

/-- Drops from the front what stands between two marks, with the marks. -/
def dropBetween? (start stop : String) (text : List Char) : Option (List Char) := do
  let rest ← dropFront? start.toList text
  let (_, after) ← cutAtText stop.toList rest
  some after

/-- Drops a declaration from the front. -/
def dropDeclaration? : List Char → Option (List Char)
  | '<' :: '!' :: c :: rest =>
    if isAsciiLetter c then (cutAt (· == '>') rest).map (·.2) else none
  | _ => none

/-- The size of the tag, comment, instruction, declaration or character data at the front of a
text. -/
def inlineSize? (text : List Char) : Option Nat :=
  ([dropOpening?, dropClosing?, dropComment?, dropBetween? "<?" "?>", dropDeclaration?,
      dropBetween? "<![CDATA[" "]]>"].findSome? fun drop => drop text).map fun rest =>
    text.length - rest.length

end HtmlTag

/-- How a block of HTML ends and whether it may interrupt a paragraph. -/
inductive HtmlBlock where
  /-- At the end of the line that holds one of the texts, in any case. -/
  | untilText (texts : List String)
  /-- Before a blank line; a block that starts with some tag interrupts no paragraph. -/
  | untilBlank (interrupts : Bool)

namespace HtmlBlock

open HtmlTag

/-- The elements whose content is no Markdown. -/
def rawNames : List String := ["script", "pre", "style", "textarea"]

/-- The elements that start a block on their own. -/
def blockNames : List String :=
  ["address", "article", "aside", "base", "basefont", "blockquote", "body", "caption", "center",
    "col", "colgroup", "dd", "details", "dialog", "dir", "div", "dl", "dt", "fieldset",
    "figcaption", "figure", "footer", "form", "frame", "frameset", "h1", "h2", "h3", "h4", "h5",
    "h6", "head", "header", "hr", "html", "iframe", "legend", "li", "link", "main", "menu",
    "menuitem", "nav", "noframes", "ol", "optgroup", "option", "p", "param", "search", "section",
    "summary", "table", "tbody", "td", "tfoot", "th", "thead", "title", "tr", "track", "ul"]

/-- Lower-case forms of ASCII letters; other characters stay. -/
def asciiLower (text : List Char) : List Char := text.map Char.toLower

/-- What follows one of the names at the front of a text, in any case, if it is a blank, the end
of the text or one of the given marks. -/
def startsWithName (names : List String) (marks : List String) (text : List Char) : Bool :=
  let text := asciiLower text
  names.any fun name =>
    match dropFront? name.toList text with
    | some [] => true
    | some (c :: rest) => isBlank c || marks.any fun mark => mark.toList.isPrefixOf (c :: rest)
    | none => false

/-- The block of HTML that a line starts. -/
def startAt? (line : List Char) : Option HtmlBlock :=
  match line with
  | '<' :: rest =>
    let name := match rest with
      | '/' :: name => name
      | _ => rest
    if startsWithName rawNames [">"] rest then
      some (.untilText (rawNames.map fun name => "</" ++ name ++ ">"))
    else if "!--".toList.isPrefixOf rest then some (.untilText ["-->"])
    else if "?".toList.isPrefixOf rest then some (.untilText ["?>"])
    else if (match rest with | '!' :: c :: _ => isAsciiLetter c | _ => false) then
      some (.untilText [">"])
    else if "![CDATA[".toList.isPrefixOf rest then some (.untilText ["]]>"])
    else if startsWithName blockNames [">", "/>"] name then some (.untilBlank true)
    else
      match (dropOpening? line).or (dropClosing? line) with
      | some after => if isBlankText after then some (.untilBlank false) else none
      | none => none
  | _ => none

/-- Whether a block may interrupt a paragraph. -/
def interrupts : HtmlBlock → Bool
  | .untilText _ => true
  | .untilBlank interrupts => interrupts

/-- Whether a block ends at a line. -/
def endsAt (block : HtmlBlock) (line : List Char) : Bool :=
  match block with
  | .untilText texts =>
    let line := asciiLower line
    texts.any fun text => (cutAtText text.toList line).isSome
  | .untilBlank _ => line.isEmpty

end HtmlBlock

end FoldMark.Markdown
