import FoldMark.Markdown.Block
import FoldMark.Markdown.Emoji
import FoldMark.Markdown.Footnote
import FoldMark.Markdown.HeadingAttributes
import FoldMark.Markdown.Inline
import FoldMark.Markdown.Render
import FoldMark.Markdown.TaskList
import FoldMark.Markdown.Typography

/-!
# Documents

A document is read in two passes: its blocks first, which collects the definitions, then the running
text of every block, in order. The additions to the language follow, each a function on tokens.
-/

namespace FoldMark.Markdown

open FoldMark.Text

/-- Writes line ends as line feeds and puts the replacement character for null characters. -/
def normalizeSource (source : List Char) : List Char :=
  (normalizeNewlines source).map fun c => if c == '\x00' then '\uFFFD' else c

/-- Reads running text wherever a token holds some. -/
def readInlines (read : Inline.Nested) : List Token → Notes → List Token × Notes
  | [], notes => ([], notes)
  | .inline source _ :: rest, notes =>
    let (content, notes) := read source notes
    let (rest, notes) := readInlines read rest notes
    (.inline source content :: rest, notes)
  | token :: rest, notes =>
    let (rest, notes) := readInlines read rest notes
    (token :: rest, notes)

namespace Inline

/-- Takes literal characters for text. -/
def asText : Inline → Inline
  | .literal content => .text content
  | item => item

/-- Takes literal characters for text, also in the description of a picture. -/
def settleItem : Inline → Inline
  | .literal content => .text content
  | .image destination title source description =>
    .image destination title source (joinTexts (description.map asText))
  | item => item

/-- Takes literal characters for text and joins adjacent texts. -/
def settle (content : List Inline) : List Inline := joinTexts (content.map settleItem)

end Inline

namespace Token

/-- Changes running text. -/
def mapInline (change : List Char → List Inline → List Inline) : Token → Token
  | .inline source content => .inline source (change source content)
  | token => token

end Token

/-- Reads a document, whose labels may also refer to the given references. -/
def parse (features : Features) (references : References) (document : List Char) : List Token :=
  let draft := readDraft features references (normalizeSource document)
  let (tokens, notes) :=
    readInlines (Inline.read features draft.references draft.notes) draft.tokens.toList #[]
  let tokens := if features.headingAttributes then HeadingAttributes.apply tokens else tokens
  let tokens := if features.taskLists then TaskList.apply tokens else tokens
  let tokens := Footnote.apply notes tokens
  let tokens :=
    if features.smartPunctuation then tokens.map (Token.mapInline Typography.apply) else tokens
  let tokens := tokens.map (Token.mapInline fun _ => Inline.settle)
  if features.emojiNames then Emoji.apply features.emoji tokens else tokens

end FoldMark.Markdown
