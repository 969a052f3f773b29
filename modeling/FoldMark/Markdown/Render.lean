import FoldMark.Markdown.Entity
import FoldMark.Markdown.Token

/-!
# HTML of a document

Each token is written on its own; only line ends look at the tokens beside it. A block element
starts and ends its line, except that no line end stands between an element and its running text,
or within an empty element.
-/

namespace FoldMark.Markdown

open FoldMark.Text

/-- Writes the characters that HTML reserves as references. -/
def escapeHtml (text : List Char) : List Char :=
  text.flatMap fun c =>
    match c with
    | '&' => "&amp;".toList
    | '<' => "&lt;".toList
    | '>' => "&gt;".toList
    | '"' => "&quot;".toList
    | c => [c]

namespace Attributes

/-- Writes attributes, each after a space. -/
def render (attributes : Attributes) : List Char :=
  attributes.flatMap fun (name, value) =>
    ' ' :: escapeHtml name ++ "=\"".toList ++ escapeHtml value ++ ['"']

end Attributes

namespace Span

/-- The tag of a span. -/
def tag : Span → List Char
  | .emphasis => "em".toList
  | .strong => "strong".toList
  | .strikethrough => "s".toList
  | .link .. => "a".toList

/-- The attributes of a span. -/
def attributes : Span → Attributes
  | .link destination title _ =>
    ("href".toList, destination) :: if title.isEmpty then [] else [("title".toList, title)]
  | _ => []

end Span

/-- The number of a footnote, counted from one. -/
def noteNumber (note : Nat) : List Char := (toString (note + 1)).toList

/-- What tells apart the references to one footnote; the first has none. -/
def repeatMark (earlier : Nat) : List Char :=
  if earlier = 0 then [] else ':' :: (toString earlier).toList

namespace Inline

mutual

/-- The text that stands for a piece of content in the description of a picture. -/
def plainText : Inline → List Char
  | .text content | .code content | .html content => content
  | .image _ _ _ description => plainTexts description
  | .softBreak | .hardBreak => ['\n']
  | .literal _ | .footnoteMark .. | .opening _ | .closing _ => []

/-- The text that stands for a content in the description of a picture. -/
def plainTexts : List Inline → List Char
  | [] => []
  | item :: rest => plainText item ++ plainTexts rest

end

/-- Writes a piece of content. -/
def render : Inline → List Char
  | .text content | .literal content => escapeHtml content
  | .softBreak => ['\n']
  | .hardBreak => "<br />\n".toList
  | .code content => "<code>".toList ++ escapeHtml content ++ "</code>".toList
  | .html content => content
  | .image destination title _ description =>
    let attributes : Attributes :=
      [("src".toList, destination), ("alt".toList, plainTexts description)] ++
        if title.isEmpty then [] else [("title".toList, title)]
    "<img".toList ++ attributes.render ++ " />".toList
  | .footnoteMark note earlier =>
    let anchor := noteNumber note ++ repeatMark earlier
    "<sup class=\"footnote-ref\"><a href=\"#fn".toList ++ noteNumber note ++
      "\" id=\"fnref".toList ++
      anchor ++ "\">[".toList ++ anchor ++ "]</a></sup>".toList
  | .opening span => '<' :: span.tag ++ span.attributes.render ++ ['>']
  | .closing span => "</".toList ++ span.tag ++ ['>']

end Inline

namespace Element

/-- The tag of an element; footnotes have none of their own. -/
def tag : Element → List Char
  | .paragraph => "p".toList
  | .heading level => 'h' :: (toString level).toList
  | .quotation => "blockquote".toList
  | .bulletList => "ul".toList
  | .orderedList => "ol".toList
  | .listItem => "li".toList
  | .table => "table".toList
  | .tableHead => "thead".toList
  | .tableBody => "tbody".toList
  | .tableRow => "tr".toList
  | .headerCell => "th".toList
  | .cell => "td".toList
  | .footnoteDefinition _ | .footnotes | .footnote _ => []

end Element

namespace Token

/-- The class that names the language of a fenced code block. -/
def languageAttributes (info : List Char) : Attributes :=
  match spacedWords (Entity.unescape info) with
  | [] => []
  | language :: _ => [("class".toList, "language-".toList ++ language)]

/-- Whether a line ends between the start of an element and the token after it. -/
def breaksAfterStart (element : Element) : Option Token → Bool
  | some (.inline ..) => false
  | some (.closing other hidden) => !hidden && other.tag != element.tag
  | some token => !token.isHidden
  | none => true

/-- Writes a token that stands between two others. -/
def render (before after : Option Token) (token : Token) : List Char :=
  let gap : List Char := if before.any isHidden then ['\n'] else []
  match token with
  | .opening .footnotes _ _ =>
    ("<hr class=\"footnotes-sep\" />\n<section class=\"footnotes\">\n" ++
      "<ol class=\"footnotes-list\">\n").toList
  | .closing .footnotes _ => "</ol>\n</section>\n".toList
  | .opening (.footnote note) _ _ =>
    "<li id=\"fn".toList ++ noteNumber note ++ "\" class=\"footnote-item\">".toList
  | .closing (.footnote _) _ => "</li>\n".toList
  | .opening element attributes hidden =>
    if hidden then []
    else
      gap ++ '<' :: element.tag ++ attributes.render ++
        if breaksAfterStart element after then ">\n".toList else ['>']
  | .closing element hidden =>
    if hidden then [] else "</".toList ++ element.tag ++ ">\n".toList
  | .inline _ content => content.flatMap Inline.render
  | .code content => "<pre><code>".toList ++ escapeHtml content ++ "</code></pre>\n".toList
  | .fence info content =>
    "<pre><code".toList ++ (languageAttributes info).render ++ '>' :: escapeHtml content ++
      "</code></pre>\n".toList
  | .html content => content
  | .rule => gap ++ "<hr />\n".toList
  | .backReference note earlier =>
    " <a href=\"#fnref".toList ++ noteNumber note ++ repeatMark earlier ++
      "\" class=\"footnote-backref\">\u21A9\uFE0E</a>".toList

/-- Writes tokens after another. -/
def renderFrom : Option Token → List Token → List Char
  | _, [] => []
  | before, token :: rest => render before rest.head? token ++ renderFrom (some token) rest

/-- Writes a document. -/
def renderAll (tokens : List Token) : List Char := renderFrom none tokens

end Token

end FoldMark.Markdown
