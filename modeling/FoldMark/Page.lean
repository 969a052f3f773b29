import FoldMark.Extensions
import FoldMark.FrontMatter.Metadata
import FoldMark.Json.Writer
import FoldMark.Markdown.Document
import FoldMark.Outline
import FoldMark.Toml.Writer
import FoldMark.Yaml.Writer

/-!
# Pages

A document becomes a page: its front matter is taken off and decoded, the rest is read, the selected
headings fold, and the tokens are written as HTML. Definitions in front matter can be referred to
from the text. A page is written in an output format as its HTML alone or together with its
metadata.
-/

namespace FoldMark

open FrontMatter Markdown

/-- A rendered document. -/
structure Page where
  /-- The text as HTML. -/
  html : List Char
  /-- The front matter as it was found. -/
  frontMatter : Option FrontMatter
  /-- What the front matter holds. -/
  metadata : Value

namespace Page

/-- Why a document has no page. -/
inductive Error where
  /-- The front matter is not closed. -/
  | unclosed (error : Unclosed)
  /-- The decoder of the front matter stopped. -/
  | stopped (error : DecodeError)

/-- What the definitions in front matter let the text refer to. Of the lines of one label the first
counts, if its destination is safe. -/
def references (lines : List DefinitionLine) : References :=
  (groupByLabel lines).foldl (fun references (label, lines) =>
    match lines.head? with
    | none => references
    | some line =>
      let destination := Url.normalize line.destination
      if Url.isSafe destination then
        references.add (labelKey label) ⟨destination, line.title.getD []⟩
      else references) []

/-- What the text may refer to besides its own definitions. -/
def referencesOf : Option FrontMatter → References
  | some ⟨.refdef, payload, _, _⟩ => references (definitionLines payload)
  | _ => []

/-- The front matter of a document and its text. -/
def split (extensions : Extensions) (document : List Char) :
    Except Error (Option FrontMatter × List Char) :=
  if extensions.isStrict then (extract extensions.frontMatter document).mapError .unclosed
  else .ok (sniff extensions.frontMatter document)

/-- The HTML of a text. -/
def writeHtml (extensions : Extensions) (references : References) (text : List Char) : List Char :=
  let tokens := parse extensions.features references text
  Token.renderAll (Outline.transform tokens extensions.selector)

/-- Renders a document. -/
def render (extensions : Extensions) (document : List Char) : Except Error Page := do
  let (front, text) ← split extensions document
  let metadata ← (FrontMatter.metadata front).mapError .stopped
  return ⟨writeHtml extensions (referencesOf front) text, front, metadata⟩

/-- The metadata and the HTML of a page as one mapping. -/
def payload (page : Page) : Value :=
  .map none [(.str "front_matter", page.metadata), (.str "html", .str page.html)]

/-- Writes a page in an output format. -/
def write (page : Page) : PayloadFormat → Except WriteError CodeText
  | .html => .ok page.html
  | .json => Json.write page.payload
  | .yaml => (Yaml.write page.payload).map CodeText.ofChars
  | .toml => Toml.write page.payload

end Page

end FoldMark
