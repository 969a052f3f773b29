import FoldMark.Markdown.Inline

/-!
# Footnotes

The definitions of footnotes leave the place where they stand, and the footnotes that are referred
to follow at the end of the document, in the order of first reference. A footnote links back to
each reference, within its last paragraph if it ends in one.
-/

namespace FoldMark.Markdown.Footnote

/-- The definitions taken out of a document. -/
structure Extraction where
  /-- The tokens that stay, back to front. -/
  kept : List Token := []
  /-- The content of definitions by label, the latest first. -/
  definitions : List (List Char × List Token) := []
  /-- The label of the latest definition. -/
  label : List Char := []
  /-- The content of the current definition, back to front. -/
  current : List Token := []
  /-- Whether the next token belongs to a definition. -/
  isInside : Bool := false

/-- Takes the next token into account. A definition within another ends the outer one. -/
def Extraction.step (state : Extraction) (token : Token) : Extraction :=
  match token with
  | .opening (.footnoteDefinition label) _ _ =>
    { state with label, current := [], isInside := true }
  | .closing (.footnoteDefinition _) _ =>
    { state with
      definitions := (state.label, state.current.reverse) :: state.definitions
      isInside := false }
  | token =>
    if state.isInside then { state with current := token :: state.current }
    else { state with kept := token :: state.kept }

/-- Takes the definitions out of a document. -/
def extract (tokens : List Token) : Extraction := tokens.foldl Extraction.step {}

/-- The content of a footnote. -/
def content (definitions : List (List Char × List Token)) : Note → List Token
  | .inline source content => [.start .paragraph, .inline source content, .stop .paragraph]
  | .defined label _ => (definitions.lookup label).getD []

/-- The number of references to a footnote. -/
def references : Note → Nat
  | .inline .. => 1
  | .defined _ count => max count 1

/-- Whether a token ends a paragraph. -/
def endsParagraph : Token → Bool
  | .closing .paragraph _ => true
  | _ => false

/-- The tokens of a footnote. -/
def tokens (definitions : List (List Char × List Token)) (index : Nat) (note : Note) : List Token :=
  let content := content definitions note
  let last := (content.getLast?.filter endsParagraph).toList
  .start (.footnote index) :: content.take (content.length - last.length) ++
    (List.range (references note)).map (.backReference index) ++ last ++
    [.stop (.footnote index)]

/-- Moves footnotes to the end. -/
def apply (notes : Notes) (document : List Token) : List Token :=
  let extraction := extract document
  let body := extraction.kept.reverse
  if notes.isEmpty then body
  else
    body ++ .start .footnotes ::
      (notes.toList.zipIdx.flatMap fun (note, index) => tokens extraction.definitions index note) ++
      [.stop .footnotes]

end FoldMark.Markdown.Footnote
