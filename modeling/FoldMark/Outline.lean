import FoldMark.Markdown.Render
import FoldMark.Markdown.Token
import FoldMark.Selector

/-!
# Folding sections

The tokens of a document are cut into top-level blocks. A heading that is selected takes the blocks
after it, up to the next heading of its level or a higher one or to the footnotes, and becomes a
section that can be folded; the blocks it takes are folded in turn. Flattening writes sections as
`details` elements and gives back a sequence of tokens.
-/

namespace FoldMark.Outline

open Markdown Text

/-- Cuts a sequence where the sum of nestings reaches zero; `depth` is the sum so far. -/
def splitFrom {α : Type} (nesting : α → Int) : Int → List α → List (List α)
  | _, [] => []
  | depth, item :: rest =>
    let depth := depth + nesting item
    if depth = 0 then [item] :: splitFrom nesting 0 rest
    else
      match splitFrom nesting depth rest with
      | [] => [[item]]
      | block :: blocks => (item :: block) :: blocks

/-- Cuts a sequence into the shortest blocks whose nestings sum to zero. -/
def split {α : Type} (nesting : α → Int) (items : List α) : List (List α) :=
  splitFrom nesting 0 items

/-- Cutting loses nothing and keeps the order. -/
theorem flatten_splitFrom {α : Type} (nesting : α → Int) (depth : Int) (items : List α) :
    (splitFrom nesting depth items).flatten = items := by
  induction items generalizing depth with
  | nil => rfl
  | cons item rest hypothesis =>
    have kept := hypothesis (depth + nesting item)
    by_cases closed : depth + nesting item = 0
    · have fresh := hypothesis 0
      simp [splitFrom, closed, fresh]
    · simp only [splitFrom, if_neg closed]
      cases blocks : splitFrom nesting (depth + nesting item) rest with
      | nil =>
        rw [blocks] at kept
        simp [← kept]
      | cons block others =>
        rw [blocks] at kept
        simp [← kept]

/-- The blocks of a sequence, one after the other, are the sequence. -/
theorem flatten_split {α : Type} (nesting : α → Int) (items : List α) :
    (split nesting items).flatten = items := flatten_splitFrom nesting 0 items

/-- The tokens of one top-level block. -/
abbrev Block := List Token

/-- A block, or a heading with the nodes that it owns. -/
inductive Node where
  /-- A block. -/
  | block (tokens : Block)
  /-- A section. -/
  | fold (heading : Block) (body : List Node)

/-- The level of a heading. -/
def headingLevel? (block : Block) : Option Nat := block.head?.bind Token.headingLevel?

/-- The source of a heading's text. -/
def headingText : Block → List Char
  | _ :: .inline source _ :: _ => trim source
  | _ => []

/-- Whether a block is the footnotes of a document. -/
def isFootnotes : Block → Bool
  | .opening .footnotes _ _ :: _ => true
  | _ => false

namespace Node

/-- The nodes of a document. -/
def ofTokens (tokens : List Token) : List Node := (split Token.nesting tokens).map .block

/-- Whether a node ends the section of a heading of some level. -/
def closes (node : Node) (level : Nat) : Bool :=
  match node with
  | .block tokens => isFootnotes tokens || (headingLevel? tokens).any (· ≤ level)
  | .fold .. => false

/-- The level of a heading that a selector selects. -/
def selectedLevel? (selector : Selector) : Node → Option Nat
  | .block tokens =>
    (headingLevel? tokens).filter fun level => selector.selects level (headingText tokens)
  | .fold .. => none

/-- The block of a node, or the heading of a section. -/
def front : Node → Block
  | .block tokens => tokens
  | .fold heading _ => heading

end Node

/-- Folds the sections of the selected headings. -/
def foldSelected (selector : Selector) : List Node → List Node
  | [] => []
  | node :: rest =>
    match node.selectedLevel? selector with
    | none => node :: foldSelected selector rest
    | some level =>
      .fold node.front (foldSelected selector (rest.takeWhile fun next => !next.closes level)) ::
        foldSelected selector (rest.dropWhile fun next => !next.closes level)
termination_by nodes => nodes.length
decreasing_by
  · simp
  · exact Nat.lt_succ_of_le (List.takeWhile_sublist _).length_le
  · exact Nat.lt_succ_of_le (List.dropWhile_sublist _).length_le

/-- Nothing folds to nothing. -/
@[simp] theorem foldSelected_nil (selector : Selector) : foldSelected selector [] = [] := by
  rw [foldSelected]

/-- A node that is not selected stays as it is. -/
theorem foldSelected_of_unselected {selector : Selector} {node : Node} (rest : List Node)
    (unselected : node.selectedLevel? selector = none) :
    foldSelected selector (node :: rest) = node :: foldSelected selector rest := by
  rw [foldSelected, unselected]

/-- A selected heading takes the nodes up to the first that closes its level. -/
theorem foldSelected_of_selected {selector : Selector} {node : Node} {level : Nat}
    (rest : List Node) (selected : node.selectedLevel? selector = some level) :
    foldSelected selector (node :: rest) =
      .fold node.front (foldSelected selector (rest.takeWhile fun next => !next.closes level)) ::
        foldSelected selector (rest.dropWhile fun next => !next.closes level) := by
  rw [foldSelected, selected]

/-- Folds the sections of the selected headings, if there is a selector. -/
def collapse (nodes : List Node) : Option Selector → List Node
  | none => nodes
  | some selector => foldSelected selector nodes

/-- The attribute that identifies a heading, if it is not empty. -/
def anchor? : Block → Option (List Char)
  | .opening _ attributes _ :: _ => (attributes.get? ['i', 'd']).filter (!·.isEmpty)
  | _ => none

/-- What a section starts with. -/
def summaryStart (heading : Block) : Token :=
  let details : List Char :=
    match anchor? heading with
    | some anchor => "<details id=\"".toList ++ escapeHtml anchor ++ "\">".toList
    | none => "<details>".toList
  .html (details ++ "\n<summary>".toList)

/-- What follows the heading of a section. -/
def summaryStop : Token := .html "</summary>\n".toList

/-- What a section ends with. -/
def detailsStop : Token := .html "</details>\n".toList

/-- The running text of a heading. -/
def headingInline (heading : Block) : List Token := (heading.drop 1).take 1

mutual

/-- The tokens of a node. -/
def Node.tokens : Node → List Token
  | .block tokens => tokens
  | .fold heading body =>
    summaryStart heading :: headingInline heading ++ summaryStop :: flatten body ++ [detailsStop]

/-- The tokens of nodes. -/
def flatten : List Node → List Token
  | [] => []
  | node :: rest => node.tokens ++ flatten rest

end

/-- Folds the selected sections of a document. -/
def transform (tokens : List Token) : Option Selector → List Token
  | none => tokens
  | some selector => flatten (collapse (Node.ofTokens tokens) (some selector))

end FoldMark.Outline
