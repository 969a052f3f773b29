import FoldMark.Markdown.Document
import FoldMark.Proofs.Outline.Ownership

/-!
# Changes that folding does not see

Of running text, folding looks at the source alone: what the source was read as may be changed
before the blocks are folded or afterwards (`foldSelected_reword`, `split_map`). Putting emoji for
their names is such a change, so it neither makes nor ends a section: `emoji_keep_outline`.
-/

namespace FoldMark

namespace Markdown

/-- Forgets what a text says. -/
def Inline.withoutText : Inline → Inline
  | .text _ => .text []
  | item => item

/-- Forgets what the texts of running text say, and nothing else. -/
def Token.withoutTexts : Token → Token := Token.mapInline fun _ => List.map Inline.withoutText

/-- Putting emoji for their names changes what running text was read as. -/
theorem Emoji.replaceToken_eq (replace : List Char → List Char) :
    replaceToken replace = Token.mapInline fun _ => List.map (replaceItem replace) := by
  funext token
  cases token <;> rfl

/-- Putting emoji for their names changes nothing but what texts say. -/
theorem Emoji.withoutTexts_replaceToken (replace : List Char → List Char) (token : Token) :
    (replaceToken replace token).withoutTexts = token.withoutTexts := by
  cases token with
  | inline source content =>
    have same (item : Inline) : (replaceItem replace item).withoutText = item.withoutText := by
      cases item <;> rfl
    simp [replaceToken, Token.withoutTexts, Token.mapInline, same]
  | opening | closing | code | fence | html | rule | backReference => rfl

end Markdown

namespace Outline

open Markdown Text

/-! ## Nodes whose running text is changed -/

mutual

/-- Changes running text in a node. -/
def Node.reword (change : List Char → List Inline → List Inline) : Node → Node
  | .block tokens => .block (tokens.map (Token.mapInline change))
  | .fold heading body => .fold (heading.map (Token.mapInline change)) (rewordAll change body)

/-- Changes running text in nodes. -/
def rewordAll (change : List Char → List Inline → List Inline) : List Node → List Node
  | [] => []
  | node :: rest => node.reword change :: rewordAll change rest

end

/-- Changes running text in a block and leaves it where it is. -/
def Placement.reword (change : List Char → List Inline → List Inline) (place : Placement) :
    Placement :=
  { place with block := place.block.map (Token.mapInline change) }

variable (change : List Char → List Inline → List Inline) {selector : Selector}

/-- Nodes are changed one by one. -/
theorem rewordAll_eq_map (nodes : List Node) :
    rewordAll change nodes = nodes.map (Node.reword change) := by
  induction nodes with
  | nil => rfl
  | cons node rest hypothesis => rw [rewordAll, hypothesis, List.map_cons]

/-! ## What is read of a token -/

/-- Running text opens and closes nothing, whatever it was read as. -/
@[simp] theorem nesting_mapInline (token : Token) :
    (token.mapInline change).nesting = token.nesting := by
  cases token <;> rfl

/-- Running text starts no heading. -/
@[simp] theorem headingLevel?_mapInline (token : Token) :
    (token.mapInline change).headingLevel? = token.headingLevel? := by
  cases token <;> rfl

/-- The level of a heading is that of its first token. -/
@[simp] theorem headingLevel?_map (block : Block) :
    headingLevel? (block.map (Token.mapInline change)) = headingLevel? block := by
  cases block <;> simp [headingLevel?]

/-- The text of a heading is read from its source. -/
@[simp] theorem headingText_map (block : Block) :
    headingText (block.map (Token.mapInline change)) = headingText block := by
  rcases block with _ | ⟨first, _ | ⟨second, rest⟩⟩
  · rfl
  · rfl
  · cases second <;> rfl

/-- Footnotes are told by their first token. -/
@[simp] theorem isFootnotes_map (block : Block) :
    isFootnotes (block.map (Token.mapInline change)) = isFootnotes block := by
  cases block with
  | nil => rfl
  | cons first rest =>
    cases first with
    | opening element => cases element <;> rfl
    | closing | inline | code | fence | html | rule | backReference => rfl

/-- Blocks are cut by nesting, so items may be changed before they are cut or afterwards. -/
theorem splitFrom_map {α β : Type} {nesting : α → Int} {other : β → Int} {convert : α → β}
    (keeps : ∀ item, other (convert item) = nesting item) (depth : Int) (items : List α) :
    splitFrom other depth (items.map convert) =
      (splitFrom nesting depth items).map (List.map convert) := by
  induction items generalizing depth with
  | nil => rfl
  | cons item rest hypothesis =>
    rw [List.map_cons, splitFrom, splitFrom, keeps]
    by_cases closed : depth + nesting item = 0
    · rw [if_pos closed, if_pos closed, hypothesis]
      rfl
    · rw [if_neg closed, if_neg closed, hypothesis]
      cases splitFrom nesting (depth + nesting item) rest <;> rfl

/-- The blocks of a document whose running text is changed. -/
theorem ofTokens_map (tokens : List Token) :
    Node.ofTokens (tokens.map (Token.mapInline change)) =
      (Node.ofTokens tokens).map (Node.reword change) := by
  rw [Node.ofTokens, Node.ofTokens, split, split,
    splitFrom_map (nesting_mapInline change) 0 tokens, List.map_map, List.map_map]
  rfl

/-! ## Folding -/

/-- The block of a node. -/
theorem front_reword (node : Node) :
    (node.reword change).front = node.front.map (Token.mapInline change) := by
  cases node <;> rfl

/-- The same headings are selected. -/
theorem selectedLevel?_reword (node : Node) :
    (node.reword change).selectedLevel? selector = node.selectedLevel? selector := by
  cases node <;> simp [Node.reword, Node.selectedLevel?]

/-- The same nodes end a section. -/
theorem closes_reword (node : Node) (level : Nat) :
    (node.reword change).closes level = node.closes level := by
  cases node <;> simp [Node.reword, Node.closes]

/-- Running text may be changed before nodes are folded or afterwards. The section of a heading ends
at the same node either way. -/
theorem foldSelected_reword (nodes : List Node) :
    foldSelected selector (nodes.map (Node.reword change)) =
      (foldSelected selector nodes).map (Node.reword change) := by
  have sameEnd (level : Nat) : (fun next : Node => !next.closes level) ∘ Node.reword change =
      fun next => !next.closes level :=
    funext fun next => congrArg not (closes_reword change next level)
  induction nodes using foldSelected.induct selector with
  | case1 => simp
  | case2 node rest unselected hypothesis =>
    rw [List.map_cons, foldSelected_of_unselected _ unselected,
      foldSelected_of_unselected _ ((selectedLevel?_reword change node).trans unselected),
      hypothesis, List.map_cons]
  | case3 node rest level selected takenHypothesis droppedHypothesis =>
    rw [List.map_cons, foldSelected_of_selected _ selected,
      foldSelected_of_selected _ ((selectedLevel?_reword change node).trans selected),
      List.takeWhile_map, List.dropWhile_map, sameEnd, takenHypothesis, droppedHypothesis,
      front_reword, List.map_cons, Node.reword, rewordAll_eq_map]

/-- Running text may be changed before blocks are folded or afterwards, with a selector or
without. -/
theorem collapse_reword (nodes : List Node) (selector : Option Selector) :
    collapse (nodes.map (Node.reword change)) selector =
      (collapse nodes selector).map (Node.reword change) := by
  cases selector with
  | none => rfl
  | some selector => exact foldSelected_reword change nodes

mutual

/-- The blocks of a node stay where they are. -/
theorem Node.placements_reword (position : Nat) (around : List Nat) (node : Node) :
    (node.reword change).placements position around =
      (node.placements position around).map (Placement.reword change) := by
  cases node with
  | block tokens => rfl
  | fold heading body =>
    rw [Node.reword, Node.placements, Node.placements, rewordAll_eq_map,
      placements_reword (position + 1) (position :: around) body]
    rfl

/-- The blocks of nodes stay where they are. -/
theorem placements_reword (position : Nat) (around : List Nat) (nodes : List Node) :
    placements position around (nodes.map (Node.reword change)) =
      (placements position around nodes).map (Placement.reword change) := by
  cases nodes with
  | nil => rfl
  | cons node rest =>
    simp only [List.map_cons, placements, Node.placements_reword position around node,
      List.length_map, placements_reword _ around rest, List.map_append]

end

/-! ## Emoji -/

/-- Whatever is put for the names of emoji, nothing but what texts say is changed, and folding makes
the same sections: the nodes are those of the unchanged document with the same change in each of
them, so the block at a position is the heading of a section in both or in none, and it lies in the
sections of the same headings. -/
theorem emoji_keep_outline (replace : List Char → List Char) (tokens : List Token)
    (selector : Option Selector) :
    let changed := tokens.map (Emoji.replaceToken replace)
    let folded := collapse (Node.ofTokens tokens) selector
    let foldedChanged := collapse (Node.ofTokens changed) selector
    changed.map Token.withoutTexts = tokens.map Token.withoutTexts ∧
      foldedChanged = folded.map (Node.reword fun _ => List.map (Emoji.replaceItem replace)) ∧
      placements 0 [] foldedChanged = (placements 0 [] folded).map fun place =>
        { place with block := place.block.map (Emoji.replaceToken replace) } := by
  have commutes := collapse_reword (fun _ => List.map (Emoji.replaceItem replace))
    (Node.ofTokens tokens) selector
  rw [← ofTokens_map, ← Emoji.replaceToken_eq] at commutes
  refine ⟨?_, commutes, ?_⟩
  · rw [List.map_map]
    exact List.map_congr_left fun token _ => Emoji.withoutTexts_replaceToken replace token
  · rw [commutes, placements_reword, Emoji.replaceToken_eq]
    rfl

end Outline

end FoldMark
