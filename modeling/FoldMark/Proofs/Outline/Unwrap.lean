import FoldMark.Outline

/-!
# Unwrapped sections

What is left when every section is replaced by its heading and what it holds. Folding only puts
blocks into sections: `unwrap_collapse` says that one pass of folding changes nothing of what is
left, whatever has been folded before, and `unwrap_collapseAll` that no sequence of passes does. The
blocks of a document therefore hold its tokens after any number of passes.
-/

namespace FoldMark.Outline

open Markdown

mutual

/-- The blocks of a node, a heading before those of its section. -/
def Node.unwrap : Node → List Block
  | .block tokens => [tokens]
  | .fold heading body => heading :: unwrap body

/-- The blocks of nodes, with the sections dissolved. -/
def unwrap : List Node → List Block
  | [] => []
  | node :: rest => node.unwrap ++ unwrap rest

end

/-- Folds with one selector after the other. -/
def collapseAll (nodes : List Node) (selectors : List (Option Selector)) : List Node :=
  selectors.foldl collapse nodes

/-! ## Unwrapping -/

variable {selector : Selector} {node : Node}

/-- Nothing holds no blocks. -/
@[simp] theorem unwrap_nil : unwrap [] = [] := by
  rw [unwrap]

/-- The blocks of a node come before those of the nodes after it. -/
@[simp] theorem unwrap_cons (node : Node) (rest : List Node) :
    unwrap (node :: rest) = node.unwrap ++ unwrap rest := by
  rw [unwrap]

/-- A section is its heading and what it holds. -/
@[simp] theorem unwrap_fold (heading : Block) (body : List Node) :
    (Node.fold heading body).unwrap = heading :: unwrap body := by
  rw [Node.unwrap]

/-- A block is left as it is. -/
@[simp] theorem unwrap_block (tokens : Block) : (Node.block tokens).unwrap = [tokens] := by
  rw [Node.unwrap]

/-- Nodes can be unwrapped in parts. -/
theorem unwrap_append (front back : List Node) :
    unwrap (front ++ back) = unwrap front ++ unwrap back := by
  induction front with
  | nil => simp
  | cons node rest hypothesis => simp [hypothesis]

/-- Blocks without sections are left as they are. -/
theorem unwrap_map_block (blocks : List Block) : unwrap (blocks.map .block) = blocks := by
  induction blocks with
  | nil => simp
  | cons block rest hypothesis => simp [hypothesis]

/-! ## Folding -/

/-- What is selected is a block, for a section is never selected. -/
theorem unwrap_of_selected {level : Nat} (selected : node.selectedLevel? selector = some level) :
    node.unwrap = [node.front] := by
  cases node with
  | block tokens => exact unwrap_block tokens
  | fold heading body => cases selected

/-- Folding the selected headings keeps the blocks and their order. The section of a heading and
the nodes behind it are a cut of the nodes after the heading. -/
theorem unwrap_foldSelected (selector : Selector) (nodes : List Node) :
    unwrap (foldSelected selector nodes) = unwrap nodes := by
  induction nodes using foldSelected.induct selector with
  | case1 => rw [foldSelected_nil]
  | case2 node rest unselected hypothesis =>
    rw [foldSelected_of_unselected rest unselected, unwrap_cons, unwrap_cons, hypothesis]
  | case3 node rest level selected takenHypothesis droppedHypothesis =>
    have cut : unwrap (rest.takeWhile fun next => !next.closes level) ++
        unwrap (rest.dropWhile fun next => !next.closes level) = unwrap rest := by
      rw [← unwrap_append, List.takeWhile_append_dropWhile]
    rw [foldSelected_of_selected rest selected, unwrap_cons, unwrap_fold, takenHypothesis,
      droppedHypothesis, List.cons_append, cut, unwrap_cons, unwrap_of_selected selected,
      List.singleton_append]

/-- A pass of folding keeps the blocks and their order. -/
theorem unwrap_collapse (nodes : List Node) (selector : Option Selector) :
    unwrap (collapse nodes selector) = unwrap nodes := by
  cases selector with
  | none => rfl
  | some selector => exact unwrap_foldSelected selector nodes

/-- The blocks of a document hold its tokens. -/
theorem flatten_unwrap_ofTokens (tokens : List Token) :
    (unwrap (Node.ofTokens tokens)).flatten = tokens := by
  rw [Node.ofTokens, unwrap_map_block, flatten_split]

/-- No number of passes loses, doubles or moves a block. -/
theorem unwrap_collapseAll (selectors : List (Option Selector)) (nodes : List Node) :
    unwrap (collapseAll nodes selectors) = unwrap nodes := by
  induction selectors generalizing nodes with
  | nil => rfl
  | cons selector rest hypothesis =>
    calc unwrap (collapseAll nodes (selector :: rest))
        = unwrap (collapseAll (collapse nodes selector) rest) := rfl
      _ = unwrap (collapse nodes selector) := hypothesis _
      _ = unwrap nodes := unwrap_collapse nodes selector

/-- Folding keeps every block in its place. However often nodes are folded, and by whatever
selectors, their blocks are the ones from before; so the blocks of a document hold its tokens in
their order after any number of passes. -/
theorem blocks_kept_by_folding (selectors : List (Option Selector)) :
    (∀ nodes, unwrap (collapseAll nodes selectors) = unwrap nodes) ∧
      ∀ tokens, (unwrap (collapseAll (Node.ofTokens tokens) selectors)).flatten = tokens := by
  refine ⟨unwrap_collapseAll selectors, fun tokens => ?_⟩
  rw [unwrap_collapseAll, flatten_unwrap_ofTokens]

end FoldMark.Outline
