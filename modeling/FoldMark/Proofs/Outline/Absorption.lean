import FoldMark.Outline

/-!
# Passes that change nothing

When a pass of folding leaves nodes as they are. It does so exactly if it selects none of them
(`foldSelected_eq_self_iff`); what lies in a section is not looked at again. A pass leaves no node
behind that it selects, because what it selects becomes a section and sections are never selected
(`unselected_of_mem_foldSelected`). So a pass for some headings is absorbed by an earlier one for at
least those (`collapse_absorbs`), and passes are idempotent.
-/

namespace FoldMark

namespace Selector

/-- A selector selects every heading that another one does. -/
def Covers (wide narrow : Selector) : Prop :=
  ∀ level text, narrow.selects level text = true → wide.selects level text = true

/-- A selector covers itself. -/
theorem Covers.refl (selector : Selector) : selector.Covers selector := fun _ _ selected => selected

/-- A selector covers those of fewer levels that it is not narrowed against. -/
theorem covers_of_subset {wide narrow : Selector} (levels : narrow.levels ⊆ wide.levels)
    (text : wide.text = none ∨ wide.text = narrow.text) : wide.Covers narrow := by
  intro level source selected
  simp only [selects, Bool.and_eq_true, List.contains_iff_mem] at selected ⊢
  refine ⟨levels selected.1, ?_⟩
  rcases text with none | same
  · rw [none, Option.all_none]
  · rw [same]
    exact selected.2

end Selector

namespace Outline

open Markdown

variable {selector wide narrow : Selector} {node : Node} {nodes : List Node}

/-- What a selector selects, one that covers it selects at the same level. -/
theorem selectedLevel?_of_covers {level : Nat} (covers : wide.Covers narrow)
    (selected : node.selectedLevel? narrow = some level) :
    node.selectedLevel? wide = some level := by
  cases node with
  | block tokens =>
    obtain ⟨leveled, matched⟩ := Option.filter_eq_some_iff.mp selected
    exact Option.filter_eq_some_iff.mpr ⟨leveled, covers _ _ matched⟩
  | fold heading body => cases selected

/-- What a selector does not select, none that it covers does. -/
theorem unselected_of_covers (covers : wide.Covers narrow)
    (unselected : node.selectedLevel? wide = none) : node.selectedLevel? narrow = none := by
  cases selected : node.selectedLevel? narrow with
  | none => rfl
  | some level =>
    rw [selectedLevel?_of_covers covers selected] at unselected
    cases unselected

/-- A pass leaves no node that it selects, whatever had been folded before. -/
theorem unselected_of_mem_foldSelected (member : node ∈ foldSelected selector nodes) :
    node.selectedLevel? selector = none := by
  induction nodes using foldSelected.induct selector with
  | case1 =>
    rw [foldSelected_nil] at member
    cases member
  | case2 first rest unselected hypothesis =>
    rw [foldSelected_of_unselected rest unselected] at member
    rcases List.mem_cons.mp member with rfl | later
    · exact unselected
    · exact hypothesis later
  | case3 first rest level selected _ droppedHypothesis =>
    rw [foldSelected_of_selected rest selected] at member
    rcases List.mem_cons.mp member with rfl | later
    · rfl
    · exact droppedHypothesis later

/-- A pass changes nothing exactly if it selects none of the nodes. -/
theorem foldSelected_eq_self_iff :
    foldSelected selector nodes = nodes ↔
      ∀ node ∈ nodes, node.selectedLevel? selector = none := by
  constructor
  · intro same node member
    exact unselected_of_mem_foldSelected (same ▸ member)
  · intro unselected
    induction nodes with
    | nil => exact foldSelected_nil selector
    | cons node rest hypothesis =>
      rw [List.forall_mem_cons] at unselected
      rw [foldSelected_of_unselected rest unselected.1, hypothesis unselected.2]

/-- A pass is absorbed by an earlier one that selects at least the same headings. Whatever blocks
and sections there are, folding them for one selector and then for a second one that selects no
further headings is folding them for the first; in particular, folding twice is folding once. -/
theorem collapse_absorbs (nodes : List Node) :
    (∀ wide narrow : Selector, wide.Covers narrow →
        collapse (collapse nodes (some wide)) (some narrow) = collapse nodes (some wide)) ∧
      ∀ selector : Option Selector,
        collapse (collapse nodes selector) selector = collapse nodes selector := by
  have absorbs : ∀ wide narrow : Selector, wide.Covers narrow →
      collapse (collapse nodes (some wide)) (some narrow) = collapse nodes (some wide) := by
    intro wide narrow covers
    refine foldSelected_eq_self_iff.mpr fun node member => ?_
    exact unselected_of_covers covers (unselected_of_mem_foldSelected member)
  refine ⟨absorbs, fun selector => ?_⟩
  cases selector with
  | none => rfl
  | some selector => exact absorbs selector selector (Selector.Covers.refl selector)

/-- The selector of all levels from the second on. -/
def fromSecond : Selector := ⟨[2, 3, 4, 5, 6], none, rfl, by decide⟩

/-- The selector of third headings with one text. -/
def thirdNamed (text : List Char) : Selector := ⟨[3], some text, rfl, by decide⟩

/-- A third heading that has been put into a section is not folded for its text any more, nor is one
in a section that was there before. -/
theorem collapse_absorbs_thirdNamed :
    let heading (level : Nat) : Block :=
      [.start (.heading level), .inline ['a'] [], .stop (.heading level)]
    let nodes : List Node :=
      [.fold (heading 4) [.block (heading 3)], .block (heading 3), .block [.rule]]
    fromSecond.Covers (thirdNamed ['a']) ∧
      collapse (collapse nodes (some fromSecond)) (some (thirdNamed ['a'])) =
        collapse nodes (some fromSecond) := by
  intro heading nodes
  have covers : fromSecond.Covers (thirdNamed ['a']) :=
    Selector.covers_of_subset (by decide) (Or.inl rfl)
  exact ⟨covers, (collapse_absorbs nodes).1 _ _ covers⟩

end Outline

end FoldMark
