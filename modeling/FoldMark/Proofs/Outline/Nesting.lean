import FoldMark.Proofs.Outline.Ownership
import FoldMark.Proofs.Outline.Unwrap
import Mathlib

/-!
# Nesting of sections

What a section can hold after several passes of folding. A pass puts free blocks and whole sections
of earlier passes into new sections (`deepens_foldSelected`), and what a section of some level takes
freely is no footnotes and no heading of that level or a higher one. A section of an earlier pass,
however, ends no section: a heading in front of it takes it whatever its level
(`not_isNested_of_earlier_section`). So a single pass nests sections by their levels
(`isNested_collapse`), and after any number of passes the only headings that lie in a section of
their own level or a lower one are those that had been folded before that section was
(`nested_unless_folded_before`).
-/

namespace FoldMark.Outline

open Markdown

/-! ## Places -/

namespace Placement

/-- A place, seen from around further sections. -/
def within (outer : List Nat) (place : Placement) : Placement :=
  { place with around := place.around ++ outer }

/-- A block that is in no section and is the heading of none. -/
def IsFree (place : Placement) : Prop := place.isHeading = false ∧ place.around = []

end Placement

mutual

/-- The sections around a node are around each of its blocks. -/
theorem Node.placements_append (position : Nat) (inner outer : List Nat) (node : Node) :
    node.placements position (inner ++ outer) =
      (node.placements position inner).map (Placement.within outer) := by
  cases node with
  | block tokens => rfl
  | fold heading body =>
    have held := placements_append (position + 1) (position :: inner) outer body
    simp only [Node.placements, List.map_cons, ← held]
    rfl

/-- The sections around nodes are around each of their blocks. -/
theorem placements_append (position : Nat) (inner outer : List Nat) (nodes : List Node) :
    placements position (inner ++ outer) nodes =
      (placements position inner nodes).map (Placement.within outer) := by
  cases nodes with
  | nil => rfl
  | cons node rest =>
    have first := node.placements_append position inner outer
    have others := placements_append
      (position + (node.placements position inner).length) inner outer rest
    simp only [placements, first, List.map_append, List.length_map, others]

end

/-- The blocks of a section lie in that section. -/
theorem placements_singleton (position outer : Nat) (nodes : List Node) :
    placements position [outer] nodes =
      (placements position [] nodes).map (Placement.within [outer]) :=
  placements_append position [] [outer] nodes

/-- The blocks of nodes that follow others are placed behind them. -/
theorem placements_append_nodes (position : Nat) (front back : List Node) :
    placements position [] (front ++ back) =
      placements position [] front ++
        placements (position + (placements position [] front).length) [] back := by
  induction front generalizing position with
  | nil => simp [placements]
  | cons node rest hypothesis =>
    simp only [List.cons_append, placements, hypothesis, List.length_append, Nat.add_assoc,
      List.append_assoc]

/-- A free block is a node of its own. -/
theorem block_mem_of_isFree {position : Nat} {nodes : List Node} {place : Placement}
    (member : place ∈ placements position [] nodes) (free : place.IsFree) :
    .block place.block ∈ nodes := by
  induction nodes generalizing position with
  | nil => cases member
  | cons node rest hypothesis =>
    rcases List.mem_append.mp member with first | later
    · cases node with
      | block tokens =>
        obtain rfl : place = ⟨tokens, false, []⟩ := by simpa [Node.placements] using first
        exact List.mem_cons_self
      | fold heading body =>
        rw [Node.placements, placements_singleton] at first
        rcases List.mem_cons.mp first with rfl | held
        · cases free.1
        · obtain ⟨inner, _, rfl⟩ := List.mem_map.mp held
          cases List.append_ne_nil_of_right_ne_nil _ (List.cons_ne_nil _ _) free.2
    · exact List.mem_cons_of_mem _ (hypothesis later)

/-! ## One pass -/

/-- A pass makes the block at an offset the heading of a section that reaches a block: it was free,
has a level, and did not have to end before that block if that was free as well. -/
def Takes (before after : List Placement) (offset : Nat) (old : Placement) : Prop :=
  ∃ heading level folded, before[offset]? = some heading ∧ heading.IsFree ∧
    headingLevel? heading.block = some level ∧ after[offset]? = some folded ∧
      folded.isHeading = true ∧ (old.IsFree → ¬ Closes old.block level)

/-- What a pass does to one place: the block stays, and sections are put around those that it lies
in already. -/
structure Moves (start : Nat) (before after : List Placement) (old new : Placement) : Prop where
  /-- The block is the same. -/
  block_eq : new.block = old.block
  /-- The heading of a section stays one. -/
  isHeading_of : old.isHeading = true → new.isHeading = true
  /-- A new section starts with a heading that was free. -/
  of_isHeading : new.isHeading = true →
    old.isHeading = true ∨ ∃ level, headingLevel? old.block = some level
  /-- The new sections around it have taken it. -/
  around_eq : ∃ taken, new.around = old.around ++ taken ∧
    ∀ i ∈ taken, ∃ offset, i = start + offset ∧ Takes before after offset old

/-- What a pass does to places of which the first is at some position. -/
structure Deepens (start : Nat) (before after : List Placement) : Prop where
  /-- There are as many blocks as before. -/
  length_eq : after.length = before.length
  /-- Each block is moved as a pass does. -/
  moves : ∀ (k : Nat) (old new : Placement), before[k]? = some old → after[k]? = some new →
    Moves start before after old new

variable {start level : Nat} {before after before' after' : List Placement}

/-- What takes a block among some places takes it when others are behind them. -/
theorem Takes.append_right {offset : Nat} {old : Placement}
    (takes : Takes before after offset old) :
    Takes (before ++ before') (after ++ after') offset old := by
  obtain ⟨heading, level, folded, at_before, free, leveled, at_after, isHeading, isOpen⟩ := takes
  have inside := (List.getElem?_eq_some_iff.mp at_before).1
  have insideAfter := (List.getElem?_eq_some_iff.mp at_after).1
  exact ⟨heading, level, folded, by rwa [List.getElem?_append_left inside], free, leveled,
    by rwa [List.getElem?_append_left insideAfter], isHeading, isOpen⟩

/-- What takes a block among some places takes it when others are in front of them. -/
theorem Takes.append_left {offset : Nat} {old : Placement}
    (length_eq : after.length = before.length) (takes : Takes before' after' offset old) :
    Takes (before ++ before') (after ++ after') (before.length + offset) old := by
  obtain ⟨heading, level, folded, at_before, free, leveled, at_after, isHeading, isOpen⟩ := takes
  refine ⟨heading, level, folded, ?_, free, leveled, ?_, isHeading, isOpen⟩
  · rwa [List.getElem?_append_right (Nat.le_add_right ..), Nat.add_sub_cancel_left]
  · rwa [List.getElem?_append_right (length_eq ▸ Nat.le_add_right ..), length_eq,
      Nat.add_sub_cancel_left]

namespace Deepens

/-- A pass can leave all as it is. -/
theorem refl (start : Nat) (places : List Placement) : Deepens start places places := by
  refine ⟨rfl, fun k old new at_old at_new => ?_⟩
  obtain rfl : old = new := Option.some.inj (at_old.symm.trans at_new)
  exact ⟨rfl, id, Or.inl, [], by simp, by simp⟩

/-- Passes over two parts that are one behind the other are a pass over both. -/
theorem append (front : Deepens start before after)
    (back : Deepens (start + before.length) before' after') :
    Deepens start (before ++ before') (after ++ after') := by
  refine ⟨by simp [front.length_eq, back.length_eq], fun k old new at_old at_new => ?_⟩
  by_cases inside : k < before.length
  · rw [List.getElem?_append_left inside] at at_old
    rw [List.getElem?_append_left (front.length_eq ▸ inside)] at at_new
    obtain ⟨block_eq, isHeading_of, of_isHeading, taken, around_eq, takes⟩ :=
      front.moves k old new at_old at_new
    refine ⟨block_eq, isHeading_of, of_isHeading, taken, around_eq, fun i member => ?_⟩
    obtain ⟨offset, rfl, takes⟩ := takes i member
    exact ⟨offset, rfl, takes.append_right⟩
  · have behind : before.length ≤ k := Nat.le_of_not_lt inside
    rw [List.getElem?_append_right behind] at at_old
    rw [List.getElem?_append_right (front.length_eq ▸ behind), front.length_eq] at at_new
    obtain ⟨block_eq, isHeading_of, of_isHeading, taken, around_eq, takes⟩ :=
      back.moves _ old new at_old at_new
    refine ⟨block_eq, isHeading_of, of_isHeading, taken, around_eq, fun i member => ?_⟩
    obtain ⟨offset, rfl, takes⟩ := takes i member
    exact ⟨before.length + offset, by omega, takes.append_left front.length_eq⟩

/-- A free heading can become that of a section which holds the places behind it, if no free block
among them closes its level. -/
theorem cons_fold {heading : Block} (leveled : headingLevel? heading = some level)
    (isOpen : ∀ place ∈ before, place.IsFree → ¬ Closes place.block level)
    (inner : Deepens (start + 1) before after) :
    Deepens start (⟨heading, false, []⟩ :: before)
      (⟨heading, true, []⟩ :: after.map (Placement.within [start])) := by
  refine ⟨by simp [inner.length_eq], fun k old new at_old at_new => ?_⟩
  cases k with
  | zero =>
    obtain rfl : _ = old := by simpa using at_old
    obtain rfl : _ = new := by simpa using at_new
    exact ⟨rfl, fun _ => rfl, fun _ => Or.inr ⟨level, leveled⟩, [], rfl, by simp⟩
  | succ k =>
    rw [List.getElem?_cons_succ] at at_old at_new
    rw [List.getElem?_map, Option.map_eq_some_iff] at at_new
    obtain ⟨new, at_new, rfl⟩ := at_new
    obtain ⟨block_eq, isHeading_of, of_isHeading, taken, around_eq, takes⟩ :=
      inner.moves k old new at_old at_new
    refine ⟨block_eq, isHeading_of, of_isHeading, taken ++ [start], ?_, fun i member => ?_⟩
    · simp [Placement.within, around_eq]
    · rcases List.mem_append.mp member with earlier | now
      · obtain ⟨offset, rfl, other, lower, folded, at_before, free, otherLevel, at_after, isHeading,
          reach⟩ := takes i earlier
        exact ⟨offset + 1, by omega, other, lower, folded.within [start], by simpa using at_before,
          free, otherLevel, by simp [at_after], isHeading, reach⟩
      · obtain rfl : i = start := by simpa using now
        exact ⟨0, rfl, ⟨heading, false, []⟩, level, ⟨heading, true, []⟩, rfl, ⟨rfl, rfl⟩, leveled,
          rfl, rfl, isOpen old (List.mem_of_getElem? at_old)⟩

end Deepens

/-- Folding the selected headings moves blocks as a pass does, whatever has been folded before. -/
theorem deepens_foldSelected (selector : Selector) (nodes : List Node) (start : Nat) :
    Deepens start (placements start [] nodes)
      (placements start [] (foldSelected selector nodes)) := by
  induction nodes using foldSelected.induct selector generalizing start with
  | case1 =>
    rw [foldSelected_nil]
    exact Deepens.refl start _
  | case2 node rest unselected hypothesis =>
    rw [foldSelected_of_unselected rest unselected]
    exact (Deepens.refl start _).append (hypothesis _)
  | case3 node rest level selected takenHypothesis droppedHypothesis =>
    obtain ⟨tokens, rfl⟩ : ∃ tokens, node = .block tokens := by
      cases node with
      | block tokens => exact ⟨tokens, rfl⟩
      | fold heading body => cases selected
    let isOpen : Node → Bool := fun next => !next.closes level
    have heading := ((selectedLevel?_block level).mp selected).1
    have reach : ∀ place ∈ placements (start + 1) [] (rest.takeWhile isOpen), place.IsFree →
        ¬ Closes place.block level := by
      intro place member free closes
      have kept : isOpen (.block place.block) = true :=
        List.all_eq_true.mp (List.all_takeWhile (p := isOpen) (l := rest)) _
          (block_mem_of_isFree member free)
      simp [isOpen, (closes_block level).mpr closes] at kept
    have held := Deepens.cons_fold heading reach (takenHypothesis (start + 1))
    have laid := held.append (droppedHypothesis _)
    have cut : placements (start + 1) [] rest = placements (start + 1) [] (rest.takeWhile isOpen) ++
        placements (start + 1 + (placements (start + 1) [] (rest.takeWhile isOpen)).length) []
          (rest.dropWhile isOpen) := by
      rw [← placements_append_nodes, List.takeWhile_append_dropWhile]
    rw [foldSelected_of_selected rest selected]
    have same := (takenHypothesis (start + 1)).length_eq
    simpa only [placements, Node.placements, Node.front, placements_singleton, cut, same, isOpen,
      List.length_map, List.length_cons, List.length_nil, List.cons_append, List.nil_append,
      Nat.zero_add, Nat.add_assoc, Nat.add_comm 1] using laid

/-- A pass moves blocks as a pass does. -/
theorem deepens_collapse (nodes : List Node) (selector : Option Selector) :
    Deepens 0 (placements 0 [] nodes) (placements 0 [] (collapse nodes selector)) := by
  cases selector with
  | none => exact Deepens.refl 0 _
  | some selector => exact deepens_foldSelected selector nodes 0

/-! ## Any number of passes -/

/-- A heading is not the footnotes of a document. -/
theorem isFootnotes_eq_false_of_headingLevel? {block : Block}
    (leveled : headingLevel? block = some level) : isFootnotes block = false := by
  unfold isFootnotes
  split
  · cases leveled
  · rfl

/-- The blocks of a document where a sequence of passes has put them. -/
def placedBy (tokens : List Token) (selectors : List (Option Selector)) : List Placement :=
  placements 0 [] (collapseAll (Node.ofTokens tokens) selectors)

/-- A block had been folded when a heading had not been: it was the heading of a section or in one
after some of the passes, while the heading was free. -/
def FoldedBefore (tokens : List Token) (selectors : List (Option Selector)) (i k : Nat) : Prop :=
  ∃ earlier heading place, earlier <+: selectors ∧ earlier ≠ selectors ∧
    (placedBy tokens earlier)[i]? = some heading ∧ heading.IsFree ∧
      (placedBy tokens earlier)[k]? = some place ∧ ¬ place.IsFree

section Passes

variable {tokens : List Token} {selectors : List (Option Selector)} {i k : Nat} {place : Placement}

/-- One more pass moves the blocks as a pass does. -/
theorem deepens_placedBy (tokens : List Token) (selectors : List (Option Selector))
    (selector : Option Selector) :
    Deepens 0 (placedBy tokens selectors) (placedBy tokens (selectors ++ [selector])) := by
  simpa [placedBy, collapseAll] using
    deepens_collapse (collapseAll (Node.ofTokens tokens) selectors) selector

/-- At first every block is free. -/
theorem isFree_of_mem_placedBy_nil (member : place ∈ placedBy tokens []) : place.IsFree := by
  have free : ∀ (blocks : List Block) (start : Nat) (place : Placement),
      place ∈ placements start [] (blocks.map .block) → place.IsFree := by
    intro blocks
    induction blocks with
    | nil => simp [placements]
    | cons block rest hypothesis =>
      intro start place member
      rcases List.mem_append.mp member with first | later
      · obtain rfl : place = ⟨block, false, []⟩ := by simpa [Node.placements] using first
        exact ⟨rfl, rfl⟩
      · exact hypothesis _ place later
  exact free _ 0 place member

/-- A block has a place after a pass if it had one before. -/
theorem exists_place_before {selector : Option Selector}
    (at_k : (placedBy tokens (selectors ++ [selector]))[k]? = some place) :
    ∃ old, (placedBy tokens selectors)[k]? = some old := by
  have length_eq := (deepens_placedBy tokens selectors selector).length_eq
  have inside := (List.getElem?_eq_some_iff.mp at_k).1
  exact ⟨(placedBy tokens selectors)[k], List.getElem?_eq_getElem (length_eq ▸ inside)⟩

/-- The heading of a section is a heading. -/
theorem exists_level_of_isHeading (at_k : (placedBy tokens selectors)[k]? = some place)
    (isHeading : place.isHeading = true) : ∃ level, headingLevel? place.block = some level := by
  induction selectors using List.reverseRecOn generalizing place with
  | nil =>
    have free := isFree_of_mem_placedBy_nil (List.mem_of_getElem? at_k)
    exact absurd isHeading (by simp [free.1])
  | append_singleton selectors selector hypothesis =>
    obtain ⟨old, at_old⟩ := exists_place_before at_k
    have moved := (deepens_placedBy tokens selectors selector).moves k old place at_old at_k
    rw [moved.block_eq]
    exact (moved.of_isHeading isHeading).elim (hypothesis at_old) id

/-- What has been folded before stays so in a longer sequence of passes. -/
theorem FoldedBefore.append (folded : FoldedBefore tokens selectors i k)
    (selector : Option Selector) : FoldedBefore tokens (selectors ++ [selector]) i k := by
  obtain ⟨earlier, heading, place, isPrefix, _, at_i, free, at_k, taken⟩ := folded
  have longer : earlier ≠ selectors ++ [selector] := by
    rintro rfl
    exact absurd isPrefix.length_le (by simp)
  exact ⟨earlier, heading, place, isPrefix.trans (List.prefix_append ..), longer, at_i, free, at_k,
    taken⟩

/-! ### Blocks in sections -/

/-- A block lies in the section of a heading of some level as it should: it is not the footnotes,
and if it is a heading it is lower, or had been folded before. -/
structure LiesIn (tokens : List Token) (selectors : List (Option Selector)) (i k : Nat)
    (heading place : Placement) (level : Nat) : Prop where
  /-- The section starts at the position of its heading. -/
  at_heading : (placedBy tokens selectors)[i]? = some heading
  /-- The heading is that of a section. -/
  isHeading : heading.isHeading = true
  /-- The heading is of the level. -/
  leveled : headingLevel? heading.block = some level
  /-- No section holds the footnotes. -/
  isFootnotes_eq_false : isFootnotes place.block = false
  /-- Headings are lower than that of the section, unless they had been folded before it. -/
  lower : ∀ other, headingLevel? place.block = some other →
    level < other ∨ FoldedBefore tokens selectors i k

/-- A further pass leaves a block in the sections that it lies in. -/
theorem LiesIn.append {old heading : Placement}
    (lies : LiesIn tokens selectors i k heading old level) (selector : Option Selector)
    (block_eq : place.block = old.block) :
    ∃ later, LiesIn tokens (selectors ++ [selector]) i k later place level := by
  have pass := deepens_placedBy tokens selectors selector
  have inside := (List.getElem?_eq_some_iff.mp lies.at_heading).1
  obtain ⟨later, at_later⟩ : ∃ later, (placedBy tokens (selectors ++ [selector]))[i]? =
      some later := ⟨_, List.getElem?_eq_getElem (pass.length_eq.symm ▸ inside)⟩
  have same := pass.moves i heading later lies.at_heading at_later
  refine ⟨later, at_later, same.isHeading_of lies.isHeading, ?_, ?_, fun other leveled => ?_⟩
  · rw [same.block_eq, lies.leveled]
  · rw [block_eq, lies.isFootnotes_eq_false]
  · rw [block_eq] at leveled
    exact (lies.lower other leveled).imp_right fun folded => folded.append selector

/-- A pass takes a block into a section as it should, if no section so far holds the footnotes. -/
theorem LiesIn.of_takes {selector : Option Selector} {old : Placement}
    (at_old : (placedBy tokens selectors)[k]? = some old) (block_eq : place.block = old.block)
    (held : old.around ≠ [] → isFootnotes old.block = false)
    (takes : Takes (placedBy tokens selectors) (placedBy tokens (selectors ++ [selector])) i old) :
    ∃ heading level, LiesIn tokens (selectors ++ [selector]) i k heading place level := by
  obtain ⟨heading, level, later, at_heading, free, leveled, at_later, isHeading, isOpen⟩ := takes
  have pass := deepens_placedBy tokens selectors selector
  have same := pass.moves i heading later at_heading at_later
  refine ⟨later, level, at_later, isHeading, by rw [same.block_eq, leveled], ?_, ?_⟩
  · rw [block_eq]
    by_cases oldFree : old.IsFree
    · exact Bool.eq_false_iff.mpr fun footnotes => isOpen oldFree (Or.inl footnotes)
    · by_cases folded : old.isHeading = true
      · obtain ⟨other, otherLevel⟩ := exists_level_of_isHeading at_old folded
        exact isFootnotes_eq_false_of_headingLevel? otherLevel
      · exact held fun alone => oldFree ⟨Bool.eq_false_iff.mpr folded, alone⟩
  · intro other otherLevel
    rw [block_eq] at otherLevel
    by_cases oldFree : old.IsFree
    · exact Or.inl (Nat.lt_of_not_le fun higher =>
        isOpen oldFree (Or.inr ⟨other, otherLevel, higher⟩))
    · exact Or.inr ⟨selectors, heading, old, List.prefix_append .., by simp, at_heading, free,
        at_old, oldFree⟩

/-- Sections are nested by their levels but for what was folded before. After any number of passes
over a document, a block that lies in a section at some depth is not the footnotes; and if it is a
heading, of a section or not, then it is lower than the heading of the section, or there was a time
between the passes when it was in a section or the heading of one, and the heading of the section
was still a free block. -/
theorem nested_unless_folded_before (at_k : (placedBy tokens selectors)[k]? = some place)
    (member : i ∈ place.around) :
    ∃ heading level, LiesIn tokens selectors i k heading place level := by
  induction selectors using List.reverseRecOn generalizing i k place with
  | nil =>
    have free := isFree_of_mem_placedBy_nil (List.mem_of_getElem? at_k)
    exact absurd member (by simp [free.2])
  | append_singleton selectors selector hypothesis =>
    obtain ⟨old, at_old⟩ := exists_place_before at_k
    have moved := (deepens_placedBy tokens selectors selector).moves k old place at_old at_k
    obtain ⟨taken, around_eq, takes⟩ := moved.around_eq
    rw [around_eq] at member
    rcases List.mem_append.mp member with earlier | now
    · obtain ⟨heading, level, lies⟩ := hypothesis at_old earlier
      obtain ⟨later, lies⟩ := lies.append selector moved.block_eq
      exact ⟨later, level, lies⟩
    · obtain ⟨offset, rfl, taken⟩ := takes i now
      rw [Nat.zero_add]
      refine LiesIn.of_takes at_old moved.block_eq (fun held => ?_) taken
      obtain ⟨outer, outerMember⟩ := List.exists_mem_of_ne_nil _ held
      obtain ⟨_, _, lies⟩ := hypothesis at_old outerMember
      exact lies.isFootnotes_eq_false

end Passes

/-! ### A section before its time -/

/-- The selector of a level. -/
def onlyLevel (level : Nat) (isLevel : level ∈ headingLevels) : Selector where
  levels := Selector.sortLevels [level]
  text := none
  canonical := (Selector.sortLevels_sortLevels [level]).symm
  nonempty := by
    intro empty
    simpa [Selector.sortLevels] using List.filter_eq_nil_iff.mp empty level isLevel

/-- The tokens of a heading. -/
def headingTokens (level : Nat) (text : List Char) : List Token :=
  [.start (.heading level), .inline text [], .stop (.heading level)]

/-- A third heading with a second one behind it. -/
def thirdBeforeSecond : List Token := headingTokens 3 ['a'] ++ headingTokens 2 ['b']

/-- Passes that fold second headings before third ones. -/
def secondBeforeThird : List (Option Selector) :=
  [some (onlyLevel 2 (by decide)), some (onlyLevel 3 (by decide))]

/-- The section of the second heading ends in that of the third. -/
theorem placedBy_secondBeforeThird : placedBy thirdBeforeSecond secondBeforeThird =
    [⟨headingTokens 3 ['a'], true, []⟩, ⟨headingTokens 2 ['b'], true, [0]⟩] := by
  cbv

/-- The second heading lies in the section of the third, for it had been folded before. -/
theorem second_liesIn_third : ∃ heading level,
    LiesIn thirdBeforeSecond secondBeforeThird 0 1 heading
      ⟨headingTokens 2 ['b'], true, [0]⟩ level :=
  nested_unless_folded_before (by rw [placedBy_secondBeforeThird]; rfl) (by simp)

/-! ## Nesting by levels -/

/-- In the section of a heading of some level, at any depth, there are no footnotes, and plain
headings and sections are of lower levels only. -/
def IsNested (nodes : List Node) : Prop :=
  let placed := placements 0 [] nodes
  ∀ (i k : Nat) (heading place : Placement) (level : Nat), placed[i]? = some heading →
    headingLevel? heading.block = some level → placed[k]? = some place → i ∈ place.around →
      isFootnotes place.block = false ∧
        ∀ other, headingLevel? place.block = some other → level < other

/-- A single pass over a document nests sections by their levels. -/
theorem isNested_collapse (tokens : List Token) (selector : Option Selector) :
    IsNested (collapse (Node.ofTokens tokens) selector) := by
  intro i k heading place level at_i leveled at_k member
  have pass := deepens_placedBy tokens [] selector
  have isFree {k : Nat} {old : Placement} (at_old : (placedBy tokens [])[k]? = some old) :=
    isFree_of_mem_placedBy_nil (List.mem_of_getElem? at_old)
  obtain ⟨old, at_old⟩ : ∃ old, (placedBy tokens [])[k]? = some old := exists_place_before at_k
  have moved := pass.moves k old place at_old at_k
  obtain ⟨taken, around_eq, takes⟩ := moved.around_eq
  rw [around_eq, (isFree at_old).2, List.nil_append] at member
  obtain ⟨offset, rfl, first, lower, _, at_first, _, firstLevel, _, _, isOpen⟩ := takes i member
  rw [Nat.zero_add] at at_i
  have same := pass.moves offset first heading at_first at_i
  obtain rfl : lower = level := by simpa [same.block_eq, firstLevel] using leveled
  have isOpen := isOpen (isFree at_old)
  rw [moved.block_eq]
  refine ⟨Bool.eq_false_iff.mpr fun footnotes => isOpen (Or.inl footnotes), fun other leveled => ?_⟩
  exact Nat.lt_of_not_le fun higher => isOpen (Or.inr ⟨other, leveled, higher⟩)

/-- A section that an earlier pass has built does not end that of a lower heading before it, so it
is put into it: sections are not nested by their levels in general. -/
theorem not_isNested_of_earlier_section :
    ¬ IsNested (collapseAll (Node.ofTokens thirdBeforeSecond) secondBeforeThird) := by
  intro nested
  have at_section {k : Nat} {place : Placement}
      (found : [⟨headingTokens 3 ['a'], true, []⟩, ⟨headingTokens 2 ['b'], true, [0]⟩][k]? =
        some place) : (placedBy thirdBeforeSecond secondBeforeThird)[k]? = some place := by
    rwa [placedBy_secondBeforeThird]
  have lower := (nested 0 1 _ _ 3 (at_section rfl) rfl (at_section rfl) (by simp)).2 2 rfl
  omega

end FoldMark.Outline
