import FoldMark.Proofs.Outline.Splitting

/-!
# Shortest blocks

A sequence can be cut in one way only into blocks of which no front sums to zero and only the last
one can be open at its end. `IsShortestCut` says what such a cut is without saying how to find it.
Cutting finds it (`isShortestCut_split`), whether the sequence is balanced, stays open or falls
below zero, and `IsShortestCut.eq_split` says that there is no other. What the last block leaves
open is what the whole sequence leaves open (`IsShortestCut.total_getLast`).
-/

namespace FoldMark.Outline

variable {α : Type} {nesting : α → Int} {items behind block : List α}
  {blocks : List (List α)}

/-! ## Sums of nestings -/

/-- The sum of the nestings of some items. -/
def total (nesting : α → Int) (items : List α) : Int := (items.map nesting).sum

/-- Nothing is open in no items. -/
@[simp] theorem total_nil (nesting : α → Int) : total nesting [] = 0 := rfl

/-- The first item adds its nesting. -/
@[simp] theorem total_cons (nesting : α → Int) (item : α) (items : List α) :
    total nesting (item :: items) = nesting item + total nesting items := List.sum_cons

/-- The sums of two parts add up. -/
theorem total_append (nesting : α → Int) (front back : List α) :
    total nesting (front ++ back) = total nesting front + total nesting back := by
  rw [total, List.map_append, List.sum_append, ← total, ← total]

/-- Blocks that are closed at their ends leave nothing open. -/
theorem total_flatten_of_closed (closed : ∀ block ∈ blocks, total nesting block = 0) :
    total nesting blocks.flatten = 0 := by
  induction blocks with
  | nil => rfl
  | cons block rest hypothesis =>
    rw [List.forall_mem_cons] at closed
    rw [List.flatten_cons, total_append, closed.1, hypothesis closed.2, Int.add_zero]

/-- What is open before a position is the sum of the items before it. -/
theorem depth_eq_total (items : List α) (position : Nat) :
    depth nesting items position = total nesting (items.take position) := rfl

/-- What is open at the end is the sum of all items. -/
theorem depth_length_eq_total (items : List α) :
    depth nesting items items.length = total nesting items := by
  rw [depth_eq_total, List.take_length]

/-! ## Shortest cuts -/

/-- A cut of a sequence into the shortest blocks whose nestings sum to zero. -/
structure IsShortestCut (nesting : α → Int) (items : List α) (blocks : List (List α)) : Prop where
  /-- The blocks, one behind the other, are the sequence. -/
  flatten_eq : blocks.flatten = items
  /-- Every block holds an item. -/
  ne_nil : ∀ block ∈ blocks, block ≠ []
  /-- Only the last block can be open at its end. -/
  closed : ∀ block ∈ blocks.dropLast, total nesting block = 0
  /-- At no earlier place could a block have ended. -/
  shortest : ∀ block ∈ blocks, ∀ front, front <+: block → front ≠ [] → front ≠ block →
    total nesting front ≠ 0

/-- A block that starts where nothing is open is one of which no front sums to zero. -/
theorem isBlockFrom_zero_iff : IsBlockFrom nesting 0 block ↔
    block ≠ [] ∧ ∀ front, front <+: block → front ≠ [] → front ≠ block →
      total nesting front ≠ 0 := by
  constructor
  · intro isBlock
    refine ⟨isBlock.ne_nil, fun front isPrefix nonempty proper => ?_⟩
    have inside : front.length < block.length :=
      Nat.lt_of_le_of_ne isPrefix.length_le fun same => proper (isPrefix.eq_of_length same)
    have opened := isBlock.depth_ne front.length (List.length_pos_of_ne_nil nonempty) inside
    rwa [Int.zero_add, depth_eq_total, ← List.prefix_iff_eq_take.mp isPrefix] at opened
  · rintro ⟨nonempty, shortest⟩
    refine ⟨nonempty, fun position after inside => ?_⟩
    rw [Int.zero_add, depth_eq_total]
    have size : (block.take position).length = position := List.length_take_of_le inside.le
    refine shortest _ (List.take_prefix position block) (fun none => ?_) fun whole => ?_
    · rw [none, List.length_nil] at size
      omega
    · rw [whole] at size
      omega

/-- A sequence without items has the cut without blocks. -/
theorem isShortestCut_nil (nesting : α → Int) : IsShortestCut nesting [] [] where
  flatten_eq := rfl
  ne_nil := nofun
  closed := nofun
  shortest := nofun

/-- The first block of a shortest cut is closed or the only one, and the others are a shortest cut
of what follows it. -/
theorem isShortestCut_cons_iff : IsShortestCut nesting items (block :: blocks) ↔
    ∃ behind, items = block ++ behind ∧ IsBlockFrom nesting 0 block ∧
      (total nesting block = 0 ∨ behind = []) ∧ IsShortestCut nesting behind blocks := by
  constructor
  · rintro ⟨rfl, nonempty, closed, shortest⟩
    rw [List.forall_mem_cons] at nonempty shortest
    refine ⟨blocks.flatten, rfl, isBlockFrom_zero_iff.mpr ⟨nonempty.1, shortest.1⟩, ?_,
      ⟨rfl, nonempty.2, fun other member => closed other ?_, shortest.2⟩⟩
    · cases blocks with
      | nil => exact Or.inr rfl
      | cons next others => exact Or.inl (closed block List.mem_cons_self)
    · cases blocks with
      | nil => cases member
      | cons next others => exact List.mem_cons_of_mem _ member
  · rintro ⟨behind, rfl, isBlock, ends, cut⟩
    obtain ⟨nonempty, shortest⟩ := isBlockFrom_zero_iff.mp isBlock
    refine ⟨by rw [List.flatten_cons, cut.flatten_eq], List.forall_mem_cons.mpr ⟨nonempty,
      cut.ne_nil⟩, ?_, List.forall_mem_cons.mpr ⟨shortest, cut.shortest⟩⟩
    cases blocks with
    | nil => exact nofun
    | cons next others =>
      refine List.forall_mem_cons.mpr ⟨ends.resolve_right fun none => ?_, cut.closed⟩
      have empty := List.flatten_eq_nil_iff.mp (cut.flatten_eq.trans none) next List.mem_cons_self
      exact cut.ne_nil next List.mem_cons_self empty

/-! ## Cutting -/

/-- A block at the front of a sequence is the first that is cut off, from whatever depth it starts,
if it is closed there or nothing follows. What is left of it is a block again, from the depth behind
its first item. -/
theorem splitFrom_append {start : Int} (isBlock : IsBlockFrom nesting start block)
    (ends : start + total nesting block = 0 ∨ behind = []) :
    splitFrom nesting start (block ++ behind) = block :: split nesting behind := by
  induction block generalizing start with
  | nil => exact absurd rfl isBlock.ne_nil
  | cons item rest hypothesis =>
    rw [total_cons, ← Int.add_assoc] at ends
    rw [List.cons_append, splitFrom]
    by_cases last : rest = []
    · subst last
      rw [total_nil, Int.add_zero] at ends
      by_cases closed : start + nesting item = 0
      · rw [if_pos closed]
        rfl
      · obtain rfl := ends.resolve_left closed
        rw [if_neg closed]
        rfl
    · have opened : start + nesting item ≠ 0 := by
        have inside := isBlock.depth_ne 1 Nat.one_pos
          (by simpa using List.length_pos_of_ne_nil last)
        simpa using inside
      have later : IsBlockFrom nesting (start + nesting item) rest := by
        refine ⟨last, fun position after inside => ?_⟩
        have never := isBlock.depth_ne (position + 1) (Nat.succ_pos _)
          (by simpa using inside)
        rwa [depth_cons_succ, ← Int.add_assoc] at never
      rw [if_neg opened, hypothesis later ends]

/-- Cutting finds a shortest cut. -/
theorem isShortestCut_split (nesting : α → Int) (items : List α) :
    IsShortestCut nesting items (split nesting items) := by
  by_cases none : items = []
  · subst none
    exact isShortestCut_nil nesting
  · obtain ⟨block, rest, rfl, cut, isBlock, ends⟩ := split_eq_cons nesting none
    rw [depth_length_eq_total] at ends
    have smaller : rest.length < (block ++ rest).length := by
      have := List.length_pos_of_ne_nil isBlock.ne_nil
      rw [List.length_append]
      omega
    rw [cut]
    exact isShortestCut_cons_iff.mpr ⟨rest, rfl, isBlock, ends, isShortestCut_split nesting rest⟩
termination_by items.length

/-- No other cut is a shortest one. -/
theorem IsShortestCut.eq_split (cut : IsShortestCut nesting items blocks) :
    split nesting items = blocks := by
  induction blocks generalizing items with
  | nil =>
    obtain rfl : [] = items := cut.flatten_eq
    rfl
  | cons block rest hypothesis =>
    obtain ⟨behind, rfl, isBlock, ends, later⟩ := isShortestCut_cons_iff.mp cut
    rw [← Int.zero_add (total nesting block)] at ends
    rw [split, splitFrom_append isBlock ends, hypothesis later]

/-- The last block of a shortest cut is open at its end exactly if the whole sequence is. -/
theorem IsShortestCut.total_getLast (cut : IsShortestCut nesting items blocks) :
    (∃ block ∈ blocks.getLast?, total nesting block ≠ 0) ↔ total nesting items ≠ 0 := by
  obtain ⟨rfl, -, closed, -⟩ := cut
  rcases List.eq_nil_or_concat blocks with rfl | ⟨front, last, rfl⟩
  · simp
  · rw [List.concat_eq_append, List.dropLast_concat] at closed
    rw [List.concat_eq_append, List.flatten_append, total_append, total_flatten_of_closed closed]
    simp

/-- Whatever the nestings of a sequence of tokens are, its blocks are its only cut into blocks that
hold a token, that have no front that sums to zero, and of which only the last one can be open at
its end; and that one is open exactly if the whole sequence is. -/
theorem split_cuts_shortest (nesting : α → Int) (items : List α) :
    (∀ blocks, split nesting items = blocks ↔ IsShortestCut nesting items blocks) ∧
      ((∃ block ∈ (split nesting items).getLast?, total nesting block ≠ 0) ↔
        total nesting items ≠ 0) := by
  have cut := isShortestCut_split nesting items
  exact ⟨fun blocks => ⟨fun same => same ▸ cut, IsShortestCut.eq_split⟩, cut.total_getLast⟩

/-- A sequence that falls below zero and stays open at its end. -/
example : split id [-1, 0, 1, 0, 1, 1, -1] = [[-1, 0, 1], [0], [1, 1, -1]] := by decide

end FoldMark.Outline
