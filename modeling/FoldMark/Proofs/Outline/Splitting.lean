import FoldMark.Outline
import Mathlib

/-!
# Blocks of a document

Where a sequence of tokens is cut into blocks. A block ends where the sum of nestings comes back to
zero for the first time (`split_eq_cons`). So the blocks of a sequence stand in it one behind the
other, and they start exactly at the positions up to which that sum is zero (`standsFrom_split`).
-/

namespace FoldMark.Outline

variable {α : Type} {nesting : α → Int} {items : List α}

/-- The sum of nestings before a position. -/
def depth (nesting : α → Int) (items : List α) (position : Nat) : Int :=
  ((items.take position).map nesting).sum

/-- Before the first item nothing is open. -/
@[simp] theorem depth_zero (nesting : α → Int) (items : List α) : depth nesting items 0 = 0 := rfl

/-- Each item adds its nesting. -/
@[simp] theorem depth_cons_succ (nesting : α → Int) (item : α) (items : List α) (position : Nat) :
    depth nesting (item :: items) (position + 1) =
      nesting item + depth nesting items position := by
  simp [depth]

/-- What follows does not count. -/
theorem depth_append_left (front back : List α) {position : Nat}
    (inside : position ≤ front.length) :
    depth nesting (front ++ back) position = depth nesting front position := by
  rw [depth, List.take_append_of_le_length inside, depth]

/-- The depth behind a position is that at the position and that among what follows. -/
theorem depth_add (items : List α) (start position : Nat) :
    depth nesting items (start + position) =
      depth nesting items start + depth nesting (items.drop start) position := by
  rw [depth, List.take_add, List.map_append, List.sum_append, depth, depth]

/-- What stands before counts as a whole. -/
theorem depth_append_right (front back : List α) (position : Nat) :
    depth nesting (front ++ back) (front.length + position) =
      depth nesting front front.length + depth nesting back position := by
  rw [depth_add, depth_append_left _ _ (Nat.le_refl _), List.drop_left]

/-- A block that starts at some depth is open until it ends. -/
structure IsBlockFrom (nesting : α → Int) (start : Int) (block : List α) : Prop where
  /-- It holds an item. -/
  ne_nil : block ≠ []
  /-- Between two of its items something is open. -/
  depth_ne : ∀ position, 0 < position → position < block.length →
    start + depth nesting block position ≠ 0

/-- A single item is a block. -/
theorem isBlockFrom_singleton (start : Int) (item : α) : IsBlockFrom nesting start [item] := by
  refine ⟨by simp, fun position after inside => ?_⟩
  rw [List.length_singleton] at inside
  omega

/-- The first block of a sequence that is cut from some depth on; the others are those of the rest.
Only the last one can be open at its end. -/
theorem splitFrom_eq_cons (nesting : α → Int) (start : Int) (nonempty : items ≠ []) :
    ∃ block rest, items = block ++ rest ∧
      splitFrom nesting start items = block :: split nesting rest ∧
        IsBlockFrom nesting start block ∧
          (start + depth nesting block block.length = 0 ∨ rest = []) := by
  induction items generalizing start with
  | nil => exact absurd rfl nonempty
  | cons item rest hypothesis =>
    by_cases closed : start + nesting item = 0
    · exact ⟨[item], rest, rfl, by simp [splitFrom, closed, split], isBlockFrom_singleton _ _,
        Or.inl (by simpa using closed)⟩
    · by_cases last : rest = []
      · exact ⟨[item], [], by simp [last], by simp [splitFrom, closed, last, split],
          isBlockFrom_singleton _ _, Or.inr rfl⟩
      · obtain ⟨block, others, rfl, cut, isBlock, ends⟩ :=
          hypothesis (start + nesting item) last
        refine ⟨item :: block, others, rfl, by simp [splitFrom, closed, cut], ⟨by simp, ?_⟩, ?_⟩
        · intro position after inside
          obtain ⟨before, rfl⟩ : ∃ before, position = before + 1 := ⟨position - 1, by omega⟩
          rw [depth_cons_succ, ← Int.add_assoc]
          by_cases first : before = 0
          · simpa [first] using closed
          · exact isBlock.depth_ne before (by omega) (by simpa using inside)
        · simpa [← Int.add_assoc] using ends

/-- The first block of a sequence ends where its nestings sum to zero for the first time, or at the
end; the other blocks are those of the rest. -/
theorem split_eq_cons (nesting : α → Int) (nonempty : items ≠ []) :
    ∃ block rest, items = block ++ rest ∧ split nesting items = block :: split nesting rest ∧
      IsBlockFrom nesting 0 block ∧ (depth nesting block block.length = 0 ∨ rest = []) := by
  simpa [split] using splitFrom_eq_cons nesting 0 nonempty

/-- Blocks stand in a sequence one behind the other, and nothing is open only where one starts. -/
inductive StandsFrom (nesting : α → Int) (items : List α) : Nat → List (List α) → Prop where
  /-- There are no further blocks. -/
  | nil (position : Nat) : StandsFrom nesting items position []
  /-- A block stands at a position, and others behind it. -/
  | cons {start : Nat} {block : List α} {rest : List (List α)}
      (isPrefix : block <+: items.drop start) (ne_nil : block ≠ [])
      (top : depth nesting items start = 0)
      (within : ∀ position, start < position → position < start + block.length →
        depth nesting items position ≠ 0)
      (behind : StandsFrom nesting items (start + block.length) rest) :
      StandsFrom nesting items start (block :: rest)

/-- The blocks of what follows some items stand behind these. -/
theorem standsFrom_append (front back : List α) (top : depth nesting front front.length = 0) :
    StandsFrom nesting (front ++ back) front.length (split nesting back) := by
  by_cases none : back = []
  · subst none
    exact .nil _
  · obtain ⟨block, rest, rfl, cut, isBlock, ends⟩ := split_eq_cons nesting none
    have behind : StandsFrom nesting (front ++ (block ++ rest)) (front.length + block.length)
        (split nesting rest) := by
      rcases ends with closed | rfl
      · have further : depth nesting (front ++ block) (front ++ block).length = 0 := by
          rw [List.length_append, depth_append_right, top, closed, Int.add_zero]
        have smaller : rest.length < (block ++ rest).length := by
          have := List.length_pos_of_ne_nil isBlock.ne_nil
          rw [List.length_append]
          omega
        simpa [List.append_assoc] using standsFrom_append (front ++ block) rest further
      · exact .nil _
    rw [cut]
    refine .cons ?_ isBlock.ne_nil ?_ (fun position after inside => ?_) behind
    · rw [List.drop_left]
      exact List.prefix_append block rest
    · rw [depth_append_left _ _ (Nat.le_refl _), top]
    · obtain ⟨offset, rfl⟩ := Nat.exists_eq_add_of_lt after
      have never := isBlock.depth_ne (offset + 1) (by omega) (by omega)
      rwa [Nat.add_assoc, depth_append_right, top, depth_append_left _ _ (by omega)]
termination_by back.length

/-- The blocks of a sequence stand in it from its start on. -/
theorem standsFrom_split (nesting : α → Int) (items : List α) :
    StandsFrom nesting items 0 (split nesting items) :=
  standsFrom_append [] items rfl

/-- Behind the first block stand the others. -/
theorem StandsFrom.tail {start : Nat} {block : List α} {rest : List (List α)}
    (stands : StandsFrom nesting items start (block :: rest)) :
    StandsFrom nesting items (start + block.length) rest := by
  cases stands with
  | cons _ _ _ _ behind => exact behind

/-- The first blocks of some that stand in a sequence stand there alone. -/
theorem StandsFrom.append_left {start : Nat} {front back : List (List α)}
    (stands : StandsFrom nesting items start (front ++ back)) :
    StandsFrom nesting items start front := by
  induction front generalizing start with
  | nil => exact .nil start
  | cons block rest hypothesis =>
    cases stands with
    | cons isPrefix ne_nil top within behind =>
      exact .cons isPrefix ne_nil top within (hypothesis behind)

/-- The last blocks of some that stand in a sequence stand behind the others. -/
theorem StandsFrom.append_right {start : Nat} {front back : List (List α)}
    (stands : StandsFrom nesting items start (front ++ back)) :
    StandsFrom nesting items (start + front.flatten.length) back := by
  induction front generalizing start with
  | nil => simpa using stands
  | cons block rest hypothesis =>
    rw [List.flatten_cons, List.length_append, ← Nat.add_assoc]
    exact hypothesis stands.tail

/-- Where nothing is open, a block starts. -/
theorem StandsFrom.exists_block {start position : Nat} {blocks : List (List α)}
    (stands : StandsFrom nesting items start blocks) (after : start ≤ position)
    (inside : position < start + blocks.flatten.length) (top : depth nesting items position = 0) :
    ∃ block ∈ blocks, block ≠ [] ∧ block <+: items.drop position := by
  induction stands with
  | nil start =>
    rw [List.flatten_nil, List.length_nil] at inside
    omega
  | @cons start block rest isPrefix ne_nil _ within _ hypothesis =>
    by_cases first : position = start
    · exact ⟨block, List.mem_cons_self, ne_nil, first ▸ isPrefix⟩
    · have behind : start + block.length ≤ position := by
        refine Nat.le_of_not_lt fun short => within position (by omega) short top
      rw [List.flatten_cons, List.length_append] at inside
      obtain ⟨found, member, isFound⟩ := hypothesis behind (by omega)
      exact ⟨found, List.mem_cons_of_mem _ member, isFound⟩

end FoldMark.Outline
