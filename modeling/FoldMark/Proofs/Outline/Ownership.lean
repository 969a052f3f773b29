import FoldMark.Outline

/-!
# Ownership of blocks

Which sections a block of a folded document lies in. Folding keeps the order in which blocks are
read, a heading before what its section holds, so a block of the result is named by its position.
`Owns` is the law of sections, told of the unfolded blocks alone: a selected heading owns the blocks
after it up to the first that closes its level. `collapse_ownership` proves that the sections that
folding builds are exactly those of this law, although a section within another only sees the blocks
that the outer one has taken.
-/

namespace FoldMark.Outline

open Markdown

/-! ## Blocks where folding puts them -/

/-- A block of a folded document, with the sections that it lies in. -/
structure Placement where
  /-- The block. -/
  block : Block
  /-- Whether it is the heading of a section. -/
  isHeading : Bool
  /-- The positions of the headings in whose sections it lies, at any depth, from the innermost. -/
  around : List Nat

mutual

/-- The blocks of a node in the order in which they are read; `position` is that of the first, and
`around` are the headings of the sections that the node lies in. -/
def Node.placements (position : Nat) (around : List Nat) : Node → List Placement
  | .block tokens => [⟨tokens, false, around⟩]
  | .fold heading body =>
    ⟨heading, true, around⟩ :: placements (position + 1) (position :: around) body

/-- The blocks of nodes in the order in which they are read. -/
def placements (position : Nat) (around : List Nat) : List Node → List Placement
  | [] => []
  | node :: rest =>
    let first := node.placements position around
    first ++ placements (position + first.length) around rest

end

/-! ## The law of sections -/

/-- A block is a heading of a level that a selector selects. -/
def SelectedAt (selector : Selector) (block : Block) (level : Nat) : Prop :=
  headingLevel? block = some level ∧ selector.selects level (headingText block) = true

/-- A block ends the section of a heading of some level: it is the footnotes, or a heading of that
level or a higher one. -/
def Closes (block : Block) (level : Nat) : Prop :=
  isFootnotes block = true ∨ ∃ other, headingLevel? block = some other ∧ other ≤ level

/-- The block at one position is a selected heading whose section reaches the block at another. -/
def Owns (selector : Selector) (blocks : List Block) (i k : Nat) : Prop :=
  i < k ∧ ∃ heading level, blocks[i]? = some heading ∧ SelectedAt selector heading level ∧
    ∀ j block, i < j → j ≤ k → blocks[j]? = some block → ¬ Closes block level

variable {selector : Selector} {block : Block} {rest taken dropped : List Block}

/-- The level that folding goes by is that of a selected heading. -/
theorem selectedLevel?_block (level : Nat) :
    (Node.block block).selectedLevel? selector = some level ↔ SelectedAt selector block level := by
  simp [Node.selectedLevel?, SelectedAt, Option.filter_eq_some_iff]

/-- The test that folding ends a section by is the law's. -/
theorem closes_block (level : Nat) :
    (Node.block block).closes level = true ↔ Closes block level := by
  simp [Node.closes, Closes, Option.any_eq_true]

/-- What ends the section of a heading also ends those of lower headings. -/
theorem Closes.mono {level lower : Nat} (closes : Closes block level) (le : level ≤ lower) :
    Closes block lower := by
  rcases closes with footnotes | ⟨other, heading, higher⟩
  · exact Or.inl footnotes
  · exact Or.inr ⟨other, heading, Nat.le_trans higher le⟩

/-- A selected heading that ends no section of some level is lower than that level. -/
theorem SelectedAt.lt_of_not_closes {level other : Nat} (selected : SelectedAt selector block other)
    (isOpen : ¬ Closes block level) : level < other :=
  Nat.lt_of_not_le fun higher => isOpen (Or.inr ⟨other, selected.1, higher⟩)

/-! ## Ownership in a longer document -/

/-- Ownership between later blocks does not depend on the first. -/
theorem owns_succ_succ (i k : Nat) :
    Owns selector (block :: rest) (i + 1) (k + 1) ↔ Owns selector rest i k := by
  simp only [Owns, Nat.add_lt_add_iff_right, List.getElem?_cons_succ]
  refine and_congr_right fun _ => exists_congr fun _ => exists_congr fun level =>
    and_congr_right fun _ => and_congr_right fun _ => ?_
  constructor
  · intro reach j found after upTo at_j
    exact reach (j + 1) found (by omega) (by omega) at_j
  · intro reach j found after upTo at_j
    obtain ⟨j, rfl⟩ : ∃ before, j = before + 1 := ⟨j - 1, by omega⟩
    exact reach j found (by omega) (by omega) (by simpa using at_j)

/-- The first block owns those up to which nothing closes its level. -/
theorem owns_zero_succ (k : Nat) :
    Owns selector (block :: rest) 0 (k + 1) ↔
      ∃ level, SelectedAt selector block level ∧
        ∀ j found, j ≤ k → rest[j]? = some found → ¬ Closes found level := by
  constructor
  · rintro ⟨_, heading, level, at_zero, selected, reach⟩
    obtain rfl : block = heading := by simpa using at_zero
    refine ⟨level, selected, fun j found upTo at_j => ?_⟩
    exact reach (j + 1) found (by omega) (by omega) at_j
  · rintro ⟨level, selected, reach⟩
    refine ⟨by omega, block, level, rfl, selected, fun j found after upTo at_j => ?_⟩
    obtain ⟨j, rfl⟩ : ∃ before, j = before + 1 := ⟨j - 1, by omega⟩
    exact reach j found (by omega) (by simpa using at_j)

/-- Ownership within the first blocks does not depend on what follows. -/
theorem owns_append_left {k : Nat} (inside : k < taken.length) (i : Nat) :
    Owns selector (taken ++ dropped) i k ↔ Owns selector taken i k := by
  have same : ∀ j, j ≤ k → (taken ++ dropped)[j]? = taken[j]? := fun j upTo =>
    List.getElem?_append_left (by omega)
  simp only [Owns]
  refine and_congr_right fun before => ?_
  rw [same i (Nat.le_of_lt before)]
  refine exists_congr fun _ => exists_congr fun level =>
    and_congr_right fun _ => and_congr_right fun _ => ?_
  constructor
  · intro reach j found after upTo at_j
    exact reach j found after upTo (by rw [same j upTo]; exact at_j)
  · intro reach j found after upTo at_j
    exact reach j found after upTo (by rw [← same j upTo]; exact at_j)

/-- Where a block closes every heading before it, only headings from there on own later blocks. -/
theorem owns_append_right {k : Nat} (inside : k < dropped.length)
    (closed : ∀ heading ∈ taken, ∀ level, SelectedAt selector heading level →
      ∀ found, dropped[0]? = some found → Closes found level) (i : Nat) :
    Owns selector (taken ++ dropped) i (taken.length + k) ↔
      ∃ offset, i = taken.length + offset ∧ Owns selector dropped offset k := by
  induction taken generalizing i with
  | nil => simp
  | cons block rest hypothesis =>
    have later := hypothesis fun heading member => closed heading (List.mem_cons_of_mem _ member)
    rw [List.cons_append, List.length_cons, Nat.add_right_comm]
    cases i with
    | zero =>
      obtain ⟨first, at_zero⟩ : ∃ first, dropped[0]? = some first :=
        ⟨dropped[0], List.getElem?_eq_getElem (by omega)⟩
      rw [owns_zero_succ]
      constructor
      · rintro ⟨level, selected, reach⟩
        have closes := closed block List.mem_cons_self level selected first at_zero
        have at_length : (rest ++ dropped)[rest.length]? = some first := by
          rw [List.getElem?_append_right (Nat.le_refl _), Nat.sub_self, at_zero]
        exact absurd closes (reach rest.length first (by omega) at_length)
      · rintro ⟨offset, impossible, _⟩
        omega
    | succ i =>
      rw [owns_succ_succ, later i]
      refine exists_congr fun offset => and_congr_left fun _ => ?_
      omega

/-- Within the section of a selected heading, a block is owned by that heading and by those that own
it in the section alone. -/
theorem owns_within_section {level k : Nat} (selected : SelectedAt selector block level)
    (taken_open : ∀ found ∈ taken, ¬ Closes found level) (inside : k < taken.length) (i : Nat) :
    Owns selector (block :: (taken ++ dropped)) i (k + 1) ↔
      i = 0 ∨ ∃ offset, i = offset + 1 ∧ Owns selector taken offset k := by
  cases i with
  | zero =>
    have reach : Owns selector (block :: (taken ++ dropped)) 0 (k + 1) := by
      refine (owns_zero_succ k).mpr ⟨level, selected, fun j found upTo at_j => ?_⟩
      rw [List.getElem?_append_left (by omega)] at at_j
      exact taken_open found (List.mem_of_getElem? at_j)
    exact ⟨fun _ => Or.inl rfl, fun _ => reach⟩
  | succ i =>
    rw [owns_succ_succ, owns_append_left inside]
    constructor
    · intro owns
      exact Or.inr ⟨i, rfl, owns⟩
    · rintro (impossible | ⟨offset, same, owns⟩)
      · omega
      · obtain rfl : i = offset := Nat.succ.inj same
        exact owns

/-- Behind the section of a selected heading, neither the heading nor what it has taken owns
anything. A block that closes the heading closes each heading that it has taken, so the sections
within end where it ends. -/
theorem owns_behind_section {level k : Nat} (selected : SelectedAt selector block level)
    (taken_open : ∀ found ∈ taken, ¬ Closes found level)
    (dropped_closes : ∀ found, dropped[0]? = some found → Closes found level)
    (inside : k < dropped.length) (i : Nat) :
    Owns selector (block :: (taken ++ dropped)) i (taken.length + k + 1) ↔
      ∃ offset, i = taken.length + 1 + offset ∧ Owns selector dropped offset k := by
  have closed : ∀ heading ∈ block :: taken, ∀ other, SelectedAt selector heading other →
      ∀ found, dropped[0]? = some found → Closes found other := by
    intro heading member other isSelected found at_zero
    rcases List.mem_cons.mp member with rfl | member
    · obtain rfl : level = other := Option.some.inj (selected.1.symm.trans isSelected.1)
      exact dropped_closes found at_zero
    · have below := isSelected.lt_of_not_closes (taken_open heading member)
      exact (dropped_closes found at_zero).mono (Nat.le_of_lt below)
  have apart := owns_append_right inside closed i
  rwa [List.length_cons, List.cons_append, Nat.add_right_comm] at apart

/-! ## Folding follows the law -/

/-- Blocks are placed as the law of sections says: from a position on, within the sections of some
headings before it. -/
structure Laid (selector : Selector) (start : Nat) (around : List Nat) (blocks : List Block)
    (placed : List Placement) : Prop where
  /-- The blocks are those of the document. -/
  blocks_eq : placed.map Placement.block = blocks
  /-- The headings of sections are the selected headings. -/
  isHeading_iff : ∀ place ∈ placed,
    (place.isHeading = true ↔ ∃ level, SelectedAt selector place.block level)
  /-- A block lies in the given sections and in those of the headings that own it. -/
  mem_around_iff : ∀ k place, placed[k]? = some place → ∀ i,
    (i ∈ place.around ↔
      i ∈ around ∨ ∃ offset, i = start + offset ∧ Owns selector blocks offset k)

namespace Laid

variable {start level : Nat} {around : List Nat} {placed inner outer : List Placement}

/-- As many blocks are placed as there are. -/
theorem length_eq {blocks : List Block} (laid : Laid selector start around blocks placed) :
    placed.length = blocks.length := by
  rw [← laid.blocks_eq, List.length_map]

/-- No blocks are placed nowhere. -/
theorem nil : Laid selector start around [] [] :=
  ⟨rfl, by simp, by simp⟩

/-- A block that is not selected starts no section. -/
theorem cons_unselected (unselected : ∀ level, ¬ SelectedAt selector block level)
    (laid : Laid selector (start + 1) around rest placed) :
    Laid selector start around (block :: rest) (⟨block, false, around⟩ :: placed) := by
  refine ⟨by simp [laid.blocks_eq], ?_, ?_⟩
  · intro place member
    rcases List.mem_cons.mp member with rfl | member
    · simpa using unselected
    · exact laid.isHeading_iff place member
  · intro k place at_k i
    cases k with
    | zero =>
      obtain rfl : _ = place := by simpa using at_k
      simp [Owns]
    | succ k =>
      rw [laid.mem_around_iff k place (by simpa using at_k)]
      refine or_congr_right ?_
      constructor
      · rintro ⟨offset, rfl, owns⟩
        exact ⟨offset + 1, by omega, (owns_succ_succ _ _).mpr owns⟩
      · rintro ⟨offset, rfl, owns⟩
        cases offset with
        | zero =>
          obtain ⟨level, selected, _⟩ := (owns_zero_succ k).mp owns
          exact absurd selected (unselected level)
        | succ offset => exact ⟨offset, by omega, (owns_succ_succ _ _).mp owns⟩

/-- A selected heading takes blocks that do not close it, up to one that does. -/
theorem cons_selected (selected : SelectedAt selector block level)
    (taken_open : ∀ found ∈ taken, ¬ Closes found level)
    (dropped_closes : ∀ found, dropped[0]? = some found → Closes found level)
    (body : Laid selector (start + 1) (start :: around) taken inner)
    (after : Laid selector (start + 1 + taken.length) around dropped outer) :
    Laid selector start around (block :: (taken ++ dropped))
      (⟨block, true, around⟩ :: (inner ++ outer)) := by
  refine ⟨by simp [body.blocks_eq, after.blocks_eq], ?_, ?_⟩
  · intro place member
    rcases List.mem_cons.mp member with rfl | member
    · simpa using ⟨level, selected⟩
    · rcases List.mem_append.mp member with member | member
      · exact body.isHeading_iff place member
      · exact after.isHeading_iff place member
  · intro k place at_k i
    cases k with
    | zero =>
      obtain rfl : _ = place := by simpa using at_k
      simp [Owns]
    | succ k =>
      rw [List.getElem?_cons_succ] at at_k
      by_cases inside : k < taken.length
      · rw [List.getElem?_append_left (by rw [body.length_eq]; exact inside)] at at_k
        have law : ∀ i, Owns selector (block :: (taken ++ dropped)) i (k + 1) ↔ _ :=
          owns_within_section selected taken_open inside
        rw [body.mem_around_iff k place at_k, List.mem_cons]
        constructor
        · rintro ((rfl | member) | ⟨offset, rfl, owns⟩)
          · exact Or.inr ⟨0, rfl, (law 0).mpr (Or.inl rfl)⟩
          · exact Or.inl member
          · refine Or.inr ⟨offset + 1, by omega, ?_⟩
            exact (law _).mpr (Or.inr ⟨offset, rfl, owns⟩)
        · rintro (member | ⟨_, rfl, owns⟩)
          · exact Or.inl (Or.inr member)
          · rcases (law _).mp owns with rfl | ⟨offset, rfl, within⟩
            · exact Or.inl (Or.inl rfl)
            · exact Or.inr ⟨offset, by omega, within⟩
      · obtain ⟨k, rfl⟩ : ∃ behind, k = taken.length + behind := ⟨k - taken.length, by omega⟩
        rw [List.getElem?_append_right (by rw [body.length_eq]; omega), body.length_eq,
          Nat.add_sub_cancel_left] at at_k
        have behind : k < dropped.length := by
          rw [← after.length_eq]
          exact (List.getElem?_eq_some_iff.mp at_k).1
        have law := owns_behind_section selected taken_open dropped_closes behind
        rw [after.mem_around_iff k place at_k]
        refine or_congr_right ?_
        constructor
        · rintro ⟨offset, rfl, owns⟩
          exact ⟨taken.length + 1 + offset, by omega, (law _).mpr ⟨offset, rfl, owns⟩⟩
        · rintro ⟨_, rfl, owns⟩
          obtain ⟨offset, rfl, apart⟩ := (law _).mp owns
          exact ⟨offset, by omega, apart⟩

end Laid

/-- Blocks are cut in front of the first that closes a level. -/
theorem exists_cut (level : Nat) (blocks : List Block) :
    ∃ taken dropped, blocks = taken ++ dropped ∧
      (blocks.map Node.block).takeWhile (fun next => !next.closes level) = taken.map .block ∧
      (blocks.map Node.block).dropWhile (fun next => !next.closes level) = dropped.map .block ∧
      (∀ found ∈ taken, ¬ Closes found level) ∧
      ∀ found, dropped[0]? = some found → Closes found level := by
  let isOpen : Block → Bool := fun found => !(Node.block found).closes level
  refine ⟨blocks.takeWhile isOpen, blocks.dropWhile isOpen,
    List.takeWhile_append_dropWhile.symm, List.takeWhile_map, List.dropWhile_map, ?_, ?_⟩
  · intro found member closes
    have kept : isOpen found = true :=
      List.all_eq_true.mp (List.all_takeWhile (p := isOpen) (l := blocks)) found member
    simp [isOpen, (closes_block level).mpr closes] at kept
  · intro found at_zero
    have stopped := List.head?_dropWhile_not isOpen blocks
    rw [List.head?_eq_getElem?, at_zero] at stopped
    exact (closes_block level).mp (by simpa [isOpen] using stopped)

/-- The blocks of folded nodes are placed as the law of sections says. -/
theorem laid_foldSelected (selector : Selector) (blocks : List Block) (start : Nat)
    (around : List Nat) :
    Laid selector start around blocks
      (placements start around (foldSelected selector (blocks.map .block))) := by
  generalize nodes_eq : blocks.map Node.block = nodes
  induction nodes using foldSelected.induct selector generalizing blocks start around with
  | case1 =>
    obtain rfl := List.map_eq_nil_iff.mp nodes_eq
    simpa [placements] using Laid.nil
  | case2 node rest unselected hypothesis =>
    obtain ⟨block, rest, rfl, rfl, rfl⟩ := List.map_eq_cons_iff.mp nodes_eq
    rw [foldSelected_of_unselected _ unselected]
    simp only [placements, Node.placements, List.length_singleton, List.singleton_append]
    refine Laid.cons_unselected (fun level selected => ?_) (hypothesis rest _ _ rfl)
    simp [(selectedLevel?_block level).mpr selected] at unselected
  | case3 node rest level selected takenHypothesis droppedHypothesis =>
    obtain ⟨block, rest, rfl, rfl, rfl⟩ := List.map_eq_cons_iff.mp nodes_eq
    obtain ⟨taken, dropped, rfl, taken_eq, dropped_eq, taken_open, dropped_closes⟩ :=
      exists_cut level rest
    have body := takenHypothesis taken (start + 1) (start :: around) taken_eq.symm
    have after := droppedHypothesis dropped (start + 1 + taken.length) around dropped_eq.symm
    rw [taken_eq] at body
    rw [dropped_eq] at after
    have laid := Laid.cons_selected ((selectedLevel?_block level).mp selected) taken_open
      dropped_closes body after
    rw [foldSelected_of_selected _ selected, taken_eq, dropped_eq]
    simpa [placements, Node.placements, Node.front, body.length_eq, Nat.add_assoc,
      Nat.add_comm 1] using laid

/-- Sections are owned exactly. The blocks of a folded document are those of the document in their
order; a block is the heading of a section if and only if it is a heading that the selector selects;
and a block lies in the section of another, at any depth, if and only if that one is a selected
heading before it and neither footnotes nor a heading of its level or a higher one stands after the
heading and up to the block. -/
theorem collapse_ownership (blocks : List Block) (selector : Selector) :
    let placed := placements 0 [] (collapse (blocks.map .block) (some selector))
    placed.map Placement.block = blocks ∧
      ∀ k place, placed[k]? = some place →
        (place.isHeading = true ↔ ∃ level, SelectedAt selector place.block level) ∧
          ∀ i, i ∈ place.around ↔ Owns selector blocks i k := by
  have laid := laid_foldSelected selector blocks 0 []
  refine ⟨laid.blocks_eq, fun k place at_k => ⟨?_, fun i => ?_⟩⟩
  · exact laid.isHeading_iff place (List.mem_of_getElem? at_k)
  · simpa using laid.mem_around_iff k place at_k i

end FoldMark.Outline
