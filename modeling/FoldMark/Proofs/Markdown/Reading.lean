import FoldMark.Proofs.Markdown.Lowered
import FoldMark.Proofs.Markdown.Progress

/-!
# Reading a lowered view

Tokens hold no positions, so what is read from a view does not tell how low it stands: reading a
lowered view adds the same tokens, definitions and labels, and ends as much lower. Each block has
its law here, then rows of blocks, then every depth (`followsDown_readWithin`).
-/

namespace FoldMark.Markdown

open FoldMark.Text

/-- A position some lines lower. -/
def Position.moved (rows : Nat) (position : Position) : Position :=
  { position with line := position.line + rows }

namespace Block

/-- A list some lines lower. -/
def ListState.moved (rows : Nat) (state : ListState) : ListState :=
  { state with line := state.line + rows }

/-- A reader reads a lowered view as it reads the other. -/
def FollowsDown (read : Reader) : Prop :=
  ∀ {rows size : Nat} {top scope : Scope}, Lowered rows size top scope →
    ∀ (level n stop : Nat), stop ≤ top.last →
      read level scope (n + rows) (stop + rows) =
        Position.moved rows <$> read level top n stop

end Block

namespace Lowered

open Block

variable {rows size : Nat} {top scope : Scope} (lowered : Lowered rows size top scope)

include lowered

/-! ## Leaf blocks -/

/-- An indented code block is read as it is. -/
theorem readCode_eq (n stop : Nat) :
    readCode scope (n + rows) (stop + rows) = (· + rows) <$> readCode top n stop := by
  have count : stop + rows - (n + 1 + rows) = stop - (n + 1) := Nat.add_sub_add_right ..
  simp only [readCode, Nat.add_right_comm n rows 1, count, lowered.codeEnd_eq, lowered.content_eq,
    lowered.blockIndent, map_bind, map_pure]

/-- A fenced code block is read as it is. -/
theorem readFence_eq (fence : Scope.Fence) (n stop : Nat) :
    readFence scope fence (n + rows) (stop + rows) = (· + rows) <$> readFence top fence n stop := by
  simp only [readFence, Nat.add_right_comm n rows 1, Nat.add_sub_add_right, lowered.fenceEnd_eq,
    lowered.content_eq, lowered.line_eq, Line.moved_indent, map_bind, map_pure]

/-- A block of HTML is read as it is. -/
theorem readHtml_eq (block : HtmlBlock) (n stop : Nat) :
    readHtml scope block (n + rows) (stop + rows) = (· + rows) <$> readHtml top block n stop := by
  have next : (if block.endsAt (top.text n) then n + 1 + rows
      else htmlEnd top block (stop - (n + 1)) (n + 1) + rows) =
        (if block.endsAt (top.text n) then n + 1
          else htmlEnd top block (stop - (n + 1)) (n + 1)) + rows := by
    split <;> rfl
  simp only [readHtml, Nat.add_right_comm n rows 1, Nat.add_sub_add_right, lowered.text_eq,
    lowered.htmlEnd_eq, next, lowered.content_eq, lowered.blockIndent, map_bind, map_pure]

/-- A table is read as it is. -/
theorem readTable_eq (alignments : List Alignment) (head : List (List Char)) (n stop : Nat) :
    readTable scope alignments head (n + rows) (stop + rows) =
      (· + rows) <$> readTable top alignments head n stop := by
  simp only [readTable, Nat.add_right_comm n rows 2, Nat.add_sub_add_right, lowered.tableRows_eq,
    map_bind]
  split
  all_goals simp only [map_bind, map_pure]

/-- A paragraph is read as it is. -/
theorem readParagraph_eq (n : Nat) :
    readParagraph scope (n + rows) = (· + rows) <$> readParagraph top n := by
  simp only [readParagraph, Nat.add_right_comm n rows 1, lowered.last, Nat.add_sub_add_right,
    lowered.paragraphEnd_eq, lowered.content_eq, lowered.blockIndent, map_bind, map_pure]

/-- A heading that is underlined is read as it is. -/
theorem readUnderlined_eq (headingLevel underline n : Nat) :
    readUnderlined scope headingLevel (underline + rows) (n + rows) =
      (· + rows) <$> readUnderlined top headingLevel underline n := by
  simp only [readUnderlined, lowered.content_eq, lowered.blockIndent,
    Nat.add_right_comm underline rows 1, map_bind, map_pure]

/-! ## Nested blocks -/

/-- An item that takes more than a line ends in a blank line or not. -/
theorem endsBlank_eq (first next : Nat) :
    (decide (next + rows > first + 1 + rows) && scope.isBlank (next + rows - 1)) =
      (decide (next > first + 1) && top.isBlank (next - 1)) := by
  have same : next + rows > first + 1 + rows ↔ next > first + 1 := by omega
  by_cases past : next > first + 1
  · have before : next + rows - 1 = next - 1 + rows := by omega
    rw [before, lowered.isBlank_eq, decide_eq_decide.mpr same]
  · simp [past, same]

variable {read : Reader} (follows : FollowsDown read) {level n stop : Nat}

include follows

/-- A quotation is read as it is. -/
theorem readQuotation_eq (inside : n < stop) (bound : stop ≤ top.last) :
    readQuotation read level scope (n + rows) (stop + rows) =
      (· + rows) <$> readQuotation read level top n stop := by
  let line := unquote top (top.line n)
  let inner : Scope := { top.withLine n line with blockIndent := 0 }
  let found := quotationScope top stop (stop - (n + 1)) (n + 1) (!line.isBlank) inner
  have within : Lowered rows size inner
      { scope.withLine (n + rows) (line.moved size) with blockIndent := 0 } :=
    (lowered.withLine n line).withColumns 0 lowered.listIndent
  obtain ⟨view, ends⟩ := lowered.quotationScope_lowered stop (stop - (n + 1)) (n + 1)
    (!line.isBlank) within
  have reach : found.2 ≤ found.1.last := by
    refine (quotationScope_spec ..).2.1 ?_
    change n + 1 + (stop - (n + 1)) ≤ top.last
    omega
  have content := follows view (level + 1) n found.2 reach
  simp only [readQuotation, lowered.line_eq, lowered.unquote_eq, Nat.add_right_comm n rows 1,
    Nat.add_sub_add_right, Line.moved_isBlank]
  rw [ends, content]
  simp only [map_bind, bind_map_left, map_pure]
  rfl

/-- A list item is read as it is. -/
theorem readItem_eq (bound : stop ≤ top.last) (marker : Scope.Marker) (state : ListState) :
    readItem read level scope marker (stop + rows) (state.moved rows) =
      ListState.moved rows <$> readItem read level top marker stop state := by
  have view := lowered.itemScope_lowered marker state.line
  have content := follows view (level + 2) state.line stop bound
  have passed : min (state.line + rows + 2) (stop + rows) = min (state.line + 2) stop + rows := by
    omega
  have rest : ∀ position : Position,
      (do
        put (.stop .listItem)
        return {
          line := position.line + rows
          tight := state.tight && position.tight && !state.endsBlank
          endsBlank := decide (position.line + rows > state.line + 1 + rows) &&
            scope.isBlank (position.line + rows - 1) : ListState } : Build ListState) =
      ListState.moved rows <$> (do
        put (.stop .listItem)
        return {
          line := position.line
          tight := state.tight && position.tight && !state.endsBlank
          endsBlank := decide (position.line > state.line + 1) &&
            top.isBlank (position.line - 1) : ListState } : Build ListState) := by
    intro position
    simp only [lowered.endsBlank_eq, map_bind, map_pure]
    rfl
  simp only [readItem, ListState.moved, view.isBlank_eq, Nat.add_right_comm state.line rows 1]
  rw [map_bind]
  refine bind_congr fun _ => ?_
  split
  · rw [passed, pure_bind, pure_bind]
    exact rest ⟨min (state.line + 2) stop, true⟩
  · rw [content, bind_map_left, map_bind]
    exact bind_congr rest

/-- The items of a list are read as they are. -/
theorem readItems_eq (bound : stop ≤ top.last) (first : Scope.Marker) (count : Nat)
    (marker : Scope.Marker) (state : ListState) :
    readItems read level scope first (stop + rows) count marker (state.moved rows) =
      ListState.moved rows <$> readItems read level top first stop count marker state := by
  induction count generalizing marker state with
  | zero => simp only [readItems, map_pure]
  | succ count hypothesis =>
    rw [readItems, readItems, lowered.readItem_eq follows bound, bind_map_left, map_bind]
    refine bind_congr fun state => ?_
    have next := lowered.nextMarker?_eq first state.line stop
    simp only [ListState.moved] at next ⊢
    rw [next]
    cases nextMarker? top first state.line stop with
    | none => simp only [map_pure, ListState.moved]
    | some marker => exact hypothesis marker state

/-- A list is read as it is. -/
theorem readList_eq (bound : stop ≤ top.last) (marker : Scope.Marker) :
    readList read level scope marker (n + rows) (stop + rows) =
      (· + rows) <$> readList read level top marker n stop := by
  have items : readItems read level scope marker (stop + rows) (stop - n) marker
      ⟨n + rows, true, false⟩ = _ :=
    lowered.readItems_eq follows bound marker (stop - n) marker ⟨n, true, false⟩
  simp only [readList, Nat.add_sub_add_right, items, map_bind, bind_map_left]
  refine bind_congr fun draft => bind_congr fun _ => bind_congr fun state => bind_congr fun _ => ?_
  obtain ⟨line, tight, endsBlank⟩ := state
  cases tight
  · simp only [ListState.moved, Bool.false_eq_true, if_false, map_pure]
  · simp only [ListState.moved, if_true, map_bind, map_pure]

/-- A footnote is read as it is. -/
theorem readFootnote_eq (bound : stop ≤ top.last) (label : List Char) (count : Nat) :
    readFootnote read level scope label count (n + rows) (stop + rows) =
      (· + rows) <$> readFootnote read level top label count n stop := by
  have content := follows (lowered.footnoteScope_lowered count n) (level + 1) n stop bound
  simp only [readFootnote, content, map_bind, bind_map_left, map_pure]
  rfl

/-! ## Rows of blocks -/

/-- Any block is read as it is. -/
theorem readBlock_eq (inside : n < stop) (bound : stop ≤ top.last) :
    readBlock read level scope (n + rows) (stop + rows) =
      (· + rows) <$> readBlock read level top n stop := by
  have count : stop + rows - (n + 1 + rows) = stop - (n + 1) := Nat.add_sub_add_right ..
  simp only [readBlock, lowered.table?_eq, lowered.isCode_eq, lowered.fence?_eq,
    lowered.startsQuotation_eq, lowered.isRule_eq, lowered.list?_eq, lowered.footnote?_eq,
    lowered.definition?_eq, lowered.html?_eq, lowered.heading?_eq, Nat.add_right_comm n rows 1,
    count, lowered.underlineFrom?_eq]
  cases top.table? n stop with
  | some table => exact lowered.readTable_eq ..
  | none =>
  cases top.isCode n with
  | true => exact lowered.readCode_eq ..
  | false =>
  cases top.fence? n with
  | some fence => exact lowered.readFence_eq ..
  | none =>
  cases top.startsQuotation n with
  | true => exact lowered.readQuotation_eq follows inside bound
  | false =>
  cases top.isRule n with
  | true => rfl
  | false =>
  cases top.list? n with
  | some marker => exact lowered.readList_eq follows bound marker
  | none =>
  cases top.footnote? n with
  | some note => exact lowered.readFootnote_eq follows bound ..
  | none =>
  cases definition? top n with
  | some definition =>
    have next : n + rows + definition.lines = n + definition.lines + rows := Nat.add_right_comm ..
    simp only [readDefinition, next]
    rfl
  | none =>
  cases top.html? n with
  | some block => exact lowered.readHtml_eq ..
  | none =>
  cases top.heading? n with
  | some heading => rfl
  | none =>
  cases underlineFrom? top stop (stop - (n + 1)) (n + 1) with
  | some found => exact lowered.readUnderlined_eq ..
  | none => exact lowered.readParagraph_eq n

/-- A row of blocks is read as it is. -/
theorem readBlocks_eq (advances : Advances read) (bound : stop ≤ top.last) (count n : Nat)
    (sawBlank tight : Bool) :
    readBlocks read level scope (stop + rows) count (n + rows) sawBlank tight =
      Position.moved rows <$> readBlocks read level top stop count n sawBlank tight := by
  induction count generalizing n sawBlank tight with
  | zero => exact (map_pure ..).symm
  | succ count hypothesis =>
    simp only [readBlocks, lowered.skipBlank_eq, lowered.isOutdented_eq, ge_iff_le,
      Nat.add_le_add_iff_right]
    split
    · exact (map_pure ..).symm
    split
    · exact (map_pure ..).symm
    · next goesOn =>
      have inside := lt_of_goesOn goesOn
      split
      · exact (map_pure ..).symm
      rw [lowered.readBlock_eq follows inside bound, bind_map_left, map_bind]
      refine (lt_of_readBlock advances inside bound).bind_congr fun next lower => ?_
      have before : next + rows - 1 = next - 1 + rows := by omega
      simp only [before, lowered.isBlank_eq, Nat.add_le_add_iff_right, Nat.add_lt_add_iff_right,
        Nat.add_right_comm next rows 1, ← hypothesis]
      congr 1
      split <;> rfl

end Lowered

/-- Reading follows a view down at any depth. -/
theorem Block.followsDown_readWithin (depth : Nat) : FollowsDown (readWithin depth) := by
  induction depth with
  | zero => exact fun _ _ _ _ _ => (map_pure ..).symm
  | succ depth hypothesis =>
    intro rows size top scope lowered level n stop bound
    simp only [readWithin, Nat.add_sub_add_right]
    exact lowered.readBlocks_eq hypothesis (advances_readWithin depth) bound ..

end FoldMark.Markdown
