import FoldMark.Markdown.Block

/-!
# Lowered views

A view that stands lower in a longer document shows the same lines. `Lowered` tells this of two
views, one of which has some more lines above; every question that is asked about a line has the
same answer about the lower line, and every line that is looked for is found as much lower.
-/

namespace FoldMark.Markdown

open FoldMark.Text

/-- A line whose positions are moved by some characters. -/
def Line.moved (size : Nat) (line : Line) : Line :=
  { line with start := line.start + size, stop := line.stop + size }

namespace Line

variable (size : Nat) (line : Line)

@[simp] theorem moved_indent : (line.moved size).indent = line.indent := rfl

@[simp] theorem moved_offset : (line.moved size).offset = line.offset := rfl

@[simp] theorem moved_shift : (line.moved size).shift = line.shift := rfl

@[simp] theorem moved_start : (line.moved size).start = line.start + size := rfl

@[simp] theorem moved_stop : (line.moved size).stop = line.stop + size := rfl

@[simp] theorem moved_textStart : (line.moved size).textStart = line.textStart + size :=
  Nat.add_right_comm ..

@[simp] theorem moved_isBlank : (line.moved size).isBlank = line.isBlank := by
  simp [isBlank]

end Line

/-- A view shows what another does, by so many lines and characters lower. -/
structure Lowered (rows size : Nat) (top scope : Scope) : Prop where
  /-- The source ends with that of the other. -/
  source : scope.source.toList.drop size = top.source.toList
  /-- Its front has so many characters. -/
  size_le : size ≤ scope.source.size
  /-- The lines are those of the other. -/
  lines : ∀ n : Nat, scope.lines[n + rows]? = top.lines[n]?.map (Line.moved size)
  /-- The last line of a paragraph is. -/
  last : scope.last = top.last + rows
  /-- The content starts in the same column. -/
  blockIndent : scope.blockIndent = top.blockIndent
  /-- So does the enclosing list. -/
  listIndent : scope.listIndent = top.listIndent
  /-- The language is the same. -/
  features : scope.features = top.features

namespace Lowered

variable {rows size : Nat} {top scope : Scope}

/-! ## Lines -/

section Lines

variable (lowered : Lowered rows size top scope)

include lowered

/-- The source is longer by its front. -/
theorem source_size : scope.source.size = top.source.size + size := by
  have length := congrArg List.length lowered.source
  have bound := lowered.size_le
  simp only [List.length_drop, Array.length_toList] at length
  omega

/-- A line is moved. -/
theorem line_eq (n : Nat) : scope.line (n + rows) = (top.line n).moved size := by
  have sizes := lowered.source_size
  rw [Scope.line, Scope.line, Array.getD_eq_getD_getElem?, Array.getD_eq_getD_getElem?,
    lowered.lines]
  cases top.lines[n]? with
  | none => simp [Line.moved, sizes]
  | some line => rfl

/-- A character is moved. -/
theorem char?_eq (position : Nat) : scope.char? (position + size) = top.char? position := by
  have same := congrArg (·[position]?) lowered.source
  simpa [Scope.char?, Nat.add_comm size] using same

/-- A part of the source is moved. -/
theorem slice_eq (start stop : Nat) :
    scope.slice (start + size) (stop + size) = top.slice start stop := by
  rw [Scope.slice, Scope.slice, Array.toList_extract, Array.toList_extract, List.extract,
    List.extract, ← lowered.source, List.drop_drop, Nat.add_comm size start, Nat.add_sub_add_right]

/-- A part of the source with the character after it is moved. -/
theorem slice_succ_eq (start stop : Nat) :
    scope.slice (start + size) (stop + size + 1) = top.slice start (stop + 1) := by
  rw [Nat.add_right_comm stop size 1, lowered.slice_eq]

/-- A line has the same text. -/
theorem text_eq (n : Nat) : scope.text (n + rows) = top.text n := by
  simp [Scope.text, lowered.line_eq, lowered.slice_eq]

/-- It ends with the same character. -/
theorem textWithEnd_eq (n : Nat) : scope.textWithEnd (n + rows) = top.textWithEnd n := by
  simp [Scope.textWithEnd, lowered.line_eq, lowered.slice_succ_eq]

/-- It is blank or not. -/
theorem isBlank_eq (n : Nat) : scope.isBlank (n + rows) = top.isBlank n := by
  simp [Scope.isBlank, lowered.line_eq]

/-- It is indented as code is or not. -/
theorem isCode_eq (n : Nat) : scope.isCode (n + rows) = top.isCode n := by
  simp [Scope.isCode, lowered.line_eq, lowered.blockIndent]

/-- It lies left of the content or not. -/
theorem isOutdented_eq (n : Nat) : scope.isOutdented (n + rows) = top.isOutdented n := by
  simp [Scope.isOutdented, lowered.line_eq, lowered.blockIndent]

/-- As many blank lines are passed. -/
theorem skipBlank_eq (n : Nat) : scope.skipBlank (n + rows) = top.skipBlank n + rows := by
  have within : ∀ count n : Nat,
      scope.skipBlankWithin count (n + rows) = top.skipBlankWithin count n + rows := by
    intro count
    induction count with
    | zero => exact fun n => rfl
    | succ count hypothesis =>
      intro n
      simp only [Scope.skipBlankWithin, lowered.last, lowered.isBlank_eq, Nat.add_lt_add_iff_right,
        Nat.add_right_comm n rows 1, hypothesis]
      split <;> rfl
  rw [Scope.skipBlank, Scope.skipBlank, lowered.last, Nat.add_sub_add_right, within]

/-- Lines have the same content. -/
theorem content_eq (first stop width : Nat) (keepEnd : Bool) :
    scope.content (first + rows) (stop + rows) width keepEnd =
      top.content first stop width keepEnd := by
  have line : ∀ i : Nat, scope.line (first + rows + i) = (top.line (first + i)).moved size :=
    fun i => by rw [Nat.add_right_comm, lowered.line_eq]
  have inner : ∀ i : Nat, first + rows + i + 1 < stop + rows ↔ first + i + 1 < stop := by omega
  simp only [Scope.content, Nat.add_sub_add_right, line, inner, Line.moved_offset,
    Line.moved_shift, Line.moved_start, Line.moved_stop, apply_ite (scope.slice _),
    lowered.slice_eq, lowered.slice_succ_eq, apply_ite (top.slice _)]

/-! ## Starts of blocks -/

/-- A line opens the same fence. -/
theorem fence?_eq (n : Nat) : scope.fence? (n + rows) = top.fence? n := by
  simp only [Scope.fence?, lowered.text_eq, lowered.isCode_eq]

/-- It starts a quotation or not. -/
theorem startsQuotation_eq (n : Nat) :
    scope.startsQuotation (n + rows) = top.startsQuotation n := by
  simp only [Scope.startsQuotation, lowered.isCode_eq, lowered.line_eq, Line.moved_textStart,
    lowered.char?_eq]

/-- It is a thematic break or not. -/
theorem isRule_eq (n : Nat) : scope.isRule (n + rows) = top.isRule n := by
  simp only [Scope.isRule, lowered.text_eq, lowered.isCode_eq]

/-- It is the same heading. -/
theorem heading?_eq (n : Nat) : scope.heading? (n + rows) = top.heading? n := by
  simp only [Scope.heading?, lowered.text_eq, lowered.isCode_eq]

/-- It lies between lists or not. -/
theorem isBetweenLists_eq (n : Nat) : scope.isBetweenLists (n + rows) = top.isBetweenLists n := by
  rw [Scope.isBetweenLists, Scope.isBetweenLists, lowered.listIndent, lowered.line_eq,
    lowered.isOutdented_eq]
  rfl

/-- It starts the same list. -/
theorem list?_eq (n : Nat) : scope.list? (n + rows) = top.list? n := by
  simp only [Scope.list?, Scope.marker?, lowered.isBetweenLists_eq, lowered.text_eq,
    lowered.isCode_eq]

/-- It starts a list that interrupts a paragraph or not. -/
theorem listInterrupts_eq (n : Nat) : scope.listInterrupts (n + rows) = top.listInterrupts n := by
  simp only [Scope.listInterrupts, lowered.list?_eq, lowered.isOutdented_eq, lowered.text_eq]

/-- It starts the same footnote. -/
theorem footnote?_eq (n : Nat) : scope.footnote? (n + rows) = top.footnote? n := by
  simp only [Scope.footnote?, lowered.features, lowered.isCode_eq, lowered.text_eq]

/-- It starts the same block of HTML. -/
theorem html?_eq (n : Nat) : scope.html? (n + rows) = top.html? n := by
  simp only [Scope.html?, lowered.isCode_eq, lowered.text_eq]

/-- It starts the same table. -/
theorem table?_eq (n stop : Nat) : scope.table? (n + rows) (stop + rows) = top.table? n stop := by
  have fits : n + rows + 2 > stop + rows ↔ n + 2 > stop := by omega
  simp only [Scope.table?, lowered.features, fits, Nat.add_right_comm n rows 1,
    lowered.isOutdented_eq, lowered.isCode_eq, lowered.text_eq]

/-- It ends a list or not. -/
theorem interruptsList_eq (n : Nat) : scope.interruptsList (n + rows) = top.interruptsList n := by
  simp only [Scope.interruptsList, lowered.fence?_eq, lowered.startsQuotation_eq,
    lowered.isRule_eq]

/-- It ends a quotation or not. -/
theorem interruptsQuotation_eq (n : Nat) :
    scope.interruptsQuotation (n + rows) = top.interruptsQuotation n := by
  simp only [Scope.interruptsQuotation, lowered.interruptsList_eq, lowered.list?_eq,
    lowered.html?_eq, lowered.heading?_eq]

/-- It ends a paragraph or a definition, apart from a list, or not. -/
theorem interruptsText_eq (n stop : Nat) :
    scope.interruptsText (n + rows) (stop + rows) = top.interruptsText n stop := by
  simp only [Scope.interruptsText, lowered.table?_eq, lowered.interruptsList_eq,
    lowered.footnote?_eq, lowered.html?_eq, lowered.heading?_eq]

/-- It ends a paragraph or not. -/
theorem interruptsParagraph_eq (n stop : Nat) :
    scope.interruptsParagraph (n + rows) (stop + rows) = top.interruptsParagraph n stop := by
  simp only [Scope.interruptsParagraph, lowered.interruptsText_eq, lowered.listInterrupts_eq]

/-- It ends a definition or not. -/
theorem interruptsDefinition_eq (n stop : Nat) :
    scope.interruptsDefinition (n + rows) (stop + rows) = top.interruptsDefinition n stop := by
  simp only [Scope.interruptsDefinition, lowered.interruptsText_eq, lowered.list?_eq]

/-! ## Extents of blocks -/

open Block

/-- An indented code block ends as much lower. -/
theorem codeEnd_eq (count n last : Nat) :
    codeEnd scope count (n + rows) (last + rows) = codeEnd top count n last + rows := by
  induction count generalizing n last with
  | zero => rfl
  | succ count hypothesis =>
    simp only [codeEnd, lowered.isBlank_eq, lowered.isCode_eq, Nat.add_right_comm n rows 1,
      hypothesis]
    split
    · rfl
    · split <;> rfl

/-- A line closes a fence or not. -/
theorem closesFence_eq (fence : Scope.Fence) (n : Nat) :
    closesFence scope fence (n + rows) = closesFence top fence n := by
  simp only [closesFence, lowered.text_eq, lowered.isCode_eq]

/-- A fenced code block ends as much lower. -/
theorem fenceEnd_eq (fence : Scope.Fence) (count n : Nat) :
    fenceEnd scope fence count (n + rows) =
      ((fenceEnd top fence count n).1 + rows, (fenceEnd top fence count n).2 + rows) := by
  induction count generalizing n with
  | zero => rfl
  | succ count hypothesis =>
    simp only [fenceEnd, lowered.isBlank_eq, lowered.isOutdented_eq, lowered.line_eq,
      Line.moved_textStart, lowered.source_size, ge_iff_le, Nat.add_le_add_iff_right,
      lowered.closesFence_eq, Nat.add_right_comm n rows 1, hypothesis]
    split
    · rfl
    · split
      · rfl
      · split <;> rfl

/-- A block of HTML ends as much lower. -/
theorem htmlEnd_eq (block : HtmlBlock) (count n : Nat) :
    htmlEnd scope block count (n + rows) = htmlEnd top block count n + rows := by
  induction count generalizing n with
  | zero => rfl
  | succ count hypothesis =>
    simp only [htmlEnd, lowered.text_eq, lowered.isOutdented_eq, Nat.add_right_comm n rows 1,
      hypothesis]
    split
    · rfl
    · split
      · split <;> rfl
      · rfl

/-- A table has the same rows, and ends as much lower. -/
theorem tableRows_eq (columns count n : Nat) (filled : Int) :
    tableRows scope columns count (n + rows) filled =
      ((tableRows top columns count n filled).1 + rows,
        (tableRows top columns count n filled).2) := by
  induction count generalizing n filled with
  | zero => rfl
  | succ count hypothesis =>
    simp only [tableRows, lowered.text_eq, lowered.isOutdented_eq, lowered.interruptsQuotation_eq,
      lowered.isCode_eq, Nat.add_right_comm n rows 1, hypothesis]
    split
    · rfl
    · split <;> rfl

/-- A paragraph ends as much lower. -/
theorem paragraphEnd_eq (count n : Nat) :
    paragraphEnd scope count (n + rows) = paragraphEnd top count n + rows := by
  induction count generalizing n with
  | zero => rfl
  | succ count hypothesis =>
    simp only [paragraphEnd, lowered.isBlank_eq, lowered.isCode_eq, lowered.line_eq,
      Line.moved_indent, lowered.last, lowered.interruptsParagraph_eq, Nat.add_right_comm n rows 1,
      hypothesis]
    split
    · rfl
    · split
      · rfl
      · split <;> rfl

/-- A line underlines the same heading. -/
theorem underline?_eq (n : Nat) : underline? scope (n + rows) = underline? top n := by
  simp only [underline?, lowered.text_eq, lowered.isOutdented_eq]

/-- The underline of a heading is found as much lower. -/
theorem underlineFrom?_eq (stop count n : Nat) :
    underlineFrom? scope (stop + rows) count (n + rows) =
      (underlineFrom? top stop count n).map fun found => (found.1 + rows, found.2) := by
  induction count generalizing n with
  | zero => rfl
  | succ count hypothesis =>
    simp only [underlineFrom?, lowered.isBlank_eq, lowered.isCode_eq, lowered.underline?_eq,
      lowered.line_eq, Line.moved_indent, lowered.interruptsParagraph_eq,
      Nat.add_right_comm n rows 1, hypothesis]
    split
    · rfl
    · split
      · rfl
      · cases underline? top n with
        | some level => rfl
        | none =>
          dsimp only
          split
          · rfl
          · split <;> rfl

/-- A definition may take the same text. -/
theorem definitionText_eq (count n : Nat) :
    definitionText scope count (n + rows) = definitionText top count n := by
  induction count generalizing n with
  | zero => rfl
  | succ count hypothesis =>
    simp only [definitionText, lowered.isBlank_eq, lowered.isCode_eq, lowered.line_eq,
      Line.moved_indent, lowered.last, lowered.interruptsDefinition_eq, lowered.textWithEnd_eq,
      Nat.add_right_comm n rows 1, hypothesis]

/-- A line starts the same definition. -/
theorem definition?_eq (n : Nat) : definition? scope (n + rows) = definition? top n := by
  simp only [definition?, lowered.isCode_eq, lowered.text_eq, lowered.textWithEnd_eq, lowered.last,
    Nat.add_right_comm n rows 1, Nat.add_sub_add_right, lowered.definitionText_eq]

/-! ## Views of nested levels -/

/-- A line that is replaced is replaced in both. -/
theorem withLine (n : Nat) (line : Line) :
    Lowered rows size (top.withLine n line) (scope.withLine (n + rows) (line.moved size)) := by
  refine { lowered with lines := fun other => ?_ }
  have bounds : n + rows < scope.lines.size ↔ n < top.lines.size := by
    have same := Bool.eq_iff_iff.mp (congrArg Option.isSome (lowered.lines n))
    simpa using same
  simp only [Scope.withLine, Array.getElem?_setIfInBounds, Nat.add_right_cancel_iff, bounds,
    lowered.lines]
  split
  · split <;> rfl
  · rfl

/-- A view whose content starts elsewhere is lowered with it. -/
theorem withColumns (blockIndent : Nat) {listIndent otherIndent : Option Nat}
    (same : otherIndent = listIndent) :
    Lowered rows size { top with blockIndent, listIndent }
      { scope with blockIndent, listIndent := otherIndent } :=
  { lowered with blockIndent := rfl, listIndent := same }

/-- A quotation mark is taken off in both. -/
theorem unquote_eq (line : Line) :
    unquote scope (line.moved size) = (unquote top line).moved size := by
  have next : line.textStart + size + 1 = line.textStart + 1 + size := Nat.add_right_comm ..
  simp only [unquote, Line.moved_textStart, Line.moved_indent, Line.moved_offset, Line.moved_stop,
    next, lowered.char?_eq]
  split
  all_goals
    simp only [Nat.add_right_comm (line.textStart + 1) size 1, lowered.slice_eq, Line.moved]

/-- A quotation has the same lines in both, and ends as much lower. -/
theorem quotationScope_lowered (stop count n : Nat) (isOpen : Bool) {inner other : Scope}
    (within : Lowered rows size inner other) :
    Lowered rows size (quotationScope top stop count n isOpen inner).1
        (quotationScope scope (stop + rows) count (n + rows) isOpen other).1 ∧
      (quotationScope scope (stop + rows) count (n + rows) isOpen other).2 =
        (quotationScope top stop count n isOpen inner).2 + rows := by
  induction count generalizing n isOpen inner other with
  | zero => exact ⟨within, rfl⟩
  | succ count hypothesis =>
    simp only [quotationScope, lowered.line_eq, Line.moved_isBlank, Line.moved_textStart,
      lowered.char?_eq, lowered.isOutdented_eq, lowered.interruptsQuotation_eq, lowered.unquote_eq,
      Nat.add_right_comm n rows 1]
    split
    · exact ⟨within, rfl⟩
    · split
      · exact hypothesis (n + 1) _ (within.withLine n _)
      · split
        · exact ⟨within, rfl⟩
        · split
          · exact ⟨{ within with last := rfl }, rfl⟩
          · exact hypothesis (n + 1) _ (within.withLine n _)

/-- A list item has the same lines in both. -/
theorem itemScope_lowered (marker : Scope.Marker) (n : Nat) :
    Lowered rows size (itemScope top marker n) (itemScope scope marker (n + rows)) := by
  have after : ∀ start marker : Nat, start + size + marker = start + marker + size :=
    fun start marker => Nat.add_right_comm ..
  simp only [itemScope, lowered.line_eq, Line.moved_textStart, Line.moved_indent,
    Line.moved_offset, Line.moved_stop, Line.moved_shift, after, lowered.slice_eq, ge_iff_le,
    Nat.add_le_add_iff_right, lowered.blockIndent]
  exact (lowered.withLine n _).withColumns _ rfl

/-- A footnote has the same lines in both. -/
theorem footnoteScope_lowered (count n : Nat) :
    Lowered rows size (footnoteScope top count n) (footnoteScope scope count (n + rows)) := by
  have after : ∀ start marker : Nat, start + size + marker = start + marker + size :=
    fun start marker => Nat.add_right_comm ..
  simp only [footnoteScope, lowered.line_eq, Line.moved_textStart, Line.moved_indent,
    Line.moved_stop, after, lowered.slice_eq, lowered.blockIndent]
  exact (lowered.withLine n _).withColumns _ lowered.listIndent

/-- A list goes on with the same mark. -/
theorem nextMarker?_eq (first : Scope.Marker) (n stop : Nat) :
    nextMarker? scope first (n + rows) (stop + rows) = nextMarker? top first n stop := by
  simp only [nextMarker?, ge_iff_le, Nat.add_le_add_iff_right, lowered.isOutdented_eq,
    lowered.isCode_eq, lowered.interruptsList_eq, lowered.text_eq]

end Lines

end Lowered

end FoldMark.Markdown
