import FoldMark.Markdown.Document
import FoldMark.Proofs.Markdown.Progress
import FoldMark.Proofs.Text.Fronts
import FoldMark.Proofs.Text.LineEnds

/-!
# Documents of one line

A line that starts with a bracket, behind up to three spaces, is a definition or a paragraph where
no footnotes are read. So the definitions of a document that is such a line are the one at its
front, if there is one: `references_of_oneLine`.
-/

namespace FoldMark.Markdown

open FoldMark.Text

variable {features : Features} {indent : Nat} {body : List Char}

/-! ## The view of one line -/

/-- The view of a document that is a line with a bracket behind spaces. -/
def oneLine (features : Features) (indent : Nat) (body : List Char) : Scope where
  source := (List.replicate indent ' ' ++ '[' :: body).toArray
  lines := #[⟨0, indent + (body.length + 1), indent, indent, 0⟩]
  last := 1
  features

/-- Each space takes a column. -/
theorem foldl_columns (count column : Nat) :
    (List.replicate count ' ').foldl
      (fun column c => if c == '\t' then tabStop column else column + 1) column =
        column + count := by
  induction count generalizing column with
  | zero => rfl
  | succ count hypothesis =>
    rw [List.replicate_succ, List.foldl_cons, if_neg (by decide), hypothesis, Nat.add_right_comm]
    rfl

/-- A text without a line feed is viewed as one line. -/
theorem ofSource_oneLine (features : Features) (indent : Nat) (unbroken : '\n' ∉ body) :
    Scope.ofSource features (List.replicate indent ' ' ++ '[' :: body) =
      oneLine features indent body := by
  have whole : '\n' ∉ List.replicate indent ' ' ++ '[' :: body := by
    simp [List.mem_replicate, unbroken]
  have spaces : (List.replicate indent ' ' ++ '[' :: body).takeWhile isSpaceOrTab =
      List.replicate indent ' ' :=
    takeWhile_append_of_stops (fun c inside => by rw [(List.mem_replicate.mp inside).2]; rfl)
      (by rintro _ ⟨⟩; rfl)
  have columns : (List.replicate indent ' ').foldl
      (fun column c => if c == '\t' then tabStop column else column + 1) 0 = indent :=
    (foldl_columns indent 0).trans (Nat.zero_add indent)
  have ended : ((List.replicate indent ' ' ++ '[' :: body).getLast? == some '\n') = false :=
    beq_eq_false_iff_ne.mpr fun same => whole (List.mem_of_getLast? same)
  have lines : Line.ofTexts 0 (Text.lines (List.replicate indent ' ' ++ '[' :: body)) =
      [⟨0, indent + (body.length + 1), indent, indent, 0⟩] := by
    rw [lines_last whole (by simp)]
    simp only [Line.ofTexts, spaces, columns, ended]
    simp
  simp [Scope.ofSource, lines, oneLine]

/-- The text of the line. -/
theorem text_oneLine : (oneLine features indent body).text 0 = '[' :: body := by
  simp [Scope.text, Scope.line, Scope.slice, oneLine, Line.textStart]

/-- The line has no end. -/
theorem textWithEnd_oneLine : (oneLine features indent body).textWithEnd 0 = '[' :: body := by
  simp [Scope.textWithEnd, Scope.line, Scope.slice, oneLine, Line.textStart]

/-! ## Reading one line -/

/-- A bracket starts a footnote, a definition or a paragraph. -/
theorem readBlock_oneLine (noNotes : features.footnotes = false) (few : indent ≤ 3)
    (read : Reader) :
    Block.readBlock read 0 (oneLine features indent body) 0 1 =
      match Definition.atFront? ('[' :: body) with
      | some definition => Block.readDefinition definition 0
      | none => Block.readParagraph (oneLine features indent body) 0 := by
  have table : (oneLine features indent body).table? 0 1 = none := by
    simp [Scope.table?]
  have code : (oneLine features indent body).isCode 0 = false := by
    simp [Scope.isCode, Scope.line, oneLine]
    omega
  have fence : (oneLine features indent body).fence? 0 = none := by
    simp [Scope.fence?, text_oneLine, code]
  have quotation : (oneLine features indent body).startsQuotation 0 = false := by
    simp [Scope.startsQuotation, Scope.char?, Scope.line, oneLine, Line.textStart]
  have rule : (oneLine features indent body).isRule 0 = false := by
    simp [Scope.isRule, text_oneLine]
  have list : (oneLine features indent body).list? 0 = none := by
    simp [Scope.list?, Scope.marker?, text_oneLine, Scope.orderedMarker?, Scope.bulletMarker?]
  have footnote : (oneLine features indent body).footnote? 0 = none := by
    simp [Scope.footnote?, oneLine, noNotes]
  have definition : Block.definition? (oneLine features indent body) 0 =
      Definition.atFront? ('[' :: body) := by
    rw [Block.definition?, code, text_oneLine, textWithEnd_oneLine, if_neg (by simp)]
    exact congrArg Definition.atFront? (List.append_nil _)
  have html : (oneLine features indent body).html? 0 = none := by
    rw [Scope.html?, code, text_oneLine]
    rfl
  have heading : (oneLine features indent body).heading? 0 = none := by
    simp [Scope.heading?, text_oneLine, code]
  simp only [Block.readBlock, table, code, fence, quotation, rule, list, footnote, definition, html,
    heading]
  cases Definition.atFront? ('[' :: body) <;> rfl

/-- Behind the line there are no blocks. -/
theorem readBlocks_of_le {read : Reader} {scope : Scope} {stop n : Nat} (count : Nat)
    (sawBlank tight : Bool) (ended : stop ≤ n) :
    Block.readBlocks read 0 scope stop count n sawBlank tight = pure ⟨n, tight⟩ := by
  cases count with
  | zero => rfl
  | succ count =>
    rw [Block.readBlocks]
    dsimp only
    rw [if_pos ended]

/-- The block of the line is all that is read. -/
theorem readWithin_oneLine (draft : Draft) (depth : Nat) :
    (Block.readWithin (depth + 1) 0 (oneLine features indent body) 0 1 draft).2 =
      (Block.readBlock (Block.readWithin depth) 0 (oneLine features indent body) 0 1 draft).2 := by
  have solid : (oneLine features indent body).isBlank 0 = false := by
    simp [Scope.isBlank, Scope.line, oneLine, Line.isBlank, Line.textStart]
  have skipped : (oneLine features indent body).skipBlank 0 = 0 := by
    simp [Scope.skipBlank, Scope.skipBlankWithin, oneLine, ← solid]
  have inside : (oneLine features indent body).isOutdented 0 = false := by
    simp [Scope.isOutdented, Scope.line, oneLine]
  have first : Block.readWithin (depth + 1) 0 (oneLine features indent body) 0 1 =
      Block.readBlock (Block.readWithin depth) 0 (oneLine features indent body) 0 1 >>= fun next =>
        let endsBlank := next ≤ 1 && (oneLine features indent body).isBlank (next - 1)
        let isBlank := next < 1 && (oneLine features indent body).isBlank next
        Block.readBlocks (Block.readWithin depth) 0 (oneLine features indent body) 1 1
          (if isBlank then next + 1 else next) (false || endsBlank || isBlank) (!false) := by
    change Block.readBlocks (Block.readWithin depth) 0 (oneLine features indent body) 1 2 0 false
      true = _
    rw [Block.readBlocks]
    dsimp only
    rw [skipped, inside]
    rfl
  have lower : 0 < (Block.readBlock (Block.readWithin depth) 0 (oneLine features indent body) 0 1
      draft).1 :=
    Block.lt_of_readBlock (Block.advances_readWithin depth) Nat.zero_lt_one (Nat.le_refl 1) draft
  rw [first]
  generalize Block.readBlock _ _ _ _ _ = block at lower ⊢
  refine congrArg Prod.snd (congrFun (readBlocks_of_le 1 _ _ ?_) (block draft).2)
  split <;> omega

/-- The definitions of a document of one line are the one at its front, if there is one. -/
theorem references_of_oneLine (noNotes : features.footnotes = false) (few : indent ≤ 3)
    (unbroken : '\n' ∉ body) :
    (readDraft features [] (List.replicate indent ' ' ++ '[' :: body)).references =
      (Definition.atFront? ('[' :: body)).toList.map fun definition =>
        (definition.key, definition.reference) := by
  have draft : readDraft features [] (List.replicate indent ' ' ++ '[' :: body) =
      (Block.readBlock (Block.readWithin maxLevel) 0 (oneLine features indent body) 0 1 {}).2 := by
    rw [readDraft, ofSource_oneLine features indent unbroken]
    exact readWithin_oneLine {} maxLevel
  rw [draft, readBlock_oneLine noNotes few]
  cases Definition.atFront? ('[' :: body) <;> rfl

end FoldMark.Markdown
