import FoldMark.FrontMatter
import FoldMark.Proofs.Text.Pieces

/-!
# Gaps before a text

The blank lines that are passed before front matter and after it. Every text is a gap and what
follows it in exactly one way, and its size is the one that is passed over: `blankSize_gap`,
`exists_gap`.
-/

namespace FoldMark.FrontMatter

open Text

/-- A text has no blank line at its front. -/
def StartsSolid (text : List Char) : Prop :=
  ∀ line others, lines text = line :: others → isBlankText line = false

/-- Blank lines before a text that starts with no blank line. -/
structure IsGap (gap text : List Char) : Prop where
  /-- The lines are blank. -/
  blank : isBlankText gap = true
  /-- They end before the text does. -/
  ended : text = [] ∨ EndsLine gap
  /-- The text starts with no blank line. -/
  solid : StartsSolid text

/-- The offset at which the first line stands that is not blank, after a byte order mark. -/
def contentStart (document : List Char) : Nat :=
  markSize document + blankSize (document.drop (markSize document))

/-- The lines of a gap and of what follows it are the lines of both. -/
theorem IsGap.lines_append {gap text : List Char} (isGap : IsGap gap text) :
    lines (gap ++ text) = lines gap ++ lines text := by
  rcases isGap.ended with rfl | ended
  · simp [lines]
  · exact Text.lines_append ended text

/-- The blank lines at the front of a text are those of its gap. -/
theorem blankSize_gap {gap text : List Char} (isGap : IsGap gap text) :
    blankSize (gap ++ text) = gap.length := by
  have blank := isBlankText_iff_lines.mp isGap.blank
  have none : (lines text).takeWhile isBlankText = [] := by
    cases cut : lines text with
    | nil => rfl
    | cons line others => rw [List.takeWhile_cons_of_neg (by simp [isGap.solid line others cut])]
  rw [blankSize, isGap.lines_append, List.takeWhile_append_of_pos blank, none, List.append_nil,
    size, flatten_lines]

/-- Every text is a gap and what follows it. -/
theorem exists_gap (text : List Char) :
    ∃ gap rest, text = gap ++ rest ∧ IsGap gap rest ∧ gap.length = blankSize text := by
  have cut : lines text =
      (lines text).takeWhile isBlankText ++ (lines text).dropWhile isBlankText :=
    List.takeWhile_append_dropWhile.symm
  obtain ⟨frontLines, backLines, ended⟩ := lines_eq_append cut
  refine ⟨((lines text).takeWhile isBlankText).flatten,
    ((lines text).dropWhile isBlankText).flatten, ?_, ⟨?_, ?_, ?_⟩, rfl⟩
  · rw [← List.flatten_append, ← cut, flatten_lines]
  · rw [isBlankText_iff_lines, frontLines]
    exact List.all_eq_true.mp List.all_takeWhile
  · by_cases none : (lines text).dropWhile isBlankText = []
    · exact Or.inl (by rw [none]; rfl)
    · exact Or.inr (ended none)
  · intro line others first
    have stopped := List.head?_dropWhile_not isBlankText (lines text)
    rw [backLines] at first
    simpa [first] using stopped

/-- A mark is at the front of a text or not at all. -/
theorem markSize_append {front : List Char} (nonempty : front ≠ []) (back : List Char) :
    markSize (front ++ back) = markSize front := by
  cases front with
  | nil => exact absurd rfl nonempty
  | cons c rest =>
    by_cases isMark : c = '\uFEFF'
    · subst isMark
      rfl
    · rw [List.cons_append, markSize, markSize]
      · exact fun _ same => isMark (List.cons.inj same).1
      · exact fun _ same => isMark (List.cons.inj same).1

/-- A mark is not blank. -/
theorem markSize_of_isBlankText {text : List Char} (blank : isBlankText text = true) :
    markSize text = 0 := by
  cases text with
  | nil => rfl
  | cons c rest =>
    have first : isBlank c = true := List.all_eq_true.mp blank c List.mem_cons_self
    rw [markSize]
    intro _ same
    rw [(List.cons.inj same).1] at first
    exact absurd first (by decide)

/-- Front matter is looked for where the content starts. -/
theorem locate?_eq (kind : Kind) (document : List Char) :
    locate? kind document = (do
      match ← find? kind (document.drop (contentStart document)) with
      | none => .ok none
      | some found =>
        let after := contentStart document + found.size
        .ok (some ⟨kind, found.payload, contentStart document,
          after + blankSize (document.drop after)⟩)) := rfl

/-- A text whose first character is not blank starts with no blank line. -/
theorem startsSolid_cons {c : Char} {rest : List Char} (solid : isBlank c = false) :
    StartsSolid (c :: rest) := by
  have inside : c ≠ '\n' := by
    rintro rfl
    exact absurd solid (by decide)
  intro line others cut
  have first : ∃ back, line = c :: back := by
    cases later : lines rest with
    | nil =>
      rw [lines, if_neg inside, later] at cut
      exact ⟨[], (List.cons.inj cut).1.symm⟩
    | cons head tail =>
      rw [lines_cons_of_ne inside later] at cut
      exact ⟨head, (List.cons.inj cut).1.symm⟩
  obtain ⟨back, rfl⟩ := first
  simp [isBlankText, solid]

/-- The content of a document starts after its mark and its gap. -/
theorem contentStart_append {mark gap rest : List Char} {c : Char}
    (isMark : mark = [] ∨ mark = ['\uFEFF']) (blank : isBlankText gap = true)
    (ended : EndsLine gap) (solid : isBlank c = false) (noMark : markSize [c] = 0) :
    contentStart (mark ++ gap ++ c :: rest) = (mark ++ gap).length := by
  have gapNoMark : markSize (gap ++ c :: rest) = 0 := by
    by_cases none : gap = []
    · rw [none, List.nil_append, ← List.singleton_append, markSize_append (List.cons_ne_nil c [])]
      exact noMark
    · rw [markSize_append none]
      exact markSize_of_isBlankText blank
  have size : markSize (mark ++ gap ++ c :: rest) = mark.length := by
    rcases isMark with rfl | rfl
    · exact gapNoMark
    · rfl
  have after : (mark ++ gap ++ c :: rest).drop mark.length = gap ++ c :: rest := by simp
  have isGap : IsGap gap (c :: rest) := ⟨blank, Or.inr ended, startsSolid_cons solid⟩
  rw [contentStart, size, after, blankSize_gap isGap, List.length_append]

/-- Every document is a mark or nothing, a gap, and its content. -/
theorem exists_front (document : List Char) :
    ∃ mark gap content, document = mark ++ gap ++ content ∧ (mark = [] ∨ mark = ['\uFEFF']) ∧
      IsGap gap content ∧ document.drop (contentStart document) = content := by
  obtain ⟨gap, content, rest, isGap, length⟩ := exists_gap (document.drop (markSize document))
  have isMark : document.take (markSize document) = [] ∨
      document.take (markSize document) = ['\uFEFF'] := by
    unfold markSize
    split
    · exact Or.inr rfl
    · exact Or.inl rfl
  refine ⟨document.take (markSize document), gap, content, ?_, isMark, isGap, ?_⟩
  · rw [List.append_assoc, ← rest, List.take_append_drop]
  · rw [contentStart, ← length, ← List.drop_drop, rest, List.drop_left]

end FoldMark.FrontMatter
