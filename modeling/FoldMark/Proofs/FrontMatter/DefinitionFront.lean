import FoldMark.Proofs.FrontMatter.Definitions

/-!
# Documents that start with definitions

Front matter of definitions is the longest front of a document's lines that are definitions or blank
(`IsDefinitionFront`). There is some exactly if the first line that is not blank is a definition,
and then the lines alone tell where it starts and stops and what its payload is:
`extract_definitions_exact`.
-/

namespace FoldMark.FrontMatter

open Text

variable {document text : List Char} {front back lines gap run blanks rest : List (List Char)}

/-- A line that, without its end, is spelled as a definition. -/
def Defines (line : List Char) : Prop := ∃ spelling : Spelling, spelling.text = withoutEnd line

/-- The lines of a document without its mark: a gap, a run of definitions, blank lines and the
text. -/
structure IsDefinitionFront (document : List Char) (gap run blanks rest : List (List Char)) :
    Prop where
  /-- These are the lines of the document. -/
  cut : Text.lines (document.drop (markSize document)) = gap ++ (run ++ (blanks ++ rest))
  /-- The lines of the gap are blank. -/
  gap_blank : ∀ line ∈ gap, isBlankText line = true
  /-- The run starts with a definition. -/
  run_first : ∃ line ∈ run.head?, Defines line
  /-- The run holds definitions and blank lines alone. -/
  run_all : ∀ line ∈ run, isBlankText line = true ∨ Defines line
  /-- The run ends with a definition. -/
  run_last : ∃ line ∈ run.getLast?, Defines line
  /-- The lines after the run are blank. -/
  blanks_blank : ∀ line ∈ blanks, isBlankText line = true
  /-- The text starts with a line that is neither blank nor a definition. -/
  rest_first : ∀ line ∈ rest.head?, isBlankText line = false ∧ ¬ Defines line

/-- The first line of a document that is not blank is a definition. -/
def StartsWithDefinition (document : List Char) : Prop :=
  ∃ gap line others, Text.lines (document.drop (markSize document)) = gap ++ line :: others ∧
    (∀ line ∈ gap, isBlankText line = true) ∧ Defines line

/-! ## Lines that define -/

/-- The lines that are taken for definitions are those that are spelled as such. -/
theorem isDefinition_iff {line : List Char} : isDefinition line = true ↔ Defines line := by
  rw [isDefinition, Option.isSome_iff_exists]
  constructor
  · rintro ⟨definition, defines⟩
    obtain ⟨spelling, same, -⟩ := DefinitionLine.ofLine?_eq_some_iff.mp defines
    exact ⟨spelling, same⟩
  · rintro ⟨spelling, same⟩
    exact ⟨_, DefinitionLine.ofLine?_eq_some_iff.mpr ⟨spelling, same, rfl⟩⟩

/-- A definition is not blank. -/
theorem Defines.solid {line : List Char} (defines : Defines line) : isBlankText line = false := by
  obtain ⟨definition, reads⟩ := Option.isSome_iff_exists.mp (isDefinition_iff.mpr defines)
  have inside : ']' ∈ line := by
    obtain ⟨tail, whole, -⟩ := exists_dropTrailing_append (fun c => c == '\r' || c == '\n') line
    rw [whole]
    exact List.mem_append_left tail (DefinitionLine.bracket_mem reads)
  rw [isBlankText, List.all_eq_false]
  exact ⟨']', inside, by decide⟩

/-! ## Cutting lines -/

/-- What stands behind some of the lines of a text is the other lines. -/
theorem drop_size_of_lines (cut : Text.lines text = front ++ back) :
    text.drop (size front) = back.flatten ∧ Text.lines (text.drop (size front)) = back := by
  have behind : text.drop (size front) = back.flatten := by
    rw [← flatten_lines text, cut, List.flatten_append, size, List.drop_left]
  exact ⟨behind, by rw [behind]; exact (lines_eq_append cut).2.1⟩

/-- The blank lines at the front of a text end before the first line that is not blank. -/
theorem blankSize_of_lines (cut : Text.lines text = gap ++ back)
    (blank : ∀ line ∈ gap, isBlankText line = true)
    (solid : ∀ line ∈ back.head?, isBlankText line = false) : blankSize text = size gap := by
  rw [blankSize, cut, takeWhile_append_of_stops blank solid]

/-- Blank lines at the end are dropped. -/
theorem dropBlankTail_append (blank : ∀ line ∈ blanks, isBlankText line = true)
    (front : List (List Char)) :
    definitions?.dropBlankTail (front ++ blanks) = definitions?.dropBlankTail front := by
  have dropped : definitions?.dropBlankTail blanks = [] := by
    induction blanks with
    | nil => rfl
    | cons line blanks hypothesis =>
      rw [List.forall_mem_cons] at blank
      have later := hypothesis blank.2
      rw [definitions?.dropBlankTail] at later ⊢
      rw [List.foldr_cons, later, blank.1]
      rfl
  rw [definitions?.dropBlankTail] at dropped ⊢
  rw [List.foldr_append, dropped]
  rfl

/-- Nothing is dropped from lines of which the last is not blank. -/
theorem dropBlankTail_concat {line : List Char} (solid : isBlankText line = false)
    (front : List (List Char)) :
    definitions?.dropBlankTail (front ++ [line]) = front ++ [line] := by
  induction front with
  | nil => simp [definitions?.dropBlankTail, solid]
  | cons first front hypothesis =>
    rw [definitions?.dropBlankTail] at hypothesis ⊢
    rw [List.cons_append, List.foldr_cons, hypothesis]
    simp

/-- Lines are some of which the last is not blank, and blank lines after them. -/
theorem exists_blankTail (lines : List (List Char)) :
    ∃ run blanks, lines = run ++ blanks ∧ (∀ line ∈ blanks, isBlankText line = true) ∧
      ∀ line ∈ run.getLast?, isBlankText line = false := by
  induction lines using List.reverseRecOn with
  | nil => exact ⟨[], [], rfl, by simp, by simp⟩
  | append_singleton front line hypothesis =>
    cases blank : isBlankText line with
    | false => exact ⟨front ++ [line], [], by simp, by simp, by simpa using blank⟩
    | true =>
      obtain ⟨run, blanks, rfl, allBlank, last⟩ := hypothesis
      refine ⟨run, blanks ++ [line], by simp, ?_, last⟩
      exact List.forall_mem_append.mpr ⟨allBlank, List.forall_mem_singleton.mpr blank⟩

/-! ## Documents -/

/-- Whether a line belongs to the front is told by what is asked of lines one by one. -/
theorem front_test_iff {line : List Char} :
    (isBlankText line || isDefinition line) = true ↔ isBlankText line = true ∨ Defines line := by
  rw [Bool.or_eq_true, isDefinition_iff]

/-- A line that is neither blank nor a definition ends the front. -/
theorem front_test_eq_false_iff {line : List Char} :
    (isBlankText line || isDefinition line) = false ↔
      isBlankText line = false ∧ ¬ Defines line := by
  rw [← Bool.not_eq_true, front_test_iff, not_or, Bool.not_eq_true]

/-- A run of definitions with blank lines after it is found, and ends before them. -/
theorem definitions?_of_run (all : ∀ line ∈ run, isBlankText line = true ∨ Defines line)
    (last : ∃ line ∈ run.getLast?, Defines line)
    (blank : ∀ line ∈ blanks, isBlankText line = true)
    (stops : ∀ line ∈ rest.head?, isBlankText line = false ∧ ¬ Defines line) :
    definitions? (run ++ (blanks ++ rest)) = some ⟨run.flatten, size (run ++ blanks)⟩ := by
  have front : (run ++ (blanks ++ rest)).takeWhile
      (fun line => isBlankText line || isDefinition line) = run ++ blanks := by
    rw [← List.append_assoc]
    refine takeWhile_append_of_stops (List.forall_mem_append.mpr ⟨?_, ?_⟩) ?_
    · exact fun line member => front_test_iff.mpr (all line member)
    · exact fun line member => front_test_iff.mpr (Or.inl (blank line member))
    · exact fun line member => front_test_eq_false_iff.mpr (stops line member)
  obtain ⟨line, isLast, defines⟩ := last
  obtain ⟨before, rfl⟩ := List.getLast?_eq_some_iff.mp isLast
  have solid : line ≠ [] := by
    rintro rfl
    exact absurd defines.solid (by decide)
  rw [definitions?, front, dropBlankTail_append blank, dropBlankTail_concat defines.solid]
  simp [solid]

/-- Lines of which the first is neither blank nor a definition hold no front matter. -/
theorem definitions?_eq_none (stops : ∀ line ∈ rest.head?, isBlankText line = false ∧
    ¬ Defines line) : definitions? rest = none := by
  have front : rest.takeWhile (fun line => isBlankText line || isDefinition line) = [] :=
    takeWhile_append_of_stops (List.forall_mem_nil _)
      fun line member => front_test_eq_false_iff.mpr (stops line member)
  rw [definitions?, front]
  rfl

/-- What a document holds behind its blank lines. -/
theorem content_of_lines
    (cut : Text.lines (document.drop (markSize document)) = gap ++ back)
    (blank : ∀ line ∈ gap, isBlankText line = true)
    (solid : ∀ line ∈ back.head?, isBlankText line = false) :
    contentStart document = markSize document + size gap ∧
      document.drop (contentStart document) = back.flatten ∧
      Text.lines (document.drop (contentStart document)) = back := by
  have start : contentStart document = markSize document + size gap := by
    rw [contentStart, blankSize_of_lines cut blank solid]
  rw [start, ← List.drop_drop]
  exact ⟨rfl, drop_size_of_lines cut⟩

/-- The front matter of a document that starts with definitions is what its lines tell. -/
theorem IsDefinitionFront.extract (isFront : IsDefinitionFront document gap run blanks rest) :
    extract (some .refdef) document =
      .ok (some ⟨.refdef, run.flatten, markSize document + size gap,
        markSize document + size gap + size (run ++ blanks)⟩, rest.flatten) := by
  obtain ⟨first, isFirst, defines⟩ := isFront.run_first
  obtain ⟨others, rfl⟩ := List.head?_eq_some_iff.mp isFirst
  have solid : ∀ line ∈ (first :: others ++ (blanks ++ rest)).head?, isBlankText line = false := by
    simpa using defines.solid
  obtain ⟨start, -, content⟩ := content_of_lines isFront.cut isFront.gap_blank solid
  have found := definitions?_of_run isFront.run_all isFront.run_last isFront.blanks_blank
    isFront.rest_first
  rw [← List.append_assoc] at content
  obtain ⟨behind, later⟩ := drop_size_of_lines content
  rw [List.drop_drop] at behind later
  have noGap : blankSize (document.drop (contentStart document +
      size (first :: others ++ blanks))) = 0 :=
    blankSize_of_lines later (List.forall_mem_nil _)
      fun line member => (isFront.rest_first line member).1
  have located := locate?_eq_some_iff.mpr
    ⟨_, (by rw [find?, content, List.append_assoc, found] :
      find? .refdef (document.drop (contentStart document)) = .ok (some _)), rfl⟩
  rw [noGap, Nat.add_zero] at located
  refine extract_eq_ok_iff.mpr ⟨_, located, ?_⟩
  rw [body, behind, start]

/-- A document whose first line that is not blank is a definition starts with a run of them. -/
theorem StartsWithDefinition.exists_front (starts : StartsWithDefinition document) :
    ∃ gap run blanks rest, IsDefinitionFront document gap run blanks rest := by
  obtain ⟨gap, first, others, cut, blank, defines⟩ := starts
  let test : List Char → Bool := fun line => isBlankText line || isDefinition line
  have taken : (first :: others).takeWhile test = first :: others.takeWhile test :=
    List.takeWhile_cons_of_pos (front_test_iff.mpr (Or.inr defines))
  obtain ⟨run, blanks, front, allBlank, last⟩ := exists_blankTail ((first :: others).takeWhile test)
  have all : ∀ line ∈ run ++ blanks, isBlankText line = true ∨ Defines line := fun line member =>
    front_test_iff.mp (List.mem_takeWhile_imp (p := test) (front ▸ member))
  have nonempty : run ≠ [] := by
    rintro rfl
    have isBlank := allBlank first (by rw [← List.nil_append blanks, ← front, taken]; simp)
    rw [defines.solid] at isBlank
    cases isBlank
  refine ⟨gap, run, blanks, (first :: others).dropWhile test, ?_, blank, ?_, ?_, ?_, allBlank, ?_⟩
  · rw [cut, ← List.append_assoc run, ← front, List.takeWhile_append_dropWhile]
  · refine ⟨first, ?_, defines⟩
    rw [← List.head?_append_of_ne_nil run nonempty, ← front, taken]
    rfl
  · exact fun line member => all line (List.mem_append_left blanks member)
  · have isLast : run.getLast? = some (run.getLast nonempty) :=
      List.getLast?_eq_some_getLast nonempty
    have member := List.mem_append_left blanks (List.getLast_mem nonempty)
    exact ⟨_, isLast, (all _ member).resolve_left (by simp [last _ isLast])⟩
  · intro line member
    have stopped := List.head?_dropWhile_not test (first :: others)
    rw [Option.mem_def.mp member] at stopped
    exact front_test_eq_false_iff.mp stopped

/-- A document whose first line that is not blank is no definition has no front matter. -/
theorem extract_of_not_startsWithDefinition (absent : ¬ StartsWithDefinition document) :
    extract (some .refdef) document = .ok (none, document) := by
  let lines := Text.lines (document.drop (markSize document))
  have cut : Text.lines (document.drop (markSize document)) =
      lines.takeWhile isBlankText ++ lines.dropWhile isBlankText :=
    (List.takeWhile_append_dropWhile ..).symm
  have blank : ∀ line ∈ lines.takeWhile isBlankText, isBlankText line = true := fun line member =>
    List.mem_takeWhile_imp member
  have stops : ∀ line ∈ (lines.dropWhile isBlankText).head?,
      isBlankText line = false ∧ ¬ Defines line := by
    intro line isFirst
    constructor
    · have stopped := List.head?_dropWhile_not isBlankText lines
      rw [Option.mem_def.mp isFirst] at stopped
      simpa using stopped
    · intro defines
      obtain ⟨others, rest⟩ := List.head?_eq_some_iff.mp isFirst
      exact absent ⟨_, line, others, by rw [cut, rest], blank, defines⟩
  obtain ⟨-, -, content⟩ := content_of_lines cut blank fun line member => (stops line member).1
  refine extract_eq_ok_iff.mpr ⟨none, ?_, rfl⟩
  rw [locate?_eq, find?, content, definitions?_eq_none stops]
  rfl

/-- Front matter of definitions is found in a document exactly if its lines are a gap, a run of
definitions, blank lines and a text, of which the run is as long as can be. It then starts where the
gap ends and stops where the text starts, and its payload is the run. There is some exactly if the
first line that is not blank is a definition, and otherwise the text is the document. -/
theorem extract_definitions_exact (document : List Char) :
    (∀ front text, extract (some .refdef) document = .ok (some front, text) ↔
      ∃ gap run blanks rest, IsDefinitionFront document gap run blanks rest ∧
        front = ⟨.refdef, run.flatten, markSize document + size gap,
          markSize document + size gap + size (run ++ blanks)⟩ ∧ text = rest.flatten) ∧
    ((∃ front text, extract (some .refdef) document = .ok (some front, text)) ↔
      StartsWithDefinition document) ∧
    (¬ StartsWithDefinition document →
      extract (some .refdef) document = .ok (none, document)) := by
  have starts (front : FrontMatter) (text : List Char)
      (found : extract (some .refdef) document = .ok (some front, text)) :
      StartsWithDefinition document := by
    by_contra absent
    rw [extract_of_not_startsWithDefinition absent] at found
    cases found
  refine ⟨fun front text => ⟨fun found => ?_, ?_⟩, ⟨?_, fun starts => ?_⟩,
    extract_of_not_startsWithDefinition⟩
  · obtain ⟨gap, run, blanks, rest, isFront⟩ := (starts front text found).exists_front
    rw [isFront.extract] at found
    cases found
    exact ⟨gap, run, blanks, rest, isFront, rfl, rfl⟩
  · rintro ⟨gap, run, blanks, rest, isFront, rfl, rfl⟩
    exact isFront.extract
  · rintro ⟨front, text, found⟩
    exact starts front text found
  · obtain ⟨gap, run, blanks, rest, isFront⟩ := starts.exists_front
    exact ⟨_, _, isFront.extract⟩

end FoldMark.FrontMatter
