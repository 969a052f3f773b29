import FoldMark.Markdown.Document
import FoldMark.Proofs.FrontMatter.Spelling
import FoldMark.Proofs.Markdown.Scanning
import FoldMark.Proofs.Text.LineEnds

/-!
# Null characters

A document is read with the replacement character for its null characters. No mark of the syntax is
either of the two, so that a line that is spelled as a definition is still spelled as one, with its
parts replaced: `Spelling.repaired`.
-/

namespace FoldMark.Markdown

open FoldMark.Text FrontMatter

variable {c : Char} {text : List Char}

/-- The replacement character for a null character. -/
def repair (c : Char) : Char := if c == '\x00' then '\uFFFD' else c

/-- A text on one line is read with its null characters replaced. -/
theorem normalizeSource_of_unbroken (unbroken : '\r' ∉ text) :
    normalizeSource text = text.map repair := by
  have newlines : normalizeNewlines text = text := by
    induction text with
    | nil => rfl
    | cons c rest hypothesis =>
      rw [List.mem_cons, not_or] at unbroken
      rw [normalizeNewlines_cons fun same => absurd same.symm unbroken.1,
        if_neg (Ne.symm unbroken.1), hypothesis unbroken.2]
  rw [normalizeSource, newlines]
  rfl

/-- Other characters are kept. -/
theorem repair_of_ne (other : c ≠ '\x00') : repair c = c := if_neg (by simpa using other)

/-- A text without null characters is kept. -/
theorem map_repair_of_not_mem (none : '\x00' ∉ text) : text.map repair = text :=
  (List.map_congr_left fun _ inside =>
    repair_of_ne (ne_of_mem_of_not_mem inside none)).trans (List.map_id text)

/-- What holds of the null character as of its replacement is kept. -/
theorem test_repair (test : Char → Bool) (same : test '\uFFFD' = test '\x00') (c : Char) :
    test (repair c) = test c := by
  by_cases null : c = '\x00'
  · subst null
    exact same
  · rw [repair_of_ne null]

/-- No other character becomes one that is not the replacement. -/
theorem repair_eq_iff {mark : Char} (notNull : mark ≠ '\x00') (notReplacement : mark ≠ '\uFFFD') :
    repair c = mark ↔ c = mark := by
  have same := test_repair (· == mark)
    (by rw [beq_eq_false_iff_ne.mpr notReplacement.symm, beq_eq_false_iff_ne.mpr notNull.symm]) c
  rw [← beq_iff_eq, same, beq_iff_eq]

/-- Backslashes are kept. -/
theorem endsEscaping_map_repair (text : List Char) :
    endsEscaping (text.map repair) = endsEscaping text := by
  have backslash : repair '\\' = '\\' := by decide
  induction text using escapes_induction with
  | nil => rfl
  | single => rfl
  | pair c text hypothesis =>
    simpa [backslash, endsEscaping] using hypothesis
  | plain c text plain hypothesis =>
    rw [List.map_cons, endsEscaping_cons plain, endsEscaping_cons, hypothesis]
    exact fun same => plain ((repair_eq_iff (by decide) (by decide)).mp same)

end FoldMark.Markdown

namespace FoldMark.FrontMatter

open Text Markdown

/-- The marks of titles are neither null characters nor their replacements. -/
theorem kept_of_titleCloser? {opener closer : Char} (closes : titleCloser? opener = some closer) :
    (opener ≠ '\x00' ∧ opener ≠ '\uFFFD') ∧ closer ≠ '\x00' ∧ closer ≠ '\uFFFD' := by
  rcases marks_of_titleCloser? closes with ⟨rfl, rfl⟩ | ⟨rfl, rfl⟩ | ⟨rfl, rfl⟩ <;> decide

/-- All characters of a text satisfy a test as they are replaced. -/
theorem forall_mem_map_repair {property : Char → Prop} {text : List Char}
    (all : ∀ c ∈ text, property c) (kept : ∀ c, property c → property (repair c)) :
    ∀ c ∈ text.map repair, property c := by
  rw [List.forall_mem_map]
  exact fun c inside => kept c (all c inside)

namespace Target

/-- A destination with its null characters replaced. -/
def repaired : Target → Target
  | angled inner => angled (inner.map repair)
  | bare run => bare (run.map repair)

theorem text_repaired (target : Target) : target.repaired.text = target.text.map repair := by
  cases target with
  | angled inner => simp [repaired, text, repair]
  | bare run => rfl

theorem inner_repaired (target : Target) : target.repaired.inner = target.inner.map repair := by
  cases target <;> rfl

/-- A line can still have the destination. -/
theorem isProper_repaired {target : Target} (proper : target.IsProper) :
    target.repaired.IsProper := by
  cases target with
  | angled inner =>
    refine forall_mem_map_repair proper fun c free => ?_
    rwa [ne_eq, repair_eq_iff (by decide) (by decide), ne_eq,
      repair_eq_iff (by decide) (by decide), ne_eq, repair_eq_iff (by decide) (by decide)]
  | bare run =>
    obtain ⟨nonempty, notAngled, solid⟩ := proper
    refine ⟨by simpa using nonempty, fun opened => notAngled ?_,
      forall_mem_map_repair solid fun c => (test_repair isBlank (by decide) c).trans⟩
    rw [List.head?_map, Option.map_eq_some_iff] at opened
    obtain ⟨c, first, same⟩ := opened
    rwa [(repair_eq_iff (by decide) (by decide)).mp same] at first

end Target

/-- A title with its null characters replaced. -/
def SpelledTitle.repaired (title : SpelledTitle) : SpelledTitle where
  __ := title
  inner := title.inner.map repair
  inner_free := by
    obtain ⟨notOpener, notCloser⟩ := kept_of_titleCloser? title.closes
    refine forall_mem_map_repair title.inner_free fun c free => ?_
    rwa [ne_eq, repair_eq_iff notOpener.1 notOpener.2, ne_eq,
      repair_eq_iff notCloser.1 notCloser.2, ne_eq, repair_eq_iff (by decide) (by decide)]

namespace Spelling

/-- A line with its null characters replaced. -/
def repaired (spelling : Spelling) : Spelling where
  __ := spelling
  label := spelling.label.map repair
  target := spelling.target.repaired
  title := spelling.title.map (·.repaired)
  label_free := by
    refine forall_mem_map_repair spelling.label_free fun c free => ?_
    rwa [ne_eq, repair_eq_iff (by decide) (by decide), ne_eq,
      repair_eq_iff (by decide) (by decide)]
  label_solid := by
    have kept : isBlank ∘ repair = isBlank := funext (test_repair isBlank (by decide))
    rw [isBlankText, List.all_map, kept]
    exact spelling.label_solid
  target_proper := Target.isProper_repaired spelling.target_proper

/-- Spaces are kept. -/
theorem map_repair_of_spaces {text : List Char} (spaces : ∀ c ∈ text, isSpaceOrTab c = true) :
    text.map repair = text :=
  map_repair_of_not_mem fun inside => absurd (spaces _ inside) (by decide)

/-- A title is replaced with the line. -/
theorem text_repaired_title (title : SpelledTitle) :
    title.repaired.text = title.text.map repair := by
  obtain ⟨notOpener, notCloser⟩ := kept_of_titleCloser? title.closes
  have opener : repair title.opener = title.opener := repair_of_ne notOpener.1
  have closer : repair title.closer = title.closer := repair_of_ne notCloser.1
  simp [SpelledTitle.repaired, SpelledTitle.text, opener, closer,
    map_repair_of_spaces title.gap_spaces]

/-- What follows the destination is replaced with the line. -/
theorem tail_repaired (spelling : Spelling) :
    spelling.repaired.tail = spelling.tail.map repair := by
  have trailing := map_repair_of_spaces spelling.trailing_spaces
  cases written : spelling.title with
  | none => simp [tail, repaired, written, trailing]
  | some title => simp [tail, repaired, written, trailing, text_repaired_title]

/-- A line with its null characters replaced is spelled as it was. -/
theorem text_repaired (spelling : Spelling) :
    spelling.repaired.text = spelling.text.map repair := by
  have indent : (List.replicate spelling.indent ' ').map repair =
      List.replicate spelling.indent ' ' :=
    map_repair_of_spaces fun c inside => by rw [(List.mem_replicate.mp inside).2]; rfl
  have target : spelling.repaired.target.text = spelling.target.text.map repair :=
    Target.text_repaired spelling.target
  have bracket : repair '[' = '[' ∧ repair ']' = ']' ∧ repair ':' = ':' := by decide
  rw [text, text, body, body, tail_repaired, target]
  simp only [List.map_append, List.map_cons, indent, bracket, map_repair_of_spaces
    spelling.gap_spaces]
  rfl

end Spelling

end FoldMark.FrontMatter
