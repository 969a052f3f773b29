import FoldMark.Path
import FoldMark.Payload

/-!
# Suffixes of names

A name that is cut before its suffix is the name again, and a suffix that is put on can be taken off
(`cutSuffix_append`). So the name of a file in an output format tells the stem of the source, and it
is never the name of a Markdown file.
-/

namespace FoldMark

open Text

namespace Name

variable {name other front ending : Name}

/-- A name without its suffix is not empty if the name is not. -/
theorem stem_ne_nil (nonempty : name ≠ []) : stem name ≠ [] := by
  simp only [stem, cutSuffix]
  split
  · exact nonempty
  · rename_i cut
    simp only [Bool.or_eq_true, List.isEmpty_iff, not_or] at cut
    exact cut.2

/-- A name without its suffix holds characters of the name. -/
theorem mem_of_mem_stem {c : Char} (member : c ∈ stem name) : c ∈ name := by
  rw [← stem_append_suffix name]
  exact List.mem_append_left _ member

/-- A suffix that is put on can be taken off. -/
theorem cutSuffix_append (nonempty : front ≠ []) (ends : ending ≠ []) (dotless : '.' ∉ ending) :
    cutSuffix (front ++ '.' :: ending) = (front, '.' :: ending) := by
  have taken : (front ++ '.' :: ending).reverse.takeWhile (· != '.') = ending.reverse := by
    have reversed : (front ++ '.' :: ending).reverse = ending.reverse ++ '.' :: front.reverse := by
      simp
    rw [reversed, List.takeWhile_append_of_pos, List.takeWhile_cons_of_neg] <;>
      simp only [bne_self_eq_false, Bool.false_eq_true, not_false_eq_true, List.append_nil,
        List.mem_reverse, bne_iff_ne]
    intro c member dot
    exact dotless (dot ▸ member)
  have cut : (front ++ '.' :: ending).take
      ((front ++ '.' :: ending).length - ending.length - 1) = front := by
    have size : (front ++ '.' :: ending).length - ending.length - 1 = front.length := by
      rw [List.length_append, List.length_cons]
      omega
    rw [size, List.take_left]
  simp only [cutSuffix, taken, List.reverse_reverse, cut]
  rw [if_neg (by simp [ends, nonempty])]

/-! ## Markdown files and what they become -/

/-- A name has a suffix of Markdown files, in any letter case. -/
def IsMarkdown (name : Name) : Prop :=
  lower (suffix name) = ".md".toList ∨ lower (suffix name) = ".markdown".toList

/-- The name of the file in an output format. -/
def inFormat (format : PayloadFormat) (name : Name) : Name :=
  stem name ++ '.' :: format.name.toList

/-- Names with one stem, and only such, become one name. -/
theorem inFormat_eq_iff (format : PayloadFormat) :
    name.inFormat format = other.inFormat format ↔ stem name = stem other :=
  List.append_left_inj _

/-- A Markdown file has a suffix. -/
theorem IsMarkdown.suffix_ne_nil (markdown : name.IsMarkdown) : suffix name ≠ [] := by
  intro none
  rw [IsMarkdown, none] at markdown
  revert markdown
  decide

/-- A Markdown file has a name. -/
theorem IsMarkdown.ne_nil (markdown : name.IsMarkdown) : name ≠ [] := by
  rintro rfl
  exact markdown.suffix_ne_nil (by decide)

/-- A name with a suffix leads neither nowhere nor up. -/
theorem ne_dots_of_suffix_ne_nil (suffixed : suffix name ≠ []) : name ≠ here ∧ name ≠ up :=
  ⟨fun same => suffixed (by rw [same]; decide), fun same => suffixed (by rw [same]; decide)⟩

/-- A file in an output format has the suffix of the format. -/
theorem suffix_inFormat (format : PayloadFormat) (nonempty : name ≠ []) :
    suffix (name.inFormat format) = '.' :: format.name.toList := by
  have dotless : '.' ∉ format.name.toList := by cases format <;> decide
  have ends : format.name.toList ≠ [] := by cases format <;> decide
  rw [suffix, inFormat, cutSuffix_append (stem_ne_nil nonempty) ends dotless]

/-- A file in an output format is no Markdown file. -/
theorem not_isMarkdown_inFormat (format : PayloadFormat) (nonempty : name ≠ []) :
    ¬ (name.inFormat format).IsMarkdown := by
  rw [IsMarkdown, suffix_inFormat format nonempty]
  cases format <;> decide

/-- The name of a file in an output format leads neither nowhere nor up. -/
theorem inFormat_ne_dots (format : PayloadFormat) (nonempty : name ≠ []) :
    name.inFormat format ≠ here ∧ name.inFormat format ≠ up :=
  ne_dots_of_suffix_ne_nil (by simp [suffix_inFormat format nonempty])

end Name

namespace Path

/-- A path is that of a Markdown file if its last name is. -/
theorem isMarkdown_iff {path : Path} : path.isMarkdown = true ↔ path.name.IsMarkdown := by
  simp [isMarkdown, suffix, Name.IsMarkdown, ← String.toList_inj]

/-- A Markdown file lies in the directory around it under its name. -/
theorem parent_append_name {path : Path} (markdown : path.name.IsMarkdown) :
    path.parent.append [path.name] = path := by
  have named : path.names ≠ [] := by
    intro empty
    exact markdown.ne_nil (by simp [name, empty])
  have last : path.name = path.names.getLast named := by
    simp [name, List.getLast?_eq_some_getLast named]
  rw [last, append, parent, List.dropLast_concat_getLast]

end Path

end FoldMark
