import FoldMark.FrontMatter.Line
import FoldMark.Proofs.Markdown.Scanning
import FoldMark.Proofs.Text.Fronts
import Mathlib.Data.List.Basic
import Mathlib.Data.List.Infix

/-!
# How definition lines are spelled

A line is read as a definition exactly if it is the text of a `Spelling`, and then the definition
has the parts of the spelling: `ofLine?_eq_some_iff`. A spelling holds what the definition does not
keep, the blank characters around the label, the brackets or the missing brackets of the destination
and the marks of the title.
-/

namespace FoldMark.FrontMatter

open Text

/-! ## Spellings -/

/-- How a destination is spelled. -/
inductive Target where
  /-- Between angle brackets. -/
  | angled (inner : List Char)
  /-- As it is. -/
  | bare (run : List Char)

namespace Target

/-- The text of a destination. -/
def text : Target → List Char
  | angled inner => '<' :: (inner ++ ['>'])
  | bare run => run

/-- The destination without the brackets around it. -/
def inner : Target → List Char
  | angled inner => inner
  | bare run => run

/-- What a definition takes for the destination: it loses a closing bracket in any case. -/
def taken : Target → List Char
  | angled inner => inner
  | bare run => if run.getLast? == some '>' then run.dropLast else run

/-- A destination that a line can have. -/
def IsProper : Target → Prop
  | angled inner => ∀ c ∈ inner, c ≠ '<' ∧ c ≠ '>' ∧ c ≠ '\n'
  | bare run => run ≠ [] ∧ run.head? ≠ some '<' ∧ ∀ c ∈ run, isBlank c = false

/-- What may follow a destination: anything after brackets, else a blank character or nothing. -/
def MayPrecede : Target → List Char → Prop
  | angled _, _ => True
  | bare _, rest => ∀ c ∈ rest.head?, isBlank c = true

/-- A destination starts with a character that is no space. -/
theorem exists_cons {target : Target} (proper : target.IsProper) :
    ∃ c rest, target.text = c :: rest ∧ isSpaceOrTab c = false := by
  cases target with
  | angled inner => exact ⟨'<', _, rfl, by decide⟩
  | bare run =>
    obtain ⟨nonempty, -, solid⟩ := proper
    obtain ⟨c, rest, rfl⟩ := List.exists_cons_of_ne_nil nonempty
    refine ⟨c, rest, rfl, ?_⟩
    by_contra space
    have blank := isBlank_of_isSpaceOrTab (by simpa using space)
    rw [solid c List.mem_cons_self] at blank
    cases blank

end Target

/-- How a title is spelled. -/
structure SpelledTitle where
  /-- The spaces before it. -/
  gap : List Char
  /-- The mark before it. -/
  opener : Char
  /-- The title. -/
  inner : List Char
  /-- The mark after it. -/
  closer : Char
  /-- There is a space before it. -/
  gap_nonempty : gap ≠ []
  /-- Only spaces and tabs stand before it. -/
  gap_spaces : ∀ c ∈ gap, isSpaceOrTab c = true
  /-- The marks belong together. -/
  closes : Markdown.titleCloser? opener = some closer
  /-- Neither of the marks is within the title. -/
  inner_free : ∀ c ∈ inner, c ≠ opener ∧ c ≠ closer ∧ c ≠ '\n'

/-- The text of a title with the spaces before it. -/
def SpelledTitle.text (title : SpelledTitle) : List Char :=
  title.gap ++ title.opener :: (title.inner ++ [title.closer])

/-- How a definition line is spelled. -/
structure Spelling where
  /-- The number of spaces before the label. -/
  indent : Nat
  /-- What stands between the brackets. -/
  label : List Char
  /-- The spaces before the destination. -/
  gap : List Char
  /-- The destination. -/
  target : Target
  /-- The title, if there is one. -/
  title : Option SpelledTitle
  /-- The spaces at the end. -/
  trailing : List Char
  /-- There are no more spaces than that before the label. -/
  indent_le : indent ≤ 3
  /-- No brackets are within the label. -/
  label_free : ∀ c ∈ label, c ≠ '[' ∧ c ≠ ']'
  /-- The label is not blank. -/
  label_solid : isBlankText label = false
  /-- Only spaces and tabs stand before the destination. -/
  gap_spaces : ∀ c ∈ gap, isSpaceOrTab c = true
  /-- A line can have the destination. -/
  target_proper : target.IsProper
  /-- Only spaces and tabs stand at the end. -/
  trailing_spaces : ∀ c ∈ trailing, isSpaceOrTab c = true

namespace Spelling

/-- What follows the destination. -/
def tail (spelling : Spelling) : List Char :=
  (spelling.title.map SpelledTitle.text).getD [] ++ spelling.trailing

/-- What follows the first bracket. -/
def body (spelling : Spelling) : List Char :=
  spelling.label ++ ']' :: ':' :: (spelling.gap ++ (spelling.target.text ++ spelling.tail))

/-- The line. -/
def text (spelling : Spelling) : List Char :=
  List.replicate spelling.indent ' ' ++ '[' :: spelling.body

/-- Nothing but a space or a tab may stand behind the destination. -/
theorem tail_starts (spelling : Spelling) :
    ∀ c ∈ spelling.tail.head?, isSpaceOrTab c = true := by
  intro c next
  rw [tail] at next
  cases written : spelling.title with
  | none =>
    rw [written] at next
    exact spelling.trailing_spaces c (List.mem_of_mem_head? next)
  | some title =>
    obtain ⟨first, gap, same⟩ := List.exists_cons_of_ne_nil title.gap_nonempty
    rw [written] at next
    obtain rfl : first = c := by simpa [SpelledTitle.text, same] using next
    exact title.gap_spaces first (by rw [same]; exact List.mem_cons_self)

/-- The definition that is read from the line. -/
def definition (spelling : Spelling) : DefinitionLine :=
  ⟨trim spelling.label, spelling.target.taken, spelling.title.map (·.inner)⟩

end Spelling

variable {text rest : List Char}

namespace DefinitionLine

/-! ## The parts of a line -/

/-- A text is the longest front whose characters satisfy a test, and what follows it. -/
theorem eq_takeWhile_append_drop (test : Char → Bool) (text : List Char) :
    text = text.takeWhile test ++ text.drop (text.takeWhile test).length :=
  List.prefix_append_drop (List.takeWhile_prefix test)

/-- Between angle brackets, the text up to the closing one is read. -/
theorem destination?_angled {inner destination : List Char} :
    destination? ('<' :: inner) = some (destination, rest) ↔
      inner = destination ++ '>' :: rest ∧ Target.IsProper (.angled destination) := by
  rw [destination?]
  constructor
  · intro reads
    split at reads
    · rename_i after closed
      cases reads
      have whole := eq_takeWhile_append_drop (fun c => c != '<' && c != '>' && c != '\n') inner
      rw [closed] at whole
      exact ⟨whole, fun c inside => by simpa [and_assoc] using List.mem_takeWhile_imp inside⟩
    · cases reads
  · rintro ⟨rfl, proper⟩
    have run : (destination ++ '>' :: rest).takeWhile (fun c => c != '<' && c != '>' && c != '\n') =
        destination :=
      takeWhile_append_of_stops (fun c inside => by simpa [and_assoc] using proper c inside)
        (by simp)
    simp only [run, List.drop_left]

/-- Without an angle bracket, the text up to a blank character is read. -/
theorem destination?_bare {destination : List Char} (notAngled : text.head? ≠ some '<') :
    destination? text = some (destination, rest) ↔
      ∃ run, Target.IsProper (.bare run) ∧ Target.MayPrecede (.bare run) rest ∧
        text = run ++ rest ∧ Target.taken (.bare run) = destination := by
  rw [destination?.eq_def]
  split
  · exact absurd rfl notAngled
  dsimp only
  constructor
  · intro reads
    obtain ⟨solid, same⟩ := Option.ite_none_left_eq_some.mp reads
    cases same
    have whole := eq_takeWhile_append_drop (fun c => !isBlank c) text
    refine ⟨_, ⟨by simpa using solid, fun opened => ?_, fun c inside => ?_⟩, fun c next => ?_,
      whole, rfl⟩
    · rw [whole, List.head?_append, opened] at notAngled
      exact notAngled rfl
    · simpa using List.mem_takeWhile_imp inside
    · simpa using stops_of_drop (fun c => !isBlank c) text c next
  · rintro ⟨run, ⟨nonempty, -, solid⟩, precedes, rfl, rfl⟩
    have taken : (run ++ rest).takeWhile (fun c => !isBlank c) = run :=
      takeWhile_append_of_stops (fun c inside => by simpa using solid c inside)
        (fun c next => by simpa using precedes c next)
    simp only [taken, List.drop_left]
    rw [if_neg (by simpa using nonempty)]
    rfl

/-- A destination is read if it is one that a line can have. -/
theorem destination?_eq_some_iff {destination : List Char} :
    destination? text = some (destination, rest) ↔
      ∃ target : Target, target.IsProper ∧ target.MayPrecede rest ∧ text = target.text ++ rest ∧
        target.taken = destination := by
  by_cases bracketed : text.head? = some '<'
  · obtain ⟨inner, rfl⟩ := List.head?_eq_some_iff.mp bracketed
    rw [destination?_angled]
    constructor
    · rintro ⟨rfl, proper⟩
      exact ⟨.angled destination, proper, trivial, by simp [Target.text], rfl⟩
    · rintro ⟨target, proper, -, whole, rfl⟩
      cases target with
      | angled inner => exact ⟨by simpa [Target.text, Target.taken] using whole, proper⟩
      | bare run =>
        obtain ⟨c, run, rfl⟩ := List.exists_cons_of_ne_nil proper.1
        obtain ⟨rfl, -⟩ := List.cons.inj whole
        exact absurd rfl proper.2.1
  · rw [destination?_bare bracketed]
    constructor
    · rintro ⟨run, proper, precedes, whole, taken⟩
      exact ⟨.bare run, proper, precedes, whole, taken⟩
    · rintro ⟨target, proper, precedes, rfl, taken⟩
      cases target with
      | angled inner => exact absurd rfl bracketed
      | bare run => exact ⟨run, proper, precedes, rfl, taken⟩

/-- A text is read up to a closing mark, which is among the excluded characters. -/
theorem enclosed_eq_some_iff {excluded inner title : List Char} {stop : Char}
    (isExcluded : stop ∈ excluded) :
    (match inner.drop
        (inner.takeWhile fun c => !excluded.contains c && c != '\n').length with
      | c :: rest => if c == stop then
          some (inner.takeWhile fun c => !excluded.contains c && c != '\n', rest) else none
      | [] => none) = some (title, rest) ↔
        inner = title ++ stop :: rest ∧ ∀ c ∈ title, c ∉ excluded ∧ c ≠ '\n' := by
  constructor
  · intro reads
    have whole := eq_takeWhile_append_drop (fun c => !excluded.contains c && c != '\n') inner
    split at reads
    · rename_i c after closed
      split at reads
      · rename_i same
        obtain rfl := beq_iff_eq.mp same
        cases reads
        rw [closed] at whole
        exact ⟨whole, fun c inside => by simpa using List.mem_takeWhile_imp inside⟩
      · cases reads
    · cases reads
  · rintro ⟨rfl, free⟩
    have run : (title ++ stop :: rest).takeWhile (fun c => !excluded.contains c && c != '\n') =
        title :=
      takeWhile_append_of_stops (fun c inside => by simpa using free c inside)
        (by simp [isExcluded])
    rw [run, List.drop_left]
    simp

/-- A title is read if it stands between two marks, and neither of them is within it. -/
theorem title?_eq_some_iff {title : List Char} :
    title? text = some (title, rest) ↔
      ∃ opener closer, Markdown.titleCloser? opener = some closer ∧
        text = opener :: (title ++ closer :: rest) ∧
          ∀ c ∈ title, c ≠ opener ∧ c ≠ closer ∧ c ≠ '\n' := by
  constructor
  · intro reads
    unfold title? at reads
    split at reads
    · obtain ⟨rfl, free⟩ := (enclosed_eq_some_iff (by simp)).mp reads
      exact ⟨'"', '"', rfl, rfl, fun c inside => by simpa using free c inside⟩
    · obtain ⟨rfl, free⟩ := (enclosed_eq_some_iff (by simp)).mp reads
      exact ⟨'\'', '\'', rfl, rfl, fun c inside => by simpa using free c inside⟩
    · obtain ⟨rfl, free⟩ := (enclosed_eq_some_iff (by simp)).mp reads
      exact ⟨'(', ')', rfl, rfl, fun c inside => by simpa [and_assoc] using free c inside⟩
    · cases reads
  · rintro ⟨opener, closer, closes, rfl, free⟩
    rcases Markdown.marks_of_titleCloser? closes with ⟨rfl, rfl⟩ | ⟨rfl, rfl⟩ | ⟨rfl, rfl⟩
    · exact (enclosed_eq_some_iff (by simp)).mpr
        ⟨rfl, fun c inside => by simpa using free c inside⟩
    · exact (enclosed_eq_some_iff (by simp)).mpr
        ⟨rfl, fun c inside => by simpa using free c inside⟩
    · exact (enclosed_eq_some_iff (by simp)).mpr
        ⟨rfl, fun c inside => by simpa [and_assoc] using free c inside⟩

/-- A label without brackets inside is read unless it is blank. -/
theorem label?_of_free {label : List Char} (free : ∀ c ∈ label, c ≠ '[' ∧ c ≠ ']')
    (rest : List Char) :
    label? ('[' :: (label ++ ']' :: rest)) =
      if isBlankText label then none else some (label, rest) := by
  have run : (label ++ ']' :: rest).takeWhile (fun c => c != '[' && c != ']') = label :=
    takeWhile_append_of_stops (fun c inside => by simpa using free c inside) (by simp)
  rw [label?]
  simp only [run, List.drop_left]

/-- A label stands between brackets and has none inside. -/
theorem label?_spec {label : List Char} (reads : label? text = some (label, rest)) :
    text = '[' :: (label ++ ']' :: rest) ∧ ∀ c ∈ label, c ≠ '[' ∧ c ≠ ']' := by
  unfold label? at reads
  split at reads
  · rename_i inner
    dsimp only at reads
    split at reads
    · rename_i after closed
      split at reads
      · cases reads
      · cases reads
        have whole := eq_takeWhile_append_drop (fun c => c != '[' && c != ']') inner
        rw [closed] at whole
        refine ⟨congrArg _ whole, fun c inside => ?_⟩
        simpa using List.mem_takeWhile_imp inside
    · cases reads
  · cases reads

/-- A label is read if it stands between brackets, has none inside and is not blank. -/
theorem label?_eq_some_iff {label : List Char} :
    label? text = some (label, rest) ↔
      text = '[' :: (label ++ ']' :: rest) ∧ (∀ c ∈ label, c ≠ '[' ∧ c ≠ ']') ∧
        isBlankText label = false := by
  constructor
  · intro reads
    obtain ⟨rfl, free⟩ := label?_spec reads
    rw [label?_of_free free] at reads
    exact ⟨rfl, free, by simpa using (Option.ite_none_left_eq_some.mp reads).1⟩
  · rintro ⟨rfl, free, solid⟩
    rw [label?_of_free free, if_neg (by simp [solid])]

/-- Up to three spaces are dropped from the front of a line. -/
theorem exists_indent_le (line : List Char) :
    ∃ indent ≤ 3, line = List.replicate indent ' ' ++ dropIndent line := by
  let run := line.takeWhile (· == ' ')
  have spaces : run = List.replicate run.length ' ' :=
    List.eq_replicate_of_mem fun c inside => by simpa using List.mem_takeWhile_imp inside
  have whole : line = run ++ line.drop run.length := eq_takeWhile_append_drop _ line
  refine ⟨min 3 run.length, Nat.min_le_left .., ?_⟩
  have front : line.take (min 3 run.length) = List.replicate (min 3 run.length) ' ' := by
    rw [whole, List.take_append_of_le_length (Nat.min_le_right ..), spaces, List.take_replicate]
    simp
  rw [← front]
  exact (List.take_append_drop _ _).symm

/-- No more than the spaces in front are dropped. -/
theorem dropIndent_replicate {indent : Nat} (few : indent ≤ 3)
    (stops : ∀ c ∈ text.head?, c ≠ ' ') :
    dropIndent (List.replicate indent ' ' ++ text) = text := by
  have run : (List.replicate indent ' ' ++ text).takeWhile (· == ' ') =
      List.replicate indent ' ' :=
    takeWhile_append_of_stops (fun c inside => by simpa using (List.mem_replicate.mp inside).2)
      (fun c next => by simpa using stops c next)
  rw [dropIndent, run, List.length_replicate, Nat.min_eq_right few]
  exact List.drop_left' List.length_replicate

/-- Behind the destination there are spaces, and a title between them if one is read. -/
theorem exists_tail {label destination after : List Char} {definition : DefinitionLine}
    (defines : (if (after.dropWhile isSpaceOrTab).isEmpty then some ⟨label, destination, none⟩
      else if (after.dropWhile isSpaceOrTab).length < after.length then
        (title? (after.dropWhile isSpaceOrTab)).bind fun found =>
          if found.2.all isSpaceOrTab then some ⟨label, destination, some found.1⟩ else none
      else none) = some definition) :
    ∃ (title : Option SpelledTitle) (trailing : List Char),
      after = (title.map SpelledTitle.text).getD [] ++ trailing ∧
        (∀ c ∈ trailing, isSpaceOrTab c = true) ∧
        ⟨label, destination, title.map (·.inner)⟩ = definition := by
  have spaces : ∀ c ∈ after.takeWhile isSpaceOrTab, isSpaceOrTab c = true :=
    fun c inside => List.mem_takeWhile_imp inside
  have parts := List.takeWhile_append_dropWhile (p := isSpaceOrTab) (l := after)
  split at defines
  · rename_i last
    rw [List.isEmpty_iff.mp last, List.append_nil] at parts
    exact ⟨none, after, rfl, parts ▸ spaces, Option.some.inj defines⟩
  · split at defines
    · rename_i longer
      obtain ⟨⟨title, trailing⟩, titled, defines⟩ := Option.bind_eq_some_iff.mp defines
      obtain ⟨ends, same⟩ := Option.ite_none_right_eq_some.mp defines
      obtain ⟨opener, closer, closes, marked, inner⟩ := title?_eq_some_iff.mp titled
      have nonempty : after.takeWhile isSpaceOrTab ≠ [] := by
        intro empty
        rw [empty, List.nil_append] at parts
        exact absurd longer (by rw [parts]; exact Nat.lt_irrefl _)
      refine ⟨some ⟨_, opener, title, closer, nonempty, spaces, closes, inner⟩, trailing, ?_,
        List.all_eq_true.mp ends, Option.some.inj same⟩
      rw [marked] at parts
      simpa [SpelledTitle.text] using parts.symm
    · cases defines

/-- What a definition line tells is spelled by it. -/
theorem exists_spelling {line : List Char} {definition : DefinitionLine}
    (defines : ofLine? line = some definition) :
    ∃ spelling : Spelling, spelling.text = line ∧ spelling.definition = definition := by
  obtain ⟨indent, few, whole⟩ := exists_indent_le line
  unfold ofLine? at defines
  simp only [Option.bind_eq_bind, Option.bind_eq_some_iff, Prod.exists] at defines
  obtain ⟨label, rest, labelled, defines⟩ := defines
  obtain ⟨bracketed, free, solid⟩ := label?_eq_some_iff.mp labelled
  split at defines
  · rename_i gapped
    obtain ⟨⟨destination, after⟩, reads, defines⟩ := Option.bind_eq_some_iff.mp defines
    obtain ⟨target, proper, -, parts, rfl⟩ := destination?_eq_some_iff.mp reads
    obtain ⟨title, trailing, rfl, spaces, same⟩ := exists_tail defines
    obtain ⟨gap, rfl, gapSpaces⟩ : ∃ gap : List Char,
        gapped = gap ++ (target.text ++ ((title.map SpelledTitle.text).getD [] ++ trailing)) ∧
          ∀ c ∈ gap, isSpaceOrTab c = true :=
      ⟨gapped.takeWhile isSpaceOrTab, by rw [← parts, List.takeWhile_append_dropWhile],
        fun c inside => List.mem_takeWhile_imp inside⟩
    exact ⟨⟨indent, label, gap, target, title, trailing, few, free, solid, gapSpaces, proper,
        spaces⟩,
      (whole.trans (congrArg _ bracketed)).symm, same⟩
  · cases defines

/-- Behind a destination stands a blank character, or nothing. -/
theorem mayPrecede_tail (spelling : Spelling) : spelling.target.MayPrecede spelling.tail := by
  cases spelling.target with
  | angled inner => exact trivial
  | bare run => exact fun c next => isBlank_of_isSpaceOrTab (spelling.tail_starts c next)

/-- What a line spells is read from it. -/
theorem ofLine?_text (spelling : Spelling) : ofLine? spelling.text = some spelling.definition := by
  obtain ⟨first, text, starts, notSpace⟩ := Target.exists_cons spelling.target_proper
  have gap : (spelling.gap ++ (spelling.target.text ++ spelling.tail)).dropWhile isSpaceOrTab =
      spelling.target.text ++ spelling.tail :=
    dropWhile_append_of_stops spelling.gap_spaces (by rw [starts]; simpa using notSpace)
  have reads : destination? (spelling.target.text ++ spelling.tail) =
      some (spelling.target.taken, spelling.tail) :=
    destination?_eq_some_iff.mpr
      ⟨spelling.target, spelling.target_proper, mayPrecede_tail spelling, rfl, rfl⟩
  have labelled : label? ('[' :: spelling.body) =
      some (spelling.label,
        ':' :: (spelling.gap ++ (spelling.target.text ++ spelling.tail))) :=
    label?_eq_some_iff.mpr ⟨rfl, spelling.label_free, spelling.label_solid⟩
  rw [Spelling.text, ofLine?, dropIndent_replicate spelling.indent_le (by simp), labelled]
  simp only [Option.bind_eq_bind, Option.bind_some, gap, reads]
  cases written : spelling.title with
  | none =>
    have tail : spelling.tail.dropWhile isSpaceOrTab = [] := by
      rw [Spelling.tail, written]
      simpa [List.dropWhile_eq_nil_iff] using spelling.trailing_spaces
    simp [tail, Spelling.definition, written]
  | some title =>
    have whole : spelling.tail =
        title.gap ++ title.opener :: (title.inner ++ title.closer :: spelling.trailing) := by
      simp [Spelling.tail, written, SpelledTitle.text]
    have tail : spelling.tail.dropWhile isSpaceOrTab =
        title.opener :: (title.inner ++ title.closer :: spelling.trailing) := by
      rw [whole]
      exact dropWhile_append_of_stops title.gap_spaces
        (by simp [(Markdown.opener_of_titleCloser? title.closes).1])
    have longer : (spelling.tail.dropWhile isSpaceOrTab).length < spelling.tail.length := by
      rw [tail, whole, List.length_append]
      exact Nat.lt_add_of_pos_left (List.length_pos_of_ne_nil title.gap_nonempty)
    have titled : title? (spelling.tail.dropWhile isSpaceOrTab) =
        some (title.inner, spelling.trailing) :=
      title?_eq_some_iff.mpr ⟨_, _, title.closes, tail, title.inner_free⟩
    rw [if_neg (by simp [tail]), if_pos longer, titled]
    simp only [Option.bind_some]
    rw [if_pos (List.all_eq_true.mpr spelling.trailing_spaces), Spelling.definition, written]
    rfl

/-- A line is read as a definition exactly if it is spelled as one, and the definition is what the
spelling tells. -/
theorem ofLine?_eq_some_iff {line : List Char} {definition : DefinitionLine} :
    ofLine? line = some definition ↔
      ∃ spelling : Spelling, spelling.text = line ∧ spelling.definition = definition := by
  constructor
  · exact exists_spelling
  · rintro ⟨spelling, rfl, rfl⟩
    exact ofLine?_text spelling

end DefinitionLine

end FoldMark.FrontMatter
