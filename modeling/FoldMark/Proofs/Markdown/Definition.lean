import FoldMark.Proofs.FrontMatter.Spelling
import FoldMark.Proofs.Markdown.Scanning
import FoldMark.Proofs.Text.Marks
import Mathlib.Data.List.Basic

/-!
# Definitions that are spelled on a line

What the rule for link reference definitions reads from a line that is spelled as a definition: the
label as it stands between the brackets, and the destination and the title with their escapes
replaced (`atFront?_body`). It refuses some such lines, but reads no other parts from them, except
where a backslash takes the bracket behind the label or the tab behind a destination without
brackets. In the first case the label goes on, and its key is another one
(`bracket_mem_key`).
-/

namespace FoldMark.FrontMatter

open Text Markdown

/-- A backslash at the end of a destination without brackets takes the tab behind it. -/
def Spelling.TakesTab (spelling : Spelling) : Prop :=
  ∃ run, spelling.target = .bare run ∧ endsEscaping run = true ∧ spelling.tail.head? = some '\t'

end FoldMark.FrontMatter

namespace FoldMark.Markdown

open FoldMark.Text FrontMatter

/-! ## Keys of labels -/

/-- Only spaces are put between words. -/
theorem mem_intercalate_iff {words : List (List Char)} {c : Char} (solid : c ≠ ' ') :
    c ∈ [' '].intercalate words ↔ c ∈ words.flatten := by
  induction words with
  | nil => rfl
  | cons word words hypothesis =>
    cases words with
    | nil => simp [List.intercalate]
    | cons second words =>
      rw [List.intercalate_cons_cons, List.flatten_cons, List.mem_append, List.mem_append,
        hypothesis, List.mem_append, List.mem_singleton, or_iff_left solid]

/-- The key of a label has a closing bracket exactly if the label does. -/
theorem bracket_mem_labelKey_iff {label : List Char} : ']' ∈ labelKey label ↔ ']' ∈ label := by
  rw [labelKey, bracket_mem_caseKey_iff, mem_intercalate_iff (by decide), spacedWords,
    mem_flatten_splitRuns_iff (by decide)]

/-- On one line all blank characters but the last information separator are white space. -/
theorem isWhiteSpace_of_isBlank {c : Char} (blank : isBlank c = true)
    (inner : isLineBoundary c = false) (noSeparator : c ≠ '\x1f') : isWhiteSpace c = true := by
  have other : c.toNat ≠ 0x1F := fun same => noSeparator (Char.toNat_inj.mp same)
  simp only [isBlank, isLineBoundary, isWhiteSpace, isSpacing, Bool.or_eq_true, Bool.and_eq_true,
    Bool.or_eq_false_iff, Bool.and_eq_false_iff, decide_eq_true_eq, decide_eq_false_iff_not,
    beq_iff_eq, beq_eq_false_iff_ne] at blank inner ⊢
  omega

/-- A label on one line keeps its key without the blank characters around it, unless the last
information separator is among them. -/
theorem labelKey_trim {label : List Char} (inner : ∀ c ∈ label, isLineBoundary c = false)
    (noSeparator : '\x1f' ∉ label) : labelKey (trim label) = labelKey label := by
  have words : spacedWords (trim label) = spacedWords label :=
    splitRuns_trimBy label fun c inside blank =>
      isWhiteSpace_of_isBlank blank (inner c inside) fun same => noSeparator (same ▸ inside)
  rw [labelKey, words, labelKey]

namespace Definition

variable {definition : Definition} {label rest tail destination title : List Char} {size : Nat}

/-! ## The rule -/

/-- Behind a destination the line ends, with a title before its end or without one. -/
inductive EndsLine (title : List Char) (behind : List Char) : Prop
  /-- There is no title. -/
  | plain (empty : title = []) (ended : atLineEnd behind = true)
  /-- There is a title. -/
  | titled (after : List Char) (found : titleAfter? behind = some (title, after))
    (ended : atLineEnd after = true)

/-- What a definition is read from: a label, a safe destination behind a colon, and a title before
the end of the line or none. -/
structure Parts (body : List Char) (definition : Definition) where
  /-- How many characters the label has. -/
  labelSize : Nat
  /-- What stands behind the colon. -/
  rest : List Char
  /-- The destination. -/
  destination : List Char
  /-- How many characters the destination takes. -/
  size : Nat
  /-- The title. -/
  title : List Char
  /-- The label comes first. -/
  labelled : labelSize? body = some labelSize
  /-- The colon stands behind it. -/
  colon : body.drop (labelSize + 1) = ':' :: rest
  /-- The destination stands on one line. -/
  scanned : destination? (firstLine (skipSpace rest)) = some (destination, size)
  /-- It is safe. -/
  safe : Url.isSafe (Url.normalize destination) = true
  /-- The definition is looked up by its label. -/
  key_eq : definition.key = labelKey (body.take labelSize)
  /-- It stands for the destination and the title. -/
  reference_eq : definition.reference = ⟨Url.normalize destination, title⟩
  /-- The line ends behind the destination or behind the title. -/
  ends : (title = [] ∧ size = (firstLine (skipSpace rest)).length) ∨
    EndsLine title ((skipSpace rest).drop size)

/-- What a definition is made of, unless its key is empty. -/
theorem eq_of_defined {isEmpty : Bool} {key : List Char} {reference : Reference} {count : Nat}
    (found : (if isEmpty = true then none else some ⟨key, reference, count⟩) = some definition) :
    definition.key = key ∧ definition.reference = reference := by
  obtain rfl := Option.some.inj (Option.ite_none_left_eq_some.mp found).2
  exact ⟨rfl, rfl⟩

/-- What a definition without a title is made of; the line ends behind its destination. -/
theorem eq_of_plain {isEmpty : Bool} {key behind : List Char} {count : Nat}
    (found : (if atLineEnd behind = true then
        (if isEmpty = true then none else some ⟨key, ⟨destination, []⟩, count⟩)
      else none) = some definition) :
    definition.key = key ∧ definition.reference = ⟨destination, []⟩ ∧ EndsLine [] behind := by
  obtain ⟨ended, found⟩ := Option.ite_none_right_eq_some.mp found
  obtain ⟨key, reference⟩ := eq_of_defined found
  exact ⟨key, reference, .plain rfl ended⟩

/-- A definition that is found has all its parts. -/
theorem exists_parts {body : List Char} (found : atFront? ('[' :: body) = some definition) :
    Nonempty (Parts body definition) := by
  unfold atFront? at found
  obtain ⟨count, labelled, found⟩ := Option.bind_eq_some_iff.mp found
  dsimp only at found
  split at found
  on_goal 2 => cases found
  rename_i rest colon
  obtain ⟨⟨destination, size⟩, scanned, found⟩ := Option.bind_eq_some_iff.mp found
  dsimp only at found
  split at found
  · cases found
  rename_i refused
  have safe : Url.isSafe (Url.normalize destination) = true := by simpa using refused
  split at found
  · rename_i whole
    obtain ⟨key, reference⟩ := eq_of_defined found
    exact ⟨⟨count, rest, destination, size, [], labelled, colon, scanned, safe, key, reference,
      Or.inl ⟨rfl, whole⟩⟩⟩
  have untitled : ∀ {isEmpty : Bool} {lines : Nat},
      (if atLineEnd ((skipSpace rest).drop size) = true then
        (if isEmpty = true then none
        else some ⟨labelKey (body.take count), ⟨Url.normalize destination, []⟩, lines⟩)
      else none) = some definition → Nonempty (Parts body definition) := by
    intro isEmpty lines found
    obtain ⟨key, reference, ends⟩ := eq_of_plain found
    exact ⟨⟨count, rest, destination, size, [], labelled, colon, scanned, safe, key, reference,
      Or.inr ends⟩⟩
  split at found
  · rename_i title after titled
    split at found
    · rename_i ended
      obtain ⟨key, reference⟩ := eq_of_defined found
      exact ⟨⟨count, rest, destination, size, title, labelled, colon, scanned, safe, key, reference,
        Or.inr (.titled after titled ended)⟩⟩
    · exact untitled (Option.ite_none_left_eq_some.mp found).2
  · exact untitled found

/-! ## The parts of a spelled line -/

/-- What stands in a label does not end it. -/
theorem free_of_label (spelling : Spelling) :
    ∀ c ∈ spelling.label, c ≠ ']' ∧ (c == '[') = false := by
  intro c inside
  obtain ⟨notOpening, notClosing⟩ := spelling.label_free c inside
  exact ⟨notClosing, by simp [notOpening]⟩

/-- What stands in a destination between brackets does not end it. -/
theorem free_of_isProper {inner : List Char} (proper : Target.IsProper (.angled inner)) :
    ∀ c ∈ inner, c ≠ '>' ∧ (c == '<' || c == '\n') = false := by
  intro c inside
  obtain ⟨notOpening, notClosing, notEnd⟩ := proper c inside
  exact ⟨notClosing, by simp [notOpening, notEnd]⟩

/-- A destination is scanned to its end, or to a character that is no space. -/
theorem size_of_destination? {target : Target} (proper : target.IsProper)
    (closed : ∀ inner, target = .angled inner → endsEscaping inner = false)
    (noTab : ∀ run, target = .bare run → endsEscaping run = true → tail.head? ≠ some '\t')
    (starts : ∀ c ∈ tail.head?, isSpaceOrTab c = true)
    (scanned : destination? (target.text ++ tail) = some (destination, size)) :
    (size = target.text.length ∧ destination = Entity.unescape target.inner) ∨
      ∃ c rest, (target.text ++ tail).drop size = c :: rest ∧ c ∈ target.text ∧
        isSpaceOrTab c = false := by
  cases target with
  | angled inner =>
    have whole : Target.text (.angled inner) ++ tail = '<' :: (inner ++ '>' :: tail) := by
      simp [Target.text]
    rw [whole, destination?, angledSize?_eq, partSize?_append (by decide)
      (free_of_isProper proper) (closed inner rfl)] at scanned
    obtain ⟨rfl, rfl⟩ := Prod.mk.inj (Option.some.inj scanned)
    exact Or.inl ⟨by simp [Target.text], by simp [Target.inner]⟩
  | bare run =>
    obtain ⟨nonempty, notAngled, solid⟩ := proper
    have notSpace : ∀ c ∈ run, isSpaceOrTab c = false := by
      intro c inside
      by_contra space
      have blank := isBlank_of_isSpaceOrTab (by simpa using space)
      rw [solid c inside] at blank
      cases blank
    rw [Target.text, destination?.eq_def] at scanned
    split at scanned
    · rename_i same
      obtain ⟨c, run, rfl⟩ := List.exists_cons_of_ne_nil nonempty
      obtain ⟨rfl, -⟩ := List.cons.inj same
      exact absurd rfl notAngled
    split at scanned
    · cases scanned
    · cases scanned
    rename_i count _ counted
    obtain ⟨rfl, rfl⟩ := Prod.mk.inj (Option.some.inj scanned)
    have bound := bareSize?_le
      (fun c inside space => absurd (notSpace c inside) (by rw [space]; decide)) starts
      (noTab run rfl) counted
    rcases Nat.eq_or_lt_of_le bound with rfl | before
    · exact Or.inl ⟨rfl, by rw [List.take_left]; rfl⟩
    · have nonempty : run.drop count ≠ [] := by simpa using before
      obtain ⟨c, rest, same⟩ := List.exists_cons_of_ne_nil nonempty
      have inside : c ∈ run := List.mem_of_mem_drop (same ▸ List.mem_cons_self)
      refine Or.inr ⟨c, rest ++ tail, ?_, inside, notSpace c inside⟩
      rw [Target.text, List.drop_append_of_le_length bound, same]
      rfl

/-- Spaces before a character that is none are skipped. -/
theorem skipSpace_append {gap : List Char} {c : Char} (spaces : ∀ c ∈ gap, isSpaceOrTab c = true)
    (notSpace : isSpaceOrTab c = false) (notEnd : c ≠ '\n') (rest : List Char) :
    skipSpace (gap ++ c :: rest) = c :: rest :=
  dropWhile_append_of_stops (fun c inside => by simp [spaces c inside])
    (by simp [notSpace, notEnd])

/-- A title is read as it is spelled. One that ends in a backslash would go on behind its mark,
where there is no other. -/
theorem titleAfter?_text {spelled : SpelledTitle} {trailing after : List Char}
    (spaces : ∀ c ∈ trailing, isSpaceOrTab c = true)
    (found : titleAfter? (spelled.text ++ trailing) = some (title, after)) :
    title = Entity.unescape spelled.inner := by
  have whole : spelled.text ++ trailing =
      spelled.gap ++ spelled.opener :: (spelled.inner ++ spelled.closer :: trailing) := by
    simp [SpelledTitle.text]
  obtain ⟨notSpace, notEnd⟩ := opener_of_titleCloser? spelled.closes
  have skipped := skipSpace_append spelled.gap_spaces notSpace notEnd
    (spelled.inner ++ spelled.closer :: trailing)
  unfold titleAfter? at found
  rw [whole, skipped] at found
  obtain ⟨⟨inner, size⟩, titled, found⟩ := Option.bind_eq_some_iff.mp found
  obtain ⟨closer, closes, titled⟩ := Option.bind_eq_some_iff.mp titled
  obtain ⟨size, scanned, titled⟩ := Option.bind_eq_some_iff.mp titled
  obtain ⟨rfl, rfl⟩ := Prod.mk.inj (Option.some.inj titled)
  obtain rfl : spelled.closer = closer := Option.some.inj (spelled.closes.symm.trans closes)
  obtain ⟨-, same⟩ := Option.ite_none_right_eq_some.mp found
  obtain ⟨rfl, -⟩ := Prod.mk.inj (Option.some.inj same)
  have free := free_of_titleCloser? closes fun c inside =>
    ⟨(spelled.inner_free c inside).1, (spelled.inner_free c inside).2.1⟩
  rw [titleSize?_eq] at scanned
  cases escaping : endsEscaping spelled.inner with
  | false =>
    rw [partSize?_append (closer_of_titleCloser? closes).1 free escaping] at scanned
    obtain rfl := Option.some.inj scanned
    rw [List.take_left]
  | true =>
    have unclosed : spelled.closer ∉ trailing := fun inside => by
      have space := spaces _ inside
      rw [(closer_of_titleCloser? closes).2.1] at space
      cases space
    obtain ⟨front, back, rfl, -⟩ := exists_of_endsEscaping free escaping scanned
    exact absurd (List.mem_append_right _ List.mem_cons_self) unclosed

/-- A line does not end before a character that is no space. -/
theorem atLineEnd_cons {c : Char} (notSpace : isSpaceOrTab c = false) (notEnd : c ≠ '\n')
    (rest : List Char) : atLineEnd (c :: rest) = false := by
  simp [atLineEnd, notSpace, notEnd]

/-- No title stands on the line where no space is before it. -/
theorem titleAfter?_cons {c : Char} (notSpace : isSpaceOrTab c = false)
    (unbroken : '\n' ∉ c :: rest) : titleAfter? (c :: rest) = none := by
  have notEnd : c ≠ '\n' := fun same => unbroken (same ▸ List.mem_cons_self)
  have skipped := skipSpace_append (List.forall_mem_nil _) notSpace notEnd rest
  rw [Option.eq_none_iff_forall_ne_some]
  rintro ⟨title, after⟩ found
  unfold titleAfter? at found
  rw [List.nil_append] at skipped
  rw [skipped] at found
  obtain ⟨⟨inner, size⟩, -, found⟩ := Option.bind_eq_some_iff.mp found
  obtain ⟨either, -⟩ := Option.ite_none_right_eq_some.mp found
  rw [Bool.or_eq_true, decide_eq_true_eq] at either
  rcases either with shorter | broken
  · exact Nat.lt_irrefl _ shorter
  · exact unbroken (List.mem_of_mem_take (List.contains_iff_mem.mp broken))

/-- Behind the destination of a spelled line, its title is read. -/
theorem title_of_tail (spelling : Spelling) (ends : EndsLine title spelling.tail) :
    title = Entity.unescape (spelling.definition.title.getD []) := by
  cases written : spelling.title with
  | none =>
    have tail : spelling.tail = spelling.trailing := by simp [Spelling.tail, written]
    have empty : spelling.definition.title.getD [] = [] := by simp [Spelling.definition, written]
    rw [empty]
    cases ends with
    | plain same => exact same
    | titled after found =>
      have skipped : skipSpace spelling.tail = [] := by
        rw [tail, skipSpace, List.dropWhile_eq_nil_iff]
        exact fun c inside => by simp [spelling.trailing_spaces c inside]
      unfold titleAfter? at found
      rw [skipped] at found
      cases found
  | some spelled =>
    have tail : spelling.tail = spelled.text ++ spelling.trailing := by
      simp [Spelling.tail, written]
    have inner : spelling.definition.title.getD [] = spelled.inner := by
      simp [Spelling.definition, written]
    rw [tail] at ends
    rw [inner]
    cases ends with
    | plain _ ended =>
      have behind : atLineEnd (spelled.text ++ spelling.trailing) = false := by
        obtain ⟨notSpace, notEnd⟩ := opener_of_titleCloser? spelled.closes
        have dropped : (spelled.text ++ spelling.trailing).dropWhile isSpaceOrTab =
            spelled.opener :: (spelled.inner ++ [spelled.closer] ++ spelling.trailing) := by
          rw [SpelledTitle.text, List.append_assoc]
          exact dropWhile_append_of_stops spelled.gap_spaces (by simp [notSpace])
        rw [atLineEnd, dropped]
        simpa using notEnd
      rw [behind] at ended
      cases ended
    | titled after found => exact titleAfter?_text spelling.trailing_spaces found

/-! ## Destinations that go on behind their bracket -/

/-- Only spaces stand before the end of a text on one line. -/
theorem spaces_of_atLineEnd (unbroken : '\n' ∉ rest) (ended : atLineEnd rest = true) :
    ∀ c ∈ rest, isSpaceOrTab c = true := by
  rw [atLineEnd] at ended
  split at ended
  · rename_i dropped
    exact List.dropWhile_eq_nil_iff.mp dropped
  · rename_i c _ dropped
    have inside : c ∈ rest :=
      (List.dropWhile_suffix isSpaceOrTab).subset (dropped ▸ List.mem_cons_self)
    exact absurd (beq_iff_eq.mp ended ▸ inside) unbroken

/-- A title stands between marks that belong together. -/
theorem exists_marks {behind after : List Char} (found : titleAfter? behind = some (title, after)) :
    ∃ front opener inner closer, titleCloser? opener = some closer ∧
      behind = front ++ opener :: (inner ++ closer :: after) := by
  have parts := List.takeWhile_append_dropWhile (p := fun c => isSpaceOrTab c || c == '\n')
    (l := behind)
  unfold titleAfter? at found
  obtain ⟨⟨inner, size⟩, titled, found⟩ := Option.bind_eq_some_iff.mp found
  obtain ⟨-, same⟩ := Option.ite_none_right_eq_some.mp found
  obtain ⟨-, rfl⟩ := Prod.mk.inj (Option.some.inj same)
  change title? (skipSpace behind) = _ at titled
  change _ ++ skipSpace behind = behind at parts
  cases opened : skipSpace behind with
  | nil =>
    rw [opened] at titled
    cases titled
  | cons opener rest =>
    rw [opened] at titled
    obtain ⟨closer, closes, titled⟩ := Option.bind_eq_some_iff.mp titled
    obtain ⟨count, scanned, titled⟩ := Option.bind_eq_some_iff.mp titled
    obtain ⟨-, rfl⟩ := Prod.mk.inj (Option.some.inj titled)
    rw [titleSize?_eq] at scanned
    obtain ⟨front, back, rfl, rfl⟩ := partSize?_eq_some scanned
    refine ⟨behind.takeWhile fun c => isSpaceOrTab c || c == '\n', opener, front, closer, closes,
      ?_⟩
    have behindMark : (front ++ closer :: back).drop (front.length + 1) = back := by
      rw [← List.drop_drop, List.drop_left]
      rfl
    rw [List.drop_succ_cons, behindMark, ← opened, parts]

/-- No line ends behind a closing bracket in a spelled title. Two ends of the line would be the same
one: a title that stands behind the bracket would end with the spelled title and so be that title,
and the bracket would stand among the spaces before it. -/
theorem not_endsLine_of_spelledTitle {spelled : SpelledTitle} {trailing front back : List Char}
    (spaces : ∀ c ∈ trailing, isSpaceOrTab c = true) (unbroken : '\n' ∉ back)
    (same : front ++ '>' :: back = spelled.text ++ trailing) : ¬ EndsLine title back := by
  have solid := (closer_of_titleCloser? spelled.closes).2.1
  have last : front ++ '>' :: back =
      (spelled.gap ++ spelled.opener :: spelled.inner) ++ spelled.closer :: trailing := by
    simp [same, SpelledTitle.text]
  rintro (⟨-, ended⟩ | ⟨after, found, ended⟩)
  · obtain ⟨-, closing⟩ := eq_of_last last (by decide) (spaces_of_atLineEnd unbroken ended) solid
      spaces
    exact (closer_of_titleCloser? spelled.closes).2.2 closing.symm
  · obtain ⟨gap, opener, text, closer, closes, rfl⟩ := exists_marks found
    have ending := spaces_of_atLineEnd (fun inside => unbroken (by simp [inside])) ended
    have parts : front ++ '>' :: (gap ++ opener :: (text ++ closer :: after)) =
        (front ++ '>' :: gap ++ opener :: text) ++ closer :: after := by simp
    obtain ⟨before_closer, rfl⟩ := eq_of_last (parts.symm.trans last)
      (closer_of_titleCloser? closes).2.1 ending solid spaces
    obtain rfl : opener = spelled.opener := (opener_eq closes).trans (opener_eq spelled.closes).symm
    have before : spelled.opener ∉ spelled.gap := fun inside => by
      have space := spelled.gap_spaces _ inside
      rw [(opener_of_titleCloser? closes).1] at space
      cases space
    have within : spelled.opener ∉ spelled.inner := fun inside =>
      (spelled.inner_free _ inside).1 rfl
    obtain ⟨whole, -, -⟩ := (List.append_cons_inj_of_notMem before within).mp before_closer.symm
    have bracket : '>' ∈ spelled.gap := by
      rw [whole]
      exact List.mem_append_right _ List.mem_cons_self
    exact absurd (spelled.gap_spaces _ bracket) (by decide)

/-- A destination between brackets does not go on behind its closing bracket: it would have to end
at another one in the title, and what is left of the title is none. -/
theorem closed_of_endsLine (spelling : Spelling) {inner : List Char}
    (angled : spelling.target = .angled inner)
    (unbroken : '\n' ∉ spelling.target.text ++ spelling.tail)
    (scanned : destination? (spelling.target.text ++ spelling.tail) = some (destination, size))
    (ends : EndsLine title ((spelling.target.text ++ spelling.tail).drop size)) :
    endsEscaping inner = false := by
  by_contra escaping
  have proper : Target.IsProper (.angled inner) := angled ▸ spelling.target_proper
  have whole : spelling.target.text ++ spelling.tail = '<' :: (inner ++ '>' :: spelling.tail) := by
    simp [angled, Target.text]
  rw [whole] at scanned ends unbroken
  obtain ⟨count, closing, same⟩ := Option.map_eq_some_iff.mp scanned
  obtain ⟨-, rfl⟩ := Prod.mk.inj same
  rw [angledSize?_eq] at closing
  obtain ⟨front, back, tail, rfl⟩ :=
    exists_of_endsEscaping (free_of_isProper proper) (by simpa using escaping) closing
  have behind : ('<' :: (inner ++ '>' :: spelling.tail)).drop
      (inner.length + 1 + front.length + 2) = back := by
    have parts : '<' :: (inner ++ '>' :: spelling.tail) =
        ('<' :: (inner ++ '>' :: (front ++ ['>']))) ++ back := by simp [tail]
    rw [parts]
    exact List.drop_left' (by simp; omega)
  have unbroken : '\n' ∉ back := fun inside => unbroken (by simp [tail, inside])
  rw [behind] at ends
  cases written : spelling.title with
  | none =>
    have bracket : '>' ∈ spelling.trailing := by
      have same : spelling.tail = spelling.trailing := by simp [Spelling.tail, written]
      rw [← same, tail]
      exact List.mem_append_right _ List.mem_cons_self
    exact absurd (spelling.trailing_spaces _ bracket) (by decide)
  | some spelled =>
    have same : front ++ '>' :: back = spelled.text ++ spelling.trailing := by
      rw [← tail]
      simp [Spelling.tail, written]
    exact absurd ends (not_endsLine_of_spelledTitle spelling.trailing_spaces unbroken same)

/-! ## Spelled lines -/

/-- A label that ends in a backslash is read with the bracket behind it. -/
theorem bracket_mem_key (spelling : Spelling) (escaping : endsEscaping spelling.label = true)
    (found : atFront? ('[' :: spelling.body) = some definition) : ']' ∈ definition.key := by
  obtain ⟨parts⟩ := exists_parts found
  have labelled := parts.labelled
  rw [labelSize?_eq] at labelled
  obtain ⟨front, back, -, size_eq⟩ :=
    exists_of_endsEscaping (free_of_label spelling) escaping labelled
  have longer : spelling.label.length + 1 ≤ spelling.label.length + 1 + front.length :=
    Nat.le_add_right ..
  have front : spelling.body.take (spelling.label.length + 1) = spelling.label ++ [']'] := by
    simp [Spelling.body, List.take_append]
  rw [parts.key_eq, size_eq, bracket_mem_labelKey_iff]
  refine (List.take_prefix_take_left longer).subset ?_
  rw [front]
  exact List.mem_append_right _ List.mem_cons_self

/-- The label and what stands behind the colon of a spelled line. -/
theorem take_drop_body (spelling : Spelling) :
    spelling.body.take spelling.label.length = spelling.label ∧
      spelling.body.drop (spelling.label.length + 1) =
        ':' :: (spelling.gap ++ (spelling.target.text ++ spelling.tail)) := by
  simp [Spelling.body]

/-- The destination of a spelled line and what follows are on the line that is scanned. -/
theorem skipSpace_gap (spelling : Spelling)
    (unbroken : '\n' ∉ spelling.target.text ++ spelling.tail) :
    skipSpace (spelling.gap ++ (spelling.target.text ++ spelling.tail)) =
        spelling.target.text ++ spelling.tail ∧
      firstLine (spelling.target.text ++ spelling.tail) =
        spelling.target.text ++ spelling.tail := by
  obtain ⟨first, text, starts, notSpace⟩ := Target.exists_cons spelling.target_proper
  refine ⟨?_, ?_⟩
  · rw [starts, List.cons_append]
    refine skipSpace_append spelling.gap_spaces notSpace ?_ _
    rintro rfl
    exact unbroken (by simp [starts])
  · rw [firstLine, lines_last unbroken (by simp [starts])]
    rfl

/-- Neither the end of a line nor a title starts with a character that is no space. -/
theorem not_endsLine_cons {c : Char} (notSpace : isSpaceOrTab c = false)
    (unbroken : '\n' ∉ c :: rest) : ¬ EndsLine title (c :: rest) := by
  have notEnd : c ≠ '\n' := fun newline => unbroken (newline ▸ List.mem_cons_self)
  rintro (⟨-, ended⟩ | ⟨after, found, -⟩)
  · rw [atLineEnd_cons notSpace notEnd] at ended
    cases ended
  · rw [titleAfter?_cons notSpace unbroken] at found
    cases found

/-- What is read from a spelled line. -/
theorem atFront?_body (spelling : Spelling) (unbroken : '\n' ∉ spelling.body)
    (closed : endsEscaping spelling.label = false) (noTab : ¬ spelling.TakesTab)
    (found : atFront? ('[' :: spelling.body) = some definition) :
    definition.key = labelKey spelling.label ∧
      definition.reference = ⟨Url.normalize (Entity.unescape spelling.target.inner),
        Entity.unescape (spelling.definition.title.getD [])⟩ ∧
      Url.isSafe definition.reference.destination = true := by
  obtain ⟨⟨count, rest, destination, size, title, labelled, colon, scanned, safe, key, reference,
    ends⟩⟩ := exists_parts found
  rw [Spelling.body, labelSize?_eq,
    partSize?_append (by decide) (free_of_label spelling) closed] at labelled
  obtain rfl := Option.some.inj labelled
  obtain ⟨front, behind⟩ := take_drop_body spelling
  rw [behind] at colon
  obtain rfl := (List.cons.inj colon).2
  rw [front] at key
  have inner : '\n' ∉ spelling.target.text ++ spelling.tail := fun inside =>
    unbroken (by simp [Spelling.body, List.mem_append.mp inside])
  obtain ⟨skipped, line⟩ := skipSpace_gap spelling inner
  rw [skipped, line] at scanned ends
  have ends : EndsLine title ((spelling.target.text ++ spelling.tail).drop size) := by
    rcases ends with ⟨empty, rfl⟩ | ends
    · exact .plain empty (by rw [List.drop_length]; rfl)
    · exact ends
  rcases size_of_destination? spelling.target_proper
      (fun text angled => closed_of_endsLine spelling angled inner scanned ends)
      (fun run bare escaping tab => noTab ⟨run, bare, escaping, tab⟩)
      spelling.tail_starts scanned with
    ⟨rfl, rfl⟩ | ⟨c, rest, same, inside, notSpace⟩
  · refine ⟨key, reference.trans (congrArg _ ?_), by rw [reference]; exact safe⟩
    rw [List.drop_left] at ends
    exact title_of_tail spelling ends
  · have unbroken : '\n' ∉ c :: rest := fun member =>
      inner (List.mem_of_mem_drop (same ▸ member))
    rw [same] at ends
    exact absurd ends (not_endsLine_cons notSpace unbroken)

end Definition

end FoldMark.Markdown
