import FoldMark.Proofs.FrontMatter.Definitions
import FoldMark.Proofs.Markdown.Definition
import FoldMark.Proofs.Markdown.OneLine
import FoldMark.Proofs.Markdown.Repair
import FoldMark.Proofs.Page.References

/-!
# Definitions in front matter and in the text

A line that is a definition both in front matter and in the text lets the text refer to the same in
both cases exactly if front matter takes it as it is meant, unless a backslash takes a tab behind
the destination. Front matter takes the destination and the title as they are spelled, with their
escapes, and takes a closing angle bracket off a destination that has no opening one. So the two
agree on lines without escapes, except for this bracket (`resolves_alike_iff`).
-/

namespace FoldMark.FrontMatter.Spelling

open Text Markdown

/-- What front matter takes of a line is what is meant. -/
structure IsTakenAsMeant (spelling : Spelling) : Prop where
  /-- No backslash takes the bracket behind the label. -/
  closed : endsEscaping spelling.label = false
  /-- The label has its key without the blank characters around it. -/
  label : labelKey (trim spelling.label) = labelKey spelling.repaired.label
  /-- The destination leads where it does without its escapes. -/
  destination : Url.normalize spelling.target.taken =
    Url.normalize (Entity.unescape spelling.repaired.target.inner)
  /-- The title has no escapes. -/
  title : spelling.definition.title.getD [] =
    Entity.unescape (spelling.repaired.definition.title.getD [])

/-- A line in which nothing is escaped or replaced and no bracket is taken off. -/
structure IsPlain (spelling : Spelling) : Prop where
  /-- There is no backslash. -/
  noBackslash : '\\' ∉ spelling.text
  /-- There is no ampersand. -/
  noAmpersand : '&' ∉ spelling.text
  /-- There is no null character. -/
  noNull : '\x00' ∉ spelling.text
  /-- There is no information separator that text does not count as white space. -/
  noSeparator : '\x1f' ∉ spelling.text
  /-- The destination is taken whole. -/
  whole : spelling.target.taken = spelling.target.inner

variable {spelling : Spelling} {c : Char}

/-- A label stands on its line. -/
theorem mem_text_of_label (inside : c ∈ spelling.label) : c ∈ spelling.text := by
  simp [text, body, inside]

/-- A destination stands on its line. -/
theorem mem_text_of_inner (inside : c ∈ spelling.target.inner) : c ∈ spelling.text := by
  have within : c ∈ spelling.target.text := by
    cases target : spelling.target with
    | angled inner =>
      rw [target] at inside
      exact List.mem_cons_of_mem _ (List.mem_append_left _ inside)
    | bare run =>
      rw [target] at inside
      exact inside
  simp [text, body, within]

/-- A title stands on its line. -/
theorem mem_text_of_title (inside : c ∈ spelling.definition.title.getD []) :
    c ∈ spelling.text := by
  cases written : spelling.title with
  | none => simp [definition, written] at inside
  | some title =>
    have within : c ∈ title.inner := by simpa [definition, written] using inside
    simp [text, body, tail, written, SpelledTitle.text, within]

/-- The title has its null characters replaced with the line. -/
theorem title_repaired (spelling : Spelling) :
    spelling.repaired.definition.title.getD [] =
      (spelling.definition.title.getD []).map repair := by
  cases written : spelling.title with
  | none => simp [definition, repaired, written]
  | some title => simp [definition, repaired, written, SpelledTitle.repaired]

/-- What stands on a plain line is taken as it is meant. -/
theorem isTakenAsMeant_of_isPlain (plain : spelling.IsPlain)
    (unbroken : ∀ c ∈ spelling.text, isLineBoundary c = false) : spelling.IsTakenAsMeant where
  closed := endsEscaping_of_not_mem fun inside => plain.noBackslash (mem_text_of_label inside)
  label := by
    have label : spelling.repaired.label = spelling.label :=
      map_repair_of_not_mem fun inside => plain.noNull (mem_text_of_label inside)
    rw [label]
    exact labelKey_trim (fun c inside => unbroken c (mem_text_of_label inside))
      fun inside => plain.noSeparator (mem_text_of_label inside)
  destination := by
    have inner : spelling.repaired.target.inner = spelling.target.inner :=
      (Target.inner_repaired _).trans
        (map_repair_of_not_mem fun inside => plain.noNull (mem_text_of_inner inside))
    rw [inner, plain.whole,
      unescape_of_plain (fun inside => plain.noBackslash (mem_text_of_inner inside))
        fun inside => plain.noAmpersand (mem_text_of_inner inside)]
  title := by
    rw [title_repaired,
      map_repair_of_not_mem fun inside => plain.noNull (mem_text_of_title inside),
      unescape_of_plain (fun inside => plain.noBackslash (mem_text_of_title inside))
        fun inside => plain.noAmpersand (mem_text_of_title inside)]

/-- Without backslashes no tab is taken. -/
theorem not_takesTab_of_isPlain (plain : spelling.IsPlain) : ¬ spelling.TakesTab := by
  rintro ⟨run, bare, escaping, -⟩
  have closed : endsEscaping run = false := endsEscaping_of_not_mem fun inside =>
    plain.noBackslash (mem_text_of_inner (by rw [bare]; exact inside))
  rw [closed] at escaping
  cases escaping

/-- No tab is taken where none was before. -/
theorem takesTab_of_repaired (takes : spelling.repaired.TakesTab) : spelling.TakesTab := by
  obtain ⟨run, bare, escaping, tab⟩ := takes
  have target : spelling.repaired.target = spelling.target.repaired := rfl
  rw [tail_repaired, List.head?_map, Option.map_eq_some_iff] at tab
  obtain ⟨c, next, same⟩ := tab
  rw [(repair_eq_iff (by decide) (by decide)).mp same] at next
  cases written : spelling.target with
  | angled inner =>
    rw [target, written] at bare
    cases bare
  | bare own =>
    rw [target, written] at bare
    obtain rfl := Target.bare.inj bare
    exact ⟨own, written, endsEscaping_map_repair own ▸ escaping, next⟩

end FoldMark.FrontMatter.Spelling

namespace FoldMark.Page

open FrontMatter Markdown Text

variable {features : Features}

/-- What the definitions in a document let its text refer to. -/
def bodyReferences (features : Features) (document : List Char) : References :=
  (readDraft features [] (normalizeSource document)).references

/-- What a single definition lets the text refer to. -/
theorem references_singleton (line : DefinitionLine) :
    references [line] =
      if Url.isSafe (Url.normalize line.destination) then
        [(labelKey line.label, ⟨Url.normalize line.destination, line.title.getD []⟩)]
      else [] := by
  have added : references [line] = addUsable [] line := references_eq [line]
  rw [added, addUsable, usable?]
  split <;> rename_i found
  · obtain ⟨safe, same⟩ := Option.ite_none_right_eq_some.mp found
    rw [if_pos safe, ← Option.some.inj same]
    rfl
  · rw [if_neg fun safe => by simp [safe] at found]

/-- The key of a definition in front matter is not read from a label that goes on behind its
bracket. -/
theorem labelKey_ne_of_bracket (spelling : Spelling) {key : List Char} (bracket : ']' ∈ key) :
    labelKey spelling.definition.label ≠ key := by
  rintro rfl
  rw [bracket_mem_labelKey_iff] at bracket
  exact (spelling.label_free _ (mem_of_mem_trimBy bracket)).2 rfl

/-- A definition lets the text refer to a safe destination exactly if that is its own, with its own
title and key. -/
theorem references_singleton_eq_iff {line : DefinitionLine} {key : List Char}
    {reference : Reference} (safe : Url.isSafe reference.destination = true) :
    references [line] = [(key, reference)] ↔
      labelKey line.label = key ∧ Url.normalize line.destination = reference.destination ∧
        line.title.getD [] = reference.title := by
  rw [references_singleton]
  constructor
  · intro same
    split at same
    · obtain ⟨rfl, rfl⟩ := Prod.mk.inj (List.cons.inj same).1
      exact ⟨rfl, rfl, rfl⟩
    · cases same
  · rintro ⟨rfl, destination, title⟩
    rw [if_pos (by rw [destination]; exact safe), destination, title]

/-- The text of a line that is a definition refers to what the rule reads from it. -/
theorem exists_definition {spelling : Spelling} (noNotes : features.footnotes = false)
    (unbroken : ∀ c ∈ spelling.text, isLineBoundary c = false)
    (accepted : bodyReferences features spelling.text ≠ []) :
    ∃ definition, Definition.atFront? ('[' :: spelling.repaired.body) = some definition ∧
      '\n' ∉ spelling.repaired.body ∧
      bodyReferences features spelling.text = [(definition.key, definition.reference)] := by
  have noReturn : '\r' ∉ spelling.text := fun inside => by
    simpa [isLineBoundary] using unbroken _ inside
  have noEnd : '\n' ∉ spelling.repaired.body := by
    intro inside
    have inside : '\n' ∈ spelling.repaired.text := by simp [Spelling.text, inside]
    rw [Spelling.text_repaired] at inside
    obtain ⟨c, member, same⟩ := List.mem_map.mp inside
    rw [repair_eq_iff (by decide) (by decide)] at same
    simpa [same, isLineBoundary] using unbroken c member
  have read : bodyReferences features spelling.text =
      (Definition.atFront? ('[' :: spelling.repaired.body)).toList.map fun definition =>
        (definition.key, definition.reference) := by
    rw [bodyReferences, normalizeSource_of_unbroken noReturn, ← Spelling.text_repaired]
    exact references_of_oneLine noNotes spelling.indent_le noEnd
  rw [read] at accepted ⊢
  cases found : Definition.atFront? ('[' :: spelling.repaired.body) with
  | none =>
    rw [found] at accepted
    exact absurd rfl accepted
  | some definition => exact ⟨definition, rfl, noEnd, rfl⟩

/-- A spelled line lets the text refer to the same in both cases exactly if it is taken as it is
meant, where no backslash takes a tab behind the destination. -/
theorem references_eq_bodyReferences_iff {spelling : Spelling}
    (noNotes : features.footnotes = false)
    (unbroken : ∀ c ∈ spelling.text, isLineBoundary c = false)
    (accepted : bodyReferences features spelling.text ≠ []) (noTab : ¬spelling.TakesTab) :
    references (definitionLines spelling.text) = bodyReferences features spelling.text ↔
      spelling.IsTakenAsMeant := by
  have whole : definitionLines spelling.text = [spelling.definition] := by
    rw [definitionLines_of_unbroken (boundaries_eq_nil_iff.mpr unbroken),
      DefinitionLine.ofLine?_text]
    rfl
  obtain ⟨read, found, noEnd, meant⟩ := exists_definition noNotes unbroken accepted
  rw [whole, meant]
  cases closed : endsEscaping spelling.label with
  | true =>
    have escaping : endsEscaping spelling.repaired.label = true :=
      (endsEscaping_map_repair spelling.label).trans closed
    have bracket := Definition.bracket_mem_key spelling.repaired escaping found
    refine iff_of_false (fun same => labelKey_ne_of_bracket spelling bracket ?_) fun taken => ?_
    · rw [references_singleton] at same
      split at same
      · exact congrArg Prod.fst (List.cons.inj same).1
      · cases same
    · rw [taken.closed] at closed
      cases closed
  | false =>
    have closedLabel : endsEscaping spelling.repaired.label = false :=
      (endsEscaping_map_repair spelling.label).trans closed
    obtain ⟨key, reference, safe⟩ := Definition.atFront?_body spelling.repaired noEnd closedLabel
      (fun takes => noTab (Spelling.takesTab_of_repaired takes)) found
    rw [references_singleton_eq_iff safe, key, reference]
    constructor
    · rintro ⟨label, destination, title⟩
      exact ⟨closed, label, destination, title⟩
    · exact fun taken => ⟨taken.label, taken.destination, taken.title⟩

/-- A line that is a definition in front matter and in the text has a spelling. It lets the text
refer to the same in both cases exactly if front matter takes it as it is meant, where no backslash
takes a tab behind the destination. So it does if it has no backslashes, ampersands and null
characters, and its destination does not lose a bracket. -/
theorem resolves_alike_iff (noNotes : features.footnotes = false) {line : List Char}
    {definition : DefinitionLine} (defines : DefinitionLine.ofLine? line = some definition)
    (unbroken : ∀ c ∈ line, isLineBoundary c = false)
    (accepted : bodyReferences features line ≠ []) :
    (∃ spelling : Spelling, spelling.text = line ∧ spelling.definition = definition) ∧
      ∀ spelling : Spelling, spelling.text = line →
        (¬spelling.TakesTab →
          (references (definitionLines line) = bodyReferences features line ↔
            spelling.IsTakenAsMeant)) ∧
        (spelling.IsPlain → references (definitionLines line) = bodyReferences features line) := by
  refine ⟨DefinitionLine.exists_spelling defines, ?_⟩
  rintro spelling rfl
  have alike := references_eq_bodyReferences_iff noNotes unbroken accepted
  refine ⟨alike, fun plain => ?_⟩
  exact (alike (Spelling.not_takesTab_of_isPlain plain)).mpr
    (Spelling.isTakenAsMeant_of_isPlain plain unbroken)

/-- A line with a destination in brackets and a title. -/
def titledLine : List Char := "[a]: <u v> 't'".toList

/-- How the line is spelled. -/
def titledSpelling : Spelling where
  indent := 0
  label := ['a']
  gap := [' ']
  target := .angled "u v".toList
  title := some ⟨[' '], '\'', ['t'], '\'', by simp, by simp [isSpaceOrTab], rfl, by simp⟩
  trailing := []
  indent_le := Nat.zero_le 3
  label_free := by simp
  label_solid := by decide
  gap_spaces := by simp [isSpaceOrTab]
  target_proper := by simp [Target.IsProper]
  trailing_spaces := by simp

/-- The line is a definition in both cases, and lets the text refer to the same in both. -/
theorem titledLine_resolves :
    DefinitionLine.ofLine? titledLine = some ⟨['a'], "u v".toList, some ['t']⟩ ∧
      (∀ c ∈ titledLine, isLineBoundary c = false) ∧
      bodyReferences {} titledLine = [(['A'], ⟨"u%20v".toList, ['t']⟩)] ∧
      titledSpelling.text = titledLine ∧ titledSpelling.IsPlain ∧
      references (definitionLines titledLine) = bodyReferences {} titledLine := by
  have defines : DefinitionLine.ofLine? titledLine =
      some ⟨['a'], "u v".toList, some ['t']⟩ := by decide +kernel
  have unbroken : ∀ c ∈ titledLine, isLineBoundary c = false := by
    simpa using (by decide +kernel : titledLine.all (fun c => !isLineBoundary c) = true)
  have read : bodyReferences {} titledLine = [(['A'], ⟨"u%20v".toList, ['t']⟩)] := by
    decide +kernel
  have spelled : titledSpelling.text = titledLine := by decide +kernel
  have plain : titledSpelling.IsPlain :=
    ⟨by decide +kernel, by decide +kernel, by decide +kernel, by decide +kernel, rfl⟩
  have alike := (resolves_alike_iff rfl defines unbroken
    (by rw [read]; exact List.cons_ne_nil _ _)).2 titledSpelling spelled
  exact ⟨defines, unbroken, read, spelled, plain, alike.2 plain⟩

/-- A destination that only ends in a bracket loses it in front matter, and keeps it in the text. -/
theorem trailing_bracket_is_lost :
    let line := "[a]: /u>".toList
    DefinitionLine.ofLine? line = some ⟨['a'], "/u".toList, none⟩ ∧
      references (definitionLines line) = [(['A'], ⟨"/u".toList, []⟩)] ∧
      bodyReferences {} line = [(['A'], ⟨"/u%3E".toList, []⟩)] := by
  decide +kernel

end FoldMark.Page
