import FoldMark.Proofs.FrontMatter.Extent
import FoldMark.Proofs.FrontMatter.Grouping
import FoldMark.Proofs.FrontMatter.Spelling

/-!
# Definitions found and decoded

Definitions are found line by line, where only a line feed ends a line, and decoded line by line,
where any line boundary ends one. A definition that has a line boundary inside is found as one line
and decoded as several, in which it is lost, and others may appear that nobody wrote. So metadata
holds the definitions that were found, no more and no less, exactly if none of their lines has a
line boundary inside: `definitions_decoded_iff`.
-/

namespace FoldMark.FrontMatter

open Text

variable {text front back line rest : List Char} {definition : DefinitionLine} {found : Found}

/-- The line boundaries in a text, in order. -/
def boundaries (text : List Char) : List Char := text.filter isLineBoundary

@[simp] theorem boundaries_nil : boundaries [] = [] := rfl

@[simp] theorem boundaries_cons (c : Char) (text : List Char) :
    boundaries (c :: text) = if isLineBoundary c then c :: boundaries text else boundaries text :=
  List.filter_cons

@[simp] theorem boundaries_append (front back : List Char) :
    boundaries (front ++ back) = boundaries front ++ boundaries back :=
  List.filter_append front back

/-- No line boundary is in a text exactly if none of its characters is one. -/
theorem boundaries_eq_nil_iff : boundaries text = [] ↔ ∀ c ∈ text, isLineBoundary c = false := by
  simp [boundaries]

/-- Spaces and tabs are no line boundaries. -/
theorem boundaries_of_isSpaceOrTab (spaces : ∀ c ∈ text, isSpaceOrTab c = true) :
    boundaries text = [] := by
  rw [boundaries_eq_nil_iff]
  intro c inside
  have space := spaces c inside
  rw [isSpaceOrTab, Bool.or_eq_true, beq_iff_eq, beq_iff_eq] at space
  rcases space with rfl | rfl <;> decide

namespace DefinitionLine

/-- The line boundaries in a definition behind its label. -/
def innerBoundaries (definition : DefinitionLine) : List Char :=
  boundaries definition.destination ++ boundaries (definition.title.getD [])

/-! ## The parts of a line -/

/-- Texts without blank characters have no line boundaries. -/
theorem boundaries_of_solid (solid : ∀ c ∈ text, isBlank c = false) : boundaries text = [] := by
  rw [boundaries_eq_nil_iff]
  intro c inside
  by_contra boundary
  have blank := isBlank_of_isLineBoundary (by simpa using boundary)
  rw [solid c inside] at blank
  cases blank

/-- A destination has the line boundaries of what is taken for it. -/
theorem boundaries_target {target : Target} (proper : target.IsProper) :
    boundaries target.text = boundaries target.taken := by
  cases target with
  | angled inner =>
    simp [Target.text, Target.taken, show isLineBoundary '<' = false by decide,
      show isLineBoundary '>' = false by decide]
  | bare run =>
    obtain ⟨-, -, solid⟩ := proper
    rw [Target.text, Target.taken, boundaries_of_solid solid]
    split
    · exact (boundaries_of_solid fun c inside => solid c (List.mem_of_mem_dropLast inside)).symm
    · exact (boundaries_of_solid solid).symm

/-- A title has the line boundaries that are between its marks. -/
theorem boundaries_spelledTitle (title : SpelledTitle) :
    boundaries title.text = boundaries title.inner := by
  have marks : isLineBoundary title.opener = false ∧ isLineBoundary title.closer = false := by
    rcases Markdown.marks_of_titleCloser? title.closes with same | same | same
    all_goals
      rw [same.1, same.2]
      decide
  simp [SpelledTitle.text, boundaries_of_isSpaceOrTab title.gap_spaces, marks]

/-- Behind the destination there are no line boundaries but those of the title. -/
theorem boundaries_tail (spelling : Spelling) :
    boundaries spelling.tail = boundaries (spelling.definition.title.getD []) := by
  rw [Spelling.tail, boundaries_append, boundaries_of_isSpaceOrTab spelling.trailing_spaces,
    List.append_nil, Spelling.definition]
  cases spelling.title with
  | none => rfl
  | some title => exact boundaries_spelledTitle title

/-- A definition has a label in brackets behind spaces, and behind the label there are no line
boundaries but those of the destination and the title. -/
theorem ofLine?_parts (defines : ofLine? line = some definition) :
    ∃ indent label rest, line = indent ++ '[' :: (label ++ ']' :: rest) ∧
      (∀ c ∈ indent, c = ' ') ∧ (∀ c ∈ label, c ≠ '[' ∧ c ≠ ']') ∧
      boundaries rest = definition.innerBoundaries := by
  obtain ⟨spelling, rfl, rfl⟩ := exists_spelling defines
  refine ⟨_, _, _, rfl, fun c inside => (List.mem_replicate.mp inside).2, spelling.label_free, ?_⟩
  rw [boundaries_cons, if_neg (by decide), boundaries_append, boundaries_append,
    boundaries_of_isSpaceOrTab spelling.gap_spaces, boundaries_target spelling.target_proper,
    boundaries_tail]
  rfl

/-- A line with a definition has a closing bracket. -/
theorem bracket_mem (defines : ofLine? line = some definition) : ']' ∈ line := by
  obtain ⟨indent, label, rest, rfl, -⟩ := ofLine?_parts defines
  simp

/-- A line with a definition has an opening bracket before any closing one. -/
theorem ofLine?_eq_none_of_closed (noBrackets : ∀ c ∈ front, c ≠ '[') (rest : List Char) :
    ofLine? (front ++ ']' :: rest) = none := by
  rw [Option.eq_none_iff_forall_ne_some]
  intro definition defines
  obtain ⟨indent, label, after, same, spaces, -, -⟩ := ofLine?_parts defines
  rcases List.append_eq_append_iff.mp same with ⟨middle, rfl, closed⟩ | ⟨middle, rfl, opened⟩
  · cases middle with
    | nil => cases closed
    | cons c middle =>
      obtain ⟨rfl, -⟩ := List.cons.inj closed
      exact absurd (spaces ']' (by simp)) (by decide)
  · cases middle with
    | nil => cases opened
    | cons c middle =>
      obtain ⟨rfl, -⟩ := List.cons.inj opened
      exact noBrackets '[' (by simp) rfl

end DefinitionLine

/-! ## The definitions of a text -/

open DefinitionLine

/-- The definitions of a text are those of its pieces between line boundaries. The two ways to cut
differ in empty lines only, which define nothing. -/
theorem definitionLines_eq (text : List Char) :
    definitionLines text = (splitAt isLineBoundary text).filterMap ofLine? := by
  have solid : ∀ lines : List (List Char),
      lines.filterMap ofLine? = (lines.filter (!·.isEmpty)).filterMap ofLine? := by
    intro lines
    rw [List.filterMap_filter]
    congr 1
    funext line
    cases line with
    | nil => rfl
    | cons c rest => rfl
  rw [definitionLines, solid, filter_splitLines, ← solid]

/-- The definitions around a line boundary are those before it and those after. -/
theorem definitionLines_append {c : Char} (boundary : isLineBoundary c = true)
    (front back : List Char) :
    definitionLines (front ++ c :: back) = definitionLines front ++ definitionLines back := by
  simp only [definitionLines_eq, splitAt_append boundary, List.filterMap_append]

/-- A text without line boundaries is one line. -/
theorem definitionLines_of_unbroken (unbroken : boundaries text = []) :
    definitionLines text = (ofLine? text).toList := by
  rw [definitionLines_eq, splitAt_of_forall (boundaries_eq_nil_iff.mp unbroken)]
  cases defines : ofLine? text <;> simp [defines]

/-- A definition of a text stands in a piece of it without line boundaries. -/
theorem exists_piece (member : definition ∈ definitionLines text) :
    ∃ piece, ofLine? piece = some definition ∧
      ∀ c ∈ piece, c ∈ text ∧ isLineBoundary c = false := by
  rw [definitionLines_eq] at member
  obtain ⟨piece, listed, defines⟩ := List.mem_filterMap.mp member
  exact ⟨piece, defines, mem_of_mem_splitAt listed⟩

/-- A text without closing brackets has no definitions. -/
theorem definitionLines_of_no_bracket (none : ']' ∉ text) : definitionLines text = [] := by
  rw [List.eq_nil_iff_forall_not_mem]
  intro definition member
  obtain ⟨piece, defines, within⟩ := exists_piece member
  exact none (within ']' (bracket_mem defines)).1

/-- A definition that is decoded has no line boundary behind its label. -/
theorem innerBoundaries_of_mem (member : definition ∈ definitionLines text) :
    definition.innerBoundaries = [] := by
  obtain ⟨piece, defines, within⟩ := exists_piece member
  obtain ⟨indent, label, rest, rfl, -, -, same⟩ := ofLine?_parts defines
  rw [← same, boundaries_eq_nil_iff]
  exact fun c inside => (within c (by simp [inside])).2

/-- A text with a line boundary has a last one. -/
theorem exists_last_boundary (broken : boundaries text ≠ []) :
    ∃ front c back, text = front ++ c :: back ∧ isLineBoundary c = true ∧ boundaries back = [] := by
  induction text with
  | nil => exact absurd rfl broken
  | cons d text hypothesis =>
    by_cases later : boundaries text = []
    · rw [boundaries_cons, later] at broken
      refine ⟨[], d, text, rfl, ?_, later⟩
      by_contra inner
      exact broken (if_neg inner)
    · obtain ⟨front, c, back, rfl, boundary, unbroken⟩ := hypothesis later
      exact ⟨d :: front, c, back, rfl, boundary, unbroken⟩

/-- A definition whose label alone has line boundaries is lost, and none appears in its place.
Behind the last boundary the label goes on to its closing bracket, but has no opening one. -/
theorem definitionLines_of_broken_label (defines : ofLine? line = some definition)
    (unbroken : definition.innerBoundaries = []) (broken : boundaries line ≠ []) :
    definitionLines line = [] := by
  obtain ⟨indent, label, rest, rfl, spaces, noBrackets, same⟩ := ofLine?_parts defines
  have indentUnbroken : boundaries indent = [] :=
    boundaries_of_isSpaceOrTab fun c inside => by rw [spaces c inside]; rfl
  have labelBroken : boundaries label ≠ [] := by
    intro none
    apply broken
    simp [indentUnbroken, none, same, unbroken, show isLineBoundary '[' = false by decide,
      show isLineBoundary ']' = false by decide]
  obtain ⟨before, c, after, rfl, boundary, afterUnbroken⟩ := exists_last_boundary labelBroken
  have cut : indent ++ '[' :: (before ++ c :: after ++ ']' :: rest) =
      (indent ++ '[' :: before) ++ c :: (after ++ ']' :: rest) := by simp
  have first : ']' ∉ indent ++ '[' :: before := by
    intro member
    simp only [List.mem_append, List.mem_cons] at member
    rcases member with inside | same | inside
    · exact absurd (spaces ']' inside) (by decide)
    · exact absurd same (by decide)
    · exact (noBrackets ']' (by simp [inside])).2 rfl
  have last : boundaries (after ++ ']' :: rest) = [] := by
    simp [afterUnbroken, same, unbroken, show isLineBoundary ']' = false by decide]
  rw [cut, definitionLines_append boundary, definitionLines_of_no_bracket first,
    definitionLines_of_unbroken last,
    ofLine?_eq_none_of_closed (fun d inside => (noBrackets d (by simp [inside])).1) rest]
  rfl

/-! ## Line by line -/

/-- The lines of a payload that are not blank. -/
def solidLines (payload : List Char) : List (List Char) :=
  (lines payload).filter (!isBlankText ·)

/-- The end of a line defines nothing. -/
theorem definitionLines_withoutEnd (line : List Char) :
    definitionLines (withoutEnd line) = definitionLines line := by
  obtain ⟨tail, whole, ends⟩ := exists_dropTrailing_append (fun c => c == '\r' || c == '\n') line
  conv => rhs; rw [whole]
  cases tail with
  | nil => rw [List.append_nil, withoutEnd]
  | cons c tail =>
    have isEnd : ∀ d ∈ c :: tail, d = '\r' ∨ d = '\n' := fun d inside => by
      simpa using ends d inside
    have boundary : isLineBoundary c = true := by
      rcases isEnd c List.mem_cons_self with rfl | rfl <;> decide
    have none : ']' ∉ tail := by
      intro inside
      rcases isEnd ']' (List.mem_cons_of_mem c inside) with same | same <;> cases same
    rw [definitionLines_append boundary, definitionLines_of_no_bracket none, List.append_nil,
      withoutEnd]

/-- A blank line defines nothing. -/
theorem definitionLines_of_isBlankText (blank : isBlankText line = true) :
    definitionLines line = [] :=
  definitionLines_of_no_bracket fun member =>
    absurd (List.all_eq_true.mp blank ']' member) (by decide)

/-- A line feed is a line boundary, so the definitions of a text are those of its lines. -/
theorem definitionLines_lines (text : List Char) :
    definitionLines text = (lines text).flatMap definitionLines := by
  induction cut : lines text generalizing text with
  | nil =>
    rw [lines_eq_nil_iff.mp cut]
    rfl
  | cons line others hypothesis =>
    obtain ⟨same, ended⟩ := lines_eq_cons cut
    have whole : text = line ++ others.flatten := by
      rw [← flatten_lines text, cut, List.flatten_cons]
    rw [List.flatMap_cons, ← hypothesis others.flatten same, whole]
    rcases ended with ⟨start, rfl, -⟩ | ⟨rfl, -⟩
    · have newline : isLineBoundary '\n' = true := by decide
      have empty : definitionLines [] = [] := rfl
      rw [List.append_assoc, List.singleton_append, definitionLines_append newline,
        definitionLines_append newline, empty, List.append_nil]
    · rw [List.flatten_nil, List.append_nil]
      exact (List.append_nil _).symm

/-- The definitions of a text are those of its lines that are not blank. -/
theorem definitionLines_solidLines (text : List Char) :
    definitionLines text =
      (solidLines text).flatMap fun line => definitionLines (withoutEnd line) := by
  rw [definitionLines_lines, solidLines]
  simp only [definitionLines_withoutEnd]
  induction lines text with
  | nil => rfl
  | cons line others hypothesis =>
    rw [List.flatMap_cons, hypothesis]
    cases blank : isBlankText line with
    | true =>
      rw [List.filter_cons_of_neg (by simp [blank]), definitionLines_of_isBlankText blank,
        List.nil_append]
    | false => rw [List.filter_cons_of_pos (by simp [blank]), List.flatMap_cons]

/-! ## What was found, and what is decoded -/

/-- Every line that is found and not blank is a definition. -/
theorem isDefinition_of_definitions? (present : definitions? (lines text) = some found) :
    ∀ line ∈ solidLines found.payload, isDefinition line = true := by
  rw [definitions?] at present
  obtain ⟨-, same⟩ := Option.ite_none_left_eq_some.mp present
  obtain rfl := Option.some.inj same
  obtain ⟨tail, whole⟩ := dropBlankTail_prefix
    ((lines text).takeWhile fun line => isBlankText line || isDefinition line)
  have cut := (List.takeWhile_append_dropWhile
    (p := fun line => isBlankText line || isDefinition line) (l := lines text)).symm
  rw [← whole, List.append_assoc] at cut
  obtain ⟨kept, -, -⟩ := lines_eq_append cut
  intro line member
  rw [solidLines, kept, List.mem_filter] at member
  have taken := List.mem_takeWhile_imp (whole ▸ List.mem_append_left tail member.1)
  rw [Bool.or_eq_true] at taken
  exact taken.resolve_left (by simpa using member.2)

/-- Lines that are all definitions have their definitions in order. -/
theorem exists_definitions {lines : List (List Char)}
    (all : ∀ line ∈ lines, isDefinition line = true) :
    ∃ definitions : List DefinitionLine,
      lines.map (fun line => ofLine? (withoutEnd line)) = definitions.map some := by
  induction lines with
  | nil => exact ⟨[], rfl⟩
  | cons line lines hypothesis =>
    rw [List.forall_mem_cons] at all
    obtain ⟨definition, defines⟩ := Option.isSome_iff_exists.mp all.1
    obtain ⟨definitions, same⟩ := hypothesis all.2
    exact ⟨definition :: definitions, by rw [List.map_cons, defines, same, List.map_cons]⟩

/-- Lines without line boundaries inside are decoded to their definitions. -/
theorem flatMap_of_unbroken {lines : List (List Char)} {definitions : List DefinitionLine}
    (defines : lines.map (fun line => ofLine? (withoutEnd line)) = definitions.map some)
    (unbroken : ∀ line ∈ lines, boundaries (withoutEnd line) = []) :
    (lines.flatMap fun line => definitionLines (withoutEnd line)) = definitions := by
  induction lines generalizing definitions with
  | nil => exact (List.map_eq_nil_iff.mp defines.symm).symm
  | cons line lines hypothesis =>
    cases definitions with
    | nil => cases defines
    | cons definition definitions =>
      obtain ⟨own, later⟩ := List.cons.inj defines
      dsimp only at own
      rw [List.forall_mem_cons] at unbroken
      rw [List.flatMap_cons, definitionLines_of_unbroken unbroken.1, own,
        hypothesis later unbroken.2]
      rfl

/-- Where no line gives more than one definition, all of them give no more than there are lines. -/
theorem length_flatMap_le {lines : List (List Char)} {gives : List Char → List DefinitionLine}
    (atMostOne : ∀ line ∈ lines, (gives line).length ≤ 1) :
    (lines.flatMap gives).length ≤ lines.length := by
  induction lines with
  | nil => exact Nat.le_refl 0
  | cons line lines hypothesis =>
    rw [List.forall_mem_cons] at atMostOne
    have later := hypothesis atMostOne.2
    rw [List.flatMap_cons, List.length_append, List.length_cons]
    omega

/-- Where every definition that was found is decoded and no other, no line has a line boundary
inside. -/
theorem unbroken_of_perm {lines : List (List Char)} {definitions : List DefinitionLine}
    (defines : lines.map (fun line => ofLine? (withoutEnd line)) = definitions.map some)
    (perm : (lines.flatMap fun line => definitionLines (withoutEnd line)).Perm definitions) :
    ∀ line ∈ lines, boundaries (withoutEnd line) = [] := by
  have inner : ∀ line ∈ lines, ∃ definition,
      ofLine? (withoutEnd line) = some definition ∧ definition.innerBoundaries = [] := by
    intro line member
    have listed := List.mem_map_of_mem (f := fun line => ofLine? (withoutEnd line)) member
    rw [defines] at listed
    obtain ⟨definition, found, same⟩ := List.mem_map.mp listed
    obtain ⟨other, -, decoded⟩ := List.mem_flatMap.mp (perm.mem_iff.mpr found)
    exact ⟨definition, same.symm, innerBoundaries_of_mem decoded⟩
  have atMostOne : ∀ line ∈ lines, (definitionLines (withoutEnd line)).length ≤ 1 := by
    intro line member
    obtain ⟨definition, own, none⟩ := inner line member
    by_cases unbroken : boundaries (withoutEnd line) = []
    · rw [definitionLines_of_unbroken unbroken, own]
      exact Nat.le_refl 1
    · rw [definitionLines_of_broken_label own none unbroken]
      exact Nat.zero_le 1
  intro line member
  by_contra broken
  obtain ⟨definition, own, none⟩ := inner line member
  have count := congrArg List.length defines
  have total := perm.length_eq
  obtain ⟨front, back, rfl⟩ := List.append_of_mem member
  have frontLength := length_flatMap_le fun line inside =>
    atMostOne line (List.mem_append_left _ inside)
  have backLength := length_flatMap_le fun line inside =>
    atMostOne line (List.mem_append_right front (List.mem_cons_of_mem _ inside))
  rw [List.flatMap_append, List.flatMap_cons, definitionLines_of_broken_label own none broken,
    List.nil_append, List.length_append] at total
  rw [List.length_map, List.length_map, List.length_append, List.length_cons] at count
  omega

/-- Where definitions are found, every line of the payload that is not blank holds one. The metadata
of the payload is these definitions, one for each line, grouped by their labels in order, exactly if
no such line has a line boundary before its end. -/
theorem definitions_decoded_iff {document : List Char} {front : FrontMatter}
    (extracts : extract (some .refdef) document = .ok (some front, text)) :
    ∃ definitions : List DefinitionLine,
      (solidLines front.payload).map (fun line => ofLine? (withoutEnd line)) =
        definitions.map some ∧
      ((∃ groups, IsGrouping definitions groups ∧
          decode front.kind front.payload = .ok (.map none (groupEntries groups))) ↔
        ∀ line ∈ solidLines front.payload, ∀ c ∈ withoutEnd line, isLineBoundary c = false) := by
  obtain ⟨_, located, same⟩ := extract_eq_ok_iff.mp extracts
  obtain ⟨rfl, -⟩ := Prod.mk.inj same
  obtain ⟨found, present, rfl⟩ := locate?_eq_some_iff.mp located
  obtain ⟨definitions, defines⟩ :=
    exists_definitions (isDefinition_of_definitions? (Except.ok.inj present))
  refine ⟨definitions, defines, ?_⟩
  simp only [← boundaries_eq_nil_iff]
  have decoded := definitionLines_solidLines found.payload
  constructor
  · rintro ⟨groups, grouping, decodes⟩
    have entries : groupEntries (groupByLabel (definitionLines found.payload)) =
        groupEntries groups := (Value.map.inj (Except.ok.inj decodes)).2
    have own := isGrouping_groupByLabel (definitionLines found.payload)
    obtain rfl := groupEntries_inj (label_of_isGrouping own) (label_of_isGrouping grouping) entries
    exact unbroken_of_perm defines (decoded ▸ perm_of_isGrouping own grouping)
  · intro unbroken
    rw [flatMap_of_unbroken defines unbroken] at decoded
    refine ⟨groupByLabel definitions, isGrouping_groupByLabel definitions, ?_⟩
    rw [← decoded]
    rfl

/-- Definitions of two labels by turns, with a title, an empty line and different ends of lines, are
decoded to two groups. -/
theorem definitions_decoded_of_two_labels :
    let document := "\uFEFF\n[b ]: /x\r\n\n[ a]: <y z> 'T'\n [b]: /z\n\nText".toList
    let payload := "[b ]: /x\r\n\n[ a]: <y z> 'T'\n [b]: /z\n".toList
    extract (some .refdef) document = .ok (some ⟨.refdef, payload, 2, 39⟩, "Text".toList) ∧
      ∃ groups, IsGrouping [⟨['b'], "/x".toList, none⟩, ⟨['a'], "y z".toList, some ['T']⟩,
          ⟨['b'], "/z".toList, none⟩] groups ∧
        decode .refdef payload = .ok (.map none (groupEntries groups)) := by
  intro document payload
  have extracts : extract (some .refdef) document =
      .ok (some ⟨.refdef, payload, 2, 39⟩, "Text".toList) := by decide +kernel
  obtain ⟨definitions, defines, decoded⟩ := definitions_decoded_iff extracts
  have own : (solidLines payload).map (fun line => ofLine? (withoutEnd line)) =
      [⟨['b'], "/x".toList, none⟩, ⟨['a'], "y z".toList, some ['T']⟩,
        ⟨['b'], "/z".toList, none⟩].map some := by decide +kernel
  obtain rfl := List.map_injective_iff.mpr (fun _ _ => Option.some.inj) (defines.symm.trans own)
  have unbroken : ((solidLines payload).all fun line =>
      (withoutEnd line).all fun c => !isLineBoundary c) = true := by decide +kernel
  refine ⟨extracts, decoded.mpr fun line member c inside => ?_⟩
  simpa using List.all_eq_true.mp (List.all_eq_true.mp unbroken line member) c inside

/-- A title with a line separator is found in one line. It is decoded in two, so that its definition
is lost, and a definition of the title's words appears instead. -/
theorem definition_lost_at_lineSeparator :
    let document := "[a]: /u \"x\u2028[b]: /v\"\n".toList
    let definition : DefinitionLine := ⟨['a'], "/u".toList, some "x\u2028[b]: /v".toList⟩
    extract (some .refdef) document = .ok (some ⟨.refdef, document, 0, 20⟩, []) ∧
      (solidLines document).map (fun line => ofLine? (withoutEnd line)) = [some definition] ∧
      decode .refdef document =
        .ok (.map none (groupEntries [(['b'], [⟨['b'], "/v\"".toList, none⟩])])) ∧
      ¬∃ groups, IsGrouping [definition] groups ∧
        decode .refdef document = .ok (.map none (groupEntries groups)) := by
  intro document definition
  have decoded : definitionLines document = [⟨['b'], "/v\"".toList, none⟩] := by decide +kernel
  have decodes : decode .refdef document =
      .ok (.map none (groupEntries [(['b'], [⟨['b'], "/v\"".toList, none⟩])])) := by
    rw [decode, decoded]
    rfl
  refine ⟨by decide +kernel, by decide +kernel, decodes, ?_⟩
  rintro ⟨groups, grouping, same⟩
  have entries : groupEntries groups =
      groupEntries [(['b'], [⟨['b'], "/v\"".toList, none⟩])] :=
    (Value.map.inj (Except.ok.inj (same.symm.trans decodes))).2
  have single : IsGrouping [⟨['b'], "/v\"".toList, none⟩]
      [(['b'], [⟨['b'], "/v\"".toList, none⟩])] := isGrouping_groupByLabel _
  obtain rfl := groupEntries_inj (label_of_isGrouping grouping) (label_of_isGrouping single) entries
  have labelled := (grouping.labels ['a']).mpr List.mem_cons_self
  exact absurd labelled (by decide)

end FoldMark.FrontMatter
