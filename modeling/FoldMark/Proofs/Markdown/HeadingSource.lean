import FoldMark.Outline
import FoldMark.Proofs.Markdown.BlockSource
import FoldMark.Proofs.Markdown.Finishing
import FoldMark.Proofs.Markdown.RunningText

/-!
# The source of a heading with attributes

The text by which a heading is selected is its source without the block of attributes. The block is
found in the content, where escapes and references are resolved, and cut off the source on its own.
So the text is what stands before the source of the block exactly if the block is seen there as well
(`headingText_iff_plain`); a heading that gets no attributes keeps its source in any case.
-/

namespace FoldMark.Markdown

open Text HeadingAttributes

variable {features : Features} {references : References} {document source : List Char}
  {content changed : List Inline} {added : Attributes} {front back : List Token}

/-- Running text of a document is what its source is read as. -/
theorem exists_notes_of_readInlines {read : Inline.Nested} {tokens : List Token} {notes : Notes}
    (whole : (readInlines read tokens notes).1 = front ++ .inline source content :: back) :
    ∃ notes', content = (read source notes').1 := by
  fun_induction readInlines read tokens notes generalizing front with
  | case1 notes => simp at whole
  | case2 source' former rest notes content' later first rest' last others hypothesis =>
    cases front with
    | nil =>
      obtain ⟨rfl, rfl⟩ := Token.inline.inj (List.cons.inj whole).1
      exact ⟨notes, by rw [first]⟩
    | cons token front =>
      rw [others] at hypothesis
      exact hypothesis (List.cons.inj whole).2
  | case3 token rest notes other rest' last others hypothesis =>
    cases front with
    | nil => exact (other _ _ (List.cons.inj whole).1).elim
    | cons token front =>
      rw [others] at hypothesis
      exact hypothesis (List.cons.inj whole).2

/-- The parts of a source are those of the block that a content ends in. -/
structure BlockSource.IsSourceOf (parts : BlockSource) (source : List Char)
    (content : List Inline) (added : Attributes) : Prop where
  /-- The source as a whole. -/
  whole : source = parts.whole
  /-- The block is the one at the end of the texts at the end of the content, which are written
  behind the source of what stands before them. -/
  spelled : ∃ head tail front back before gap spec rest, content = head ++ tail ∧
    (∀ item ∈ tail, isTextual item = true) ∧ (∀ item ∈ head.getLast?, isTextual item = false) ∧
    source = front ++ back ∧ Writes tail back ∧
    EndsInBlock (textOf tail) before gap spec rest ∧ parse? spec = some added ∧
    parts.SpellsBlock front before gap spec rest

/-- Two cuts of a source have the same source in front of the texts at the end of the content, and
differ at most in how the text before the block is spelled behind it. -/
theorem BlockSource.IsSourceOf.exists_front {parts other : BlockSource}
    (cut : parts.IsSourceOf source content added)
    (cut' : other.IsSourceOf source content added) :
    ∃ front before written written', parts.kept = front ++ written ∧
      other.kept = front ++ written' ∧ Spells before written ∧ Spells before written' := by
  obtain ⟨-, head, tail, front, back, before, gap, spec, rest, rfl, textual, stops, rfl, writes,
    ends, -, spells⟩ := cut
  obtain ⟨-, head', tail', front', back', before', gap', spec', rest', same, textual', stops',
    whole, writes', ends', -, spells'⟩ := cut'
  have tails : tail.reverse = tail'.reverse := by
    rw [← takeWhile_reverse_append textual stops, same, takeWhile_reverse_append textual' stops']
  obtain rfl := List.reverse_inj.mp tails
  obtain rfl := writes.eq_of_append writes' textual whole
  obtain rfl := List.append_cancel_right whole
  have blocks := (splitBlock?_eq_some_iff.mpr ⟨gap, rest, ends⟩).symm.trans
    (splitBlock?_eq_some_iff.mpr ⟨gap', rest', ends'⟩)
  obtain ⟨rfl, -⟩ := Prod.mk.inj (Option.some.inj blocks)
  obtain ⟨written, kept, spelled⟩ := spells.before
  obtain ⟨written', kept', spelled'⟩ := spells'.before
  exact ⟨front, before, written, written', kept, kept', spelled, spelled'⟩

/-- Where a content ends in a block, so does its source. -/
theorem exists_isSourceOf (ends : EndsWritten content source)
    (taken : split? content = some (changed, added)) :
    ∃ parts : BlockSource, parts.IsSourceOf source content added := by
  obtain ⟨head, tail, before, gap, spec, rest, rfl, textual, stops, block, parsed, -⟩ :=
    split?_eq_some_iff.mp taken
  obtain ⟨front, back, rfl, writes⟩ := ends head tail rfl fun item member =>
    isWritable_of_isTextual (textual item member)
  obtain ⟨parts, whole, spells⟩ := BlockSource.exists_parts block (writes.spells textual) front
  exact ⟨parts, whole, head, tail, front, back, before, gap, spec, rest, rfl, textual, stops, rfl,
    writes, block, parsed, spells⟩

/-- A heading that gets no attributes keeps its source. Of one that does, a selector sees what
stands before the source of the block exactly if blanks and the opening brace of the block are
written as such there and the closing brace is at most escaped. -/
theorem headingText_iff_plain {level : Nat} {attributes : Attributes} {hidden : Bool}
    (whole : (readTokens features references document).1 =
      front ++ .opening (.heading level) attributes hidden :: .inline source content :: back) :
    (split? content = none → apply (readTokens features references document).1 =
      apply front ++ .opening (.heading level) attributes hidden :: .inline source content ::
        apply back) ∧
    ∀ changed added, split? content = some (changed, added) →
      apply (readTokens features references document).1 =
        apply front ++ .opening (.heading level) (added.foldl assign attributes) hidden ::
          .inline (dropBlock source) changed :: apply back ∧
      (∃ parts : BlockSource, parts.IsSourceOf source content added) ∧
      ∀ parts : BlockSource, parts.IsSourceOf source content added →
        (dropBlock source = trimRight parts.kept ↔ parts.IsPlain) ∧
        ∀ more, Outline.headingText (.opening (.heading level) (added.foldl assign attributes)
          hidden :: .inline (dropBlock source) changed :: more) = trim parts.kept ↔
            parts.IsPlain := by
  rw [whole]
  refine ⟨fun kept => apply_heading_of_none kept front back level attributes hidden source, ?_⟩
  intro changed added taken
  refine ⟨apply_heading taken front back level attributes hidden source, ?_, ?_⟩
  · rw [readTokens] at whole
    obtain ⟨notes, read⟩ := exists_notes_of_readInlines (whole.trans (List.append_cons ..))
    refine exists_isSourceOf ?_ taken
    rw [read]
    exact Inline.endsWritten_read _ _ _ _ _
  · rintro parts ⟨rfl, head, tail, _, _, before, gap, spec, rest, -, -, -, -, -, ends, -, spells⟩
    exact ⟨BlockSource.dropBlock_eq_iff spells ends,
      fun _ => BlockSource.trim_dropBlock_eq_iff spells ends⟩

/-- A heading with braces of its own, and with an escaped brace at its end, is seen without its
block. -/
theorem headingText_with_braces :
    let tokens := (readTokens { headingAttributes := true } []
      "# *Set* \\\x7b1\x7d \x7b#set\\\x7d".toList).1
    ∃ source content changed, tokens =
        [.start (.heading 1), .inline source content, .stop (.heading 1)] ∧
      split? content = some (changed, [(idName, "set".toList)]) ∧
      Outline.headingText (apply tokens) = "*Set* \\\x7b1\x7d".toList := by
  intro tokens
  have whole : tokens = [] ++ .opening (.heading 1) [] false :: .inline
      "*Set* \\\x7b1\x7d \x7b#set\\\x7d".toList [.opening .emphasis, .text "Set".toList,
        .closing .emphasis, .text [' '], .literal ['\x7b'], .text "1\x7d \x7b#set".toList,
        .literal ['\x7d']] :: [.stop (.heading 1)] := by decide +kernel
  have taken : split? [.opening .emphasis, .text "Set".toList, .closing .emphasis, .text [' '],
      .literal ['\x7b'], .text "1\x7d \x7b#set".toList, .literal ['\x7d']] =
      some ([.opening .emphasis, .text "Set".toList, .closing .emphasis,
        .text " \x7b1\x7d".toList], [(idName, "set".toList)]) := by decide +kernel
  refine ⟨_, _, _, whole, taken, ?_⟩
  have ends : EndsInBlock " \x7b1\x7d \x7b#set\x7d".toList " \x7b1\x7d".toList [' ']
      "#set".toList [] :=
    ⟨rfl, by simp [isBlank], List.forall_mem_singleton.mpr rfl,
      List.forall_iff_forall_mem.mp (by decide), List.forall_mem_nil _⟩
  have writes : Writes [.text [' '], .literal ['\x7b'], .text "1\x7d \x7b#set".toList,
      .literal ['\x7d']] " \\\x7b1\x7d \x7b#set\\\x7d".toList :=
    .cons (.text [' ']) (.cons (.literal (.escape rfl)) (.cons (.text "1\x7d \x7b#set".toList)
      (.cons (.literal (.escape rfl)) .nil)))
  have isSource : BlockSource.IsSourceOf ⟨"*Set* \\\x7b1\x7d".toList, [' '], ['\x7b'],
      "#set".toList, ['\\', '\x7d'], []⟩ "*Set* \\\x7b1\x7d \x7b#set\\\x7d".toList _
      [(idName, "set".toList)] :=
    ⟨rfl, [.opening .emphasis, .text "Set".toList, .closing .emphasis], [.text [' '],
      .literal ['\x7b'], .text "1\x7d \x7b#set".toList, .literal ['\x7d']], "*Set*".toList,
      " \\\x7b1\x7d \x7b#set\\\x7d".toList, " \x7b1\x7d".toList, [' '], "#set".toList, [],
      rfl, by decide, by decide, rfl, writes, ends, by decide,
      ⟨" \\\x7b1\x7d".toList, rfl, .character ' ' (.escape rfl (spells_self _))⟩,
      spells_self _, spells_self _, spells_self _, .escape rfl .nil, .nil⟩
  obtain ⟨applied, -, seen⟩ := (headingText_iff_plain whole).2 _ _ taken
  rw [applied]
  have isPlain : BlockSource.IsPlain ⟨"*Set* \\\x7b1\x7d".toList, [' '], ['\x7b'],
      "#set".toList, ['\\', '\x7d'], []⟩ :=
    ⟨List.forall_mem_singleton.mpr rfl, rfl, Or.inr rfl, List.forall_mem_nil _⟩
  exact (((seen _ isSource).2 _).mpr isPlain).trans (by decide)

/-- Where the opening brace of a block is escaped, its backslash is seen. -/
theorem headingText_keeps_slash :
    let features : Features := { headingAttributes := true }
    let document := "# a \\\x7b#x\x7d".toList
    ∃ source content changed, ∃ parts : BlockSource,
      (readTokens features [] document).1 =
        [.start (.heading 1), .inline source content, .stop (.heading 1)] ∧
      split? content = some (changed, [(idName, ['x'])]) ∧
      parts.IsSourceOf source content [(idName, ['x'])] ∧ trim parts.kept = ['a'] ∧
      Outline.headingText (parse features [] document) = "a \\".toList := by
  intro features document
  have ends : EndsInBlock "a \x7b#x\x7d".toList ['a'] [' '] ['#', 'x'] [] :=
    ⟨rfl, by simp [isBlank], List.forall_mem_singleton.mpr rfl,
      List.forall_iff_forall_mem.mp (by decide), List.forall_mem_nil _⟩
  have writes : Writes [.text "a ".toList, .literal ['\x7b'], .text "#x\x7d".toList]
      "a \\\x7b#x\x7d".toList :=
    .cons (.text "a ".toList) (.cons (.literal (.escape rfl)) (.cons (.text "#x\x7d".toList) .nil))
  refine ⟨"a \\\x7b#x\x7d".toList, [.text "a ".toList, .literal ['\x7b'], .text "#x\x7d".toList],
    [.text ['a']], ⟨['a'], [' '], ['\\', '\x7b'], ['#', 'x'], ['\x7d'], []⟩, by decide +kernel,
    by decide +kernel, ⟨rfl, [], _, [], _, ['a'], [' '], ['#', 'x'], [], rfl, by decide, by simp,
      rfl, writes, ends, by decide, ⟨_, rfl, spells_self _⟩, spells_self _,
      .escape (by decide) .nil, spells_self _, spells_self _, .nil⟩, by decide,
    by decide +kernel⟩

end FoldMark.Markdown
