import FoldMark.Proofs.Markdown.Finishing
import FoldMark.Proofs.Markdown.RunningText
import Mathlib.Data.List.DropRight

/-!
# What is left of a heading

A heading that gets attributes loses the characters of their block and the blanks beside it, and
keeps all others in their order. But the texts at its end become one text, and with it characters
that were written as escapes or references, which smart punctuation is not to change. So the rest is
left as it was exactly if there are none of these among them (`heading_keeps_rest_iff`), and then
the heading is shown as it is without the block.
-/

namespace FoldMark.Markdown

open Text HeadingAttributes

variable {content changed head tail : List Inline} {added : Attributes}

/-! ## Strokes -/

/-- A character of a content with the kind of text that it stands in, or a piece that is no text. -/
inductive Stroke where
  /-- A character of a text. -/
  | char (c : Char) (isLiteral : Bool)
  /-- Another piece. -/
  | other (item : Inline)
  deriving DecidableEq

namespace Stroke

/-- The character of a stroke. -/
def char? : Stroke → Option Char
  | .char c _ => some c
  | .other _ => none

/-- Whether a stroke is a character. -/
def isChar (stroke : Stroke) : Bool := stroke.char?.isSome

/-- Whether a stroke is a blank character. -/
def isBlank (stroke : Stroke) : Bool := stroke.char?.any Text.isBlank

/-- Whether a stroke is a character that was written as an escape or a reference. -/
def isLiteral : Stroke → Bool
  | .char _ isLiteral => isLiteral
  | .other _ => false

/-- A character as if it were written as such. -/
def asText : Stroke → Stroke
  | .char c _ => .char c false
  | .other item => .other item

/-- A stroke is as if it were written as such if it was. -/
theorem asText_eq_self_iff {stroke : Stroke} :
    stroke.asText = stroke ↔ stroke.isLiteral = false := by
  cases stroke with
  | char c isLiteral => simp [asText, Stroke.isLiteral, eq_comm]
  | other item => simp [asText, Stroke.isLiteral]

end Stroke

/-- The strokes of a piece of content. -/
def Inline.strokes : Inline → List Stroke
  | .text content => content.map (.char · false)
  | .literal content => content.map (.char · true)
  | item => [.other item]

/-- The strokes of a content. -/
def strokes (content : List Inline) : List Stroke := content.flatMap Inline.strokes

/-- The strokes of texts are their characters. -/
theorem map_char?_strokes (textual : ∀ item ∈ tail, isTextual item = true) :
    (strokes tail).map Stroke.char? = (textOf tail).map some := by
  induction tail with
  | nil => rfl
  | cons item tail hypothesis =>
    rw [List.forall_mem_cons] at textual
    have later := hypothesis textual.2
    rw [strokes, List.flatMap_cons, List.map_append, ← strokes, later]
    cases item with
    | text chars => simp [textOf, textOf?, Inline.strokes, Stroke.char?, Function.comp_def]
    | literal chars => simp [textOf, textOf?, Inline.strokes, Stroke.char?, Function.comp_def]
    | _ => cases textual.1

/-- A piece that is no text is one stroke. -/
theorem strokes_of_not_isTextual {item : Inline} (other : isTextual item = false) :
    item.strokes = [.other item] := by
  cases item with
  | text | literal => cases other
  | _ => rfl

/-- The strokes of a content that ends in no text end in no character. -/
theorem isChar_getLast?_strokes (stops : ∀ item ∈ head.getLast?, isTextual item = false) :
    ∀ stroke ∈ (strokes head).getLast?, stroke.isChar = false := by
  rcases List.eq_nil_or_concat head with rfl | ⟨front, last, rfl⟩
  · exact nofun
  · rw [List.concat_eq_append] at stops ⊢
    have other := stops last (by simp)
    rw [strokes, List.flatMap_append, List.flatMap_singleton, strokes_of_not_isTextual other]
    simp [Stroke.isChar, Stroke.char?]

/-- A text as content has its characters. -/
theorem strokes_asContent (text : List Char) :
    strokes (asContent text) = text.map (.char · false) := by
  cases text <;> simp [asContent, strokes, Inline.strokes]

/-! ## Blocks of strokes -/

/-- A content is told apart into what is kept and a block that gives attributes, with the blanks
beside it. -/
structure Takes (content : List Inline) (added : Attributes) (kept block : List Stroke) : Prop where
  /-- The parts. -/
  whole : strokes content = kept ++ block
  /-- No blank is kept before the block. -/
  solid : ∀ last ∈ kept.getLast?, last.isBlank = false
  /-- The block. -/
  isBlock : ∃ gap spec rest, block.map Stroke.char? =
      (gap ++ '\x7b' :: (spec ++ '\x7d' :: rest)).map some ∧ (∀ c ∈ gap, isBlank c = true) ∧
    (∀ c ∈ rest, isBlank c = true) ∧ (∀ c ∈ spec, isBrace c = false) ∧ parse? spec = some added

/-- What is kept, with the characters at its end as if they were written as such. -/
def settledEnd (kept : List Stroke) : List Stroke :=
  kept.rdropWhile Stroke.isChar ++ (kept.rtakeWhile Stroke.isChar).map Stroke.asText

/-- The end is as it was if nothing in it was written as an escape or a reference. -/
theorem settledEnd_eq_self_iff {kept : List Stroke} :
    settledEnd kept = kept ↔
      ∀ stroke ∈ kept.rtakeWhile Stroke.isChar, stroke.isLiteral = false := by
  have whole : kept.rdropWhile Stroke.isChar ++ kept.rtakeWhile Stroke.isChar = kept := by
    rw [List.rdropWhile, List.rtakeWhile, ← List.reverse_append, List.takeWhile_append_dropWhile,
      List.reverse_reverse]
  have same : settledEnd kept = kept ↔ (kept.rtakeWhile Stroke.isChar).map Stroke.asText =
      kept.rtakeWhile Stroke.isChar := by
    conv_lhs => rhs; rw [← whole]
    exact List.append_right_inj _
  rw [same]
  simp only [← Stroke.asText_eq_self_iff]
  conv_lhs => rhs; rw [← List.map_id (kept.rtakeWhile Stroke.isChar)]
  exact List.map_inj_left

/-- What is kept stays as long as it is. -/
theorem length_settledEnd (kept : List Stroke) : (settledEnd kept).length = kept.length := by
  rw [settledEnd, List.length_append, List.length_map, ← List.length_append, List.rdropWhile,
    List.rtakeWhile, ← List.reverse_append, List.takeWhile_append_dropWhile, List.reverse_reverse]

/-- Strokes that are the characters of a text. -/
theorem map_asText_of_map_char? {run : List Stroke} {text : List Char}
    (chars : run.map Stroke.char? = text.map some) :
    run.map Stroke.asText = text.map (.char · false) := by
  induction run generalizing text with
  | nil =>
    obtain rfl := List.map_eq_nil_iff.mp chars.symm
    rfl
  | cons stroke run hypothesis =>
    obtain ⟨c, text, rfl, first, later⟩ := List.map_eq_cons_iff.mp chars.symm
    cases stroke with
    | other item => cases first
    | char d isLiteral =>
      obtain rfl := Option.some.inj first
      rw [List.map_cons, List.map_cons, hypothesis later.symm]
      rfl

/-- The longest end of characters is what stands behind the last piece that is none. -/
theorem settledEnd_append {front run : List Stroke} (all : ∀ stroke ∈ run, stroke.isChar = true)
    (stops : ∀ stroke ∈ front.getLast?, stroke.isChar = false) :
    settledEnd (front ++ run) = front ++ run.map Stroke.asText := by
  rw [settledEnd, List.rdropWhile, List.rtakeWhile, dropWhile_reverse_append all stops,
    takeWhile_reverse_append all stops, List.reverse_reverse, List.reverse_reverse]

/-- What is taken from a content is a block with the blanks beside it. -/
theorem takes_of_split? (taken : split? content = some (changed, added)) :
    ∃ kept block, Takes content added kept block ∧ strokes changed = settledEnd kept := by
  obtain ⟨head, tail, before, gap, spec, rest, rfl, textual, stops, ends, parsed, rfl⟩ :=
    split?_eq_some_iff.mp taken
  have chars := map_char?_strokes textual
  rw [ends.whole, List.map_append] at chars
  obtain ⟨run, block, cut, beforeRun, inBlock⟩ := List.map_eq_append_iff.mp chars
  have allChars : ∀ stroke ∈ run, stroke.isChar = true := by
    intro stroke inside
    have listed := List.mem_map_of_mem (f := Stroke.char?) inside
    rw [beforeRun] at listed
    obtain ⟨c, -, same⟩ := List.mem_map.mp listed
    rw [Stroke.isChar, ← same]
    rfl
  have headStops := isChar_getLast?_strokes stops
  refine ⟨strokes head ++ run, block, ⟨?_, ?_, ?_⟩, ?_⟩
  · rw [strokes, List.flatMap_append, ← strokes, ← strokes, cut, List.append_assoc]
  · intro last isLast
    rcases List.eq_nil_or_concat run with rfl | ⟨front, stroke, rfl⟩
    · rw [List.append_nil] at isLast
      have noChar := headStops last isLast
      rw [Stroke.isChar, Option.isSome_eq_false_iff, Option.isNone_iff_eq_none] at noChar
      rw [Stroke.isBlank, noChar]
      rfl
    · rw [List.concat_eq_append] at beforeRun isLast
      obtain rfl : stroke = last := by simpa using isLast
      rw [List.map_append, List.map_singleton] at beforeRun
      have lastChar := congrArg List.getLast? beforeRun
      rw [List.getLast?_append, List.getLast?_singleton, Option.some_or, List.getLast?_map]
        at lastChar
      obtain ⟨c, isLast, same⟩ := Option.map_eq_some_iff.mp lastChar.symm
      rw [Stroke.isBlank, ← same]
      exact ends.solid c isLast
  · exact ⟨gap, spec, rest, inBlock, ends.gap_blank, ends.rest_blank, ends.spec_free, parsed⟩
  · rw [settledEnd_append allChars headStops, map_asText_of_map_char? beforeRun, strokes,
      List.flatMap_append, ← strokes, ← strokes, strokes_asContent]

/-! ## Blocks that name an identifier -/

/-- A block with an identifier, behind a space. -/
def idBlock (identifier : List Char) : List Char :=
  ' ' :: '\x7b' :: ('#' :: identifier ++ ['\x7d'])

/-- A text that can be an identifier in a block. -/
structure IsIdentifier (identifier : List Char) : Prop where
  /-- It is not empty. -/
  nonempty : identifier ≠ []
  /-- It holds neither blanks nor braces. -/
  solid : ∀ c ∈ identifier, isBlank c = false ∧ isBrace c = false

variable {identifier : List Char}

/-- An identifier is the only item of its block. -/
theorem parse?_identifier (isIdentifier : IsIdentifier identifier) :
    parse? ('#' :: identifier) = some [(idName, identifier)] := by
  obtain ⟨nonempty, solid⟩ := isIdentifier
  have one : words ('#' :: identifier) = ['#' :: identifier] := by
    refine splitRuns_of_forall (List.cons_ne_nil _ _) (List.forall_mem_cons.mpr ⟨by decide, ?_⟩)
    exact fun c inside => (solid c inside).1
  obtain ⟨c, rest, rfl⟩ := List.exists_cons_of_ne_nil nonempty
  rw [parse?, one]
  rfl

/-- A text with a block behind it ends in that block. -/
theorem endsInBlock_idBlock {text : List Char} (isIdentifier : IsIdentifier identifier)
    (solid : ∀ c ∈ text.getLast?, isBlank c = false) :
    EndsInBlock (text ++ idBlock identifier) text [' '] ('#' :: identifier) [] where
  whole := rfl
  solid := solid
  gap_blank := List.forall_mem_singleton.mpr rfl
  spec_free := List.forall_mem_cons.mpr
    ⟨by decide, fun c inside => (isIdentifier.solid c inside).2⟩
  rest_blank := nofun

/-- A part of running text is read as texts that are joined. -/
theorem isChain_readPart (text : RunningText) (nested : Inline.Nested) (depth position stop : Nat)
    (reading : Reading) :
    (Inline.readPart text nested depth position stop reading).1.IsChain Inline.Apart := by
  cases depth <;> exact Inline.isChain_joinTexts _

/-- Running text is read as texts that are joined. -/
theorem isChain_read (features : Features) (references : References) (labels : List (List Char))
    (source : List Char) (notes : Notes) :
    (Inline.read features references labels source notes).1.IsChain Inline.Apart := by
  rw [Inline.read, Inline.readWithin, Inline.readText]
  exact isChain_readPart _ _ _ _ _ _

/-- In joined content, texts at the end that were written as such are one text or none. -/
theorem eq_of_isText (apart : (head ++ tail).IsChain Inline.Apart)
    (written : ∀ item ∈ tail, Inline.isText item = true) :
    tail = [] ∨ tail = [.text (textOf tail)] := by
  match tail with
  | [] => exact Or.inl rfl
  | [item] =>
    obtain ⟨chars, rfl⟩ := Inline.exists_of_isText (written item List.mem_cons_self)
    exact Or.inr (by simp [textOf, textOf?])
  | first :: second :: rest =>
    have both := List.isChain_cons_cons.mp (List.isChain_append.mp apart).2.1
    have isText := both.1 (written first List.mem_cons_self)
    rw [written second (by simp)] at isText
    cases isText

/-- A content with a block at its end, of which the texts at the end were written as such. -/
theorem split?_joinTexts_idBlock (isIdentifier : IsIdentifier identifier)
    (apart : (head ++ tail).IsChain Inline.Apart)
    (stops : ∀ item ∈ head.getLast?, isTextual item = false)
    (written : ∀ item ∈ tail, Inline.isText item = true)
    (solid : ∀ c ∈ (textOf tail).getLast?, isBlank c = false) :
    split? (Inline.joinTexts (head ++ tail ++ [.text (idBlock identifier)])) =
      some (head ++ asContent (textOf tail), [(idName, identifier)]) := by
  have alone : (head ++ [Inline.text (textOf tail ++ idBlock identifier)]).IsChain
      Inline.Apart := by
    rw [List.isChain_append] at apart ⊢
    refine ⟨apart.1, List.isChain_singleton _, fun last isLast next _ isText => ?_⟩
    obtain ⟨chars, rfl⟩ := Inline.exists_of_isText isText
    cases stops _ isLast
  have joined : Inline.joinTexts (head ++ tail ++ [.text (idBlock identifier)]) =
      head ++ [.text (textOf tail ++ idBlock identifier)] := by
    rcases eq_of_isText apart written with none | one
    · rw [none, List.append_nil]
      rw [none] at alone
      exact Inline.joinTexts_of_isChain alone
    · rw [one, List.append_assoc, List.singleton_append, Inline.joinTexts_append_text_text,
        ← one, Inline.joinTexts_of_isChain alone]
  have block : EndsInBlock (textOf [.text (textOf tail ++ idBlock identifier)]) (textOf tail) [' ']
      ('#' :: identifier) [] := by
    have ends := endsInBlock_idBlock isIdentifier solid
    simpa [textOf, textOf?] using ends
  rw [joined]
  exact split?_eq_some_iff.mpr ⟨head, _, _, _, _, _, rfl, by simp [isTextual, textOf?], stops,
    block, parse?_identifier isIdentifier, rfl⟩

/-- Where the texts at the end of a heading were written as such, a block with an identifier behind
them is taken, and the heading is shown as it is without it. -/
theorem shownAs_idBlock {features : Features} {references : References} {labels : List (List Char)}
    {source : List Char} {notes : Notes} (isIdentifier : IsIdentifier identifier)
    (trimmed : ∀ c ∈ source.getLast?, isBlank c = false)
    (unchanged : (Inline.read features references labels (source ++ idBlock identifier) notes).1 =
      Inline.joinTexts ((Inline.read features references labels source notes).1 ++
        [.text (idBlock identifier)]))
    (written : ∀ item ∈ (Inline.read features references labels source notes).1.rtakeWhile
      isTextual, Inline.isText item = true) :
    ∃ changed, split? (Inline.read features references labels (source ++ idBlock identifier)
        notes).1 = some (changed, [(idName, identifier)]) ∧
      shownAs features (dropBlock (source ++ idBlock identifier)) changed =
        shownAs features source (Inline.read features references labels source notes).1 := by
  have apart := isChain_read features references labels source notes
  have ends := Inline.endsWritten_read features references labels source notes
  obtain ⟨head, tail, cut, textual, stops⟩ :=
    exists_end isTextual (Inline.read features references labels source notes).1
  rw [unchanged]
  rw [cut] at apart written ends ⊢
  rw [List.rtakeWhile, takeWhile_reverse_append textual stops, List.reverse_reverse] at written
  have solid : ∀ c ∈ (textOf tail).getLast?, isBlank c = false := by
    intro c isLast
    obtain ⟨front, back, rfl, writes⟩ := ends head tail rfl fun item member =>
      isWritable_of_isTextual (textual item member)
    refine trimmed c ?_
    rw [writes.eq_textOf written, List.getLast?_append, Option.mem_def.mp isLast]
    rfl
  refine ⟨_, split?_joinTexts_idBlock isIdentifier apart stops written solid, ?_⟩
  rw [(endsInBlock_idBlock isIdentifier trimmed).dropBlock]
  rcases eq_of_isText apart written with none | one
  · rw [none, List.append_nil]
    exact congrArg _ (List.append_nil head)
  · have alone : textOf [.text (textOf tail)] = textOf tail := by simp [textOf, textOf?]
    rw [one, alone, asContent]
    split
    · rename_i empty
      rw [List.isEmpty_iff.mp empty, shownAs_append_empty, List.append_nil]
    · rfl

/-- A heading that gets attributes loses their block and the blanks beside it, and keeps all other
characters in their order. It keeps how they were written exactly if none of those behind the last
piece that is no text was written as an escape or a reference, and then it is shown as it is
without the block. -/
theorem heading_keeps_rest_iff (source : List Char) :
    (∀ (front back : List Token) (level : Nat) (attributes added : Attributes) (hidden : Bool)
        (content changed : List Inline),
      split? content = some (changed, added) →
        apply (front ++ .opening (.heading level) attributes hidden :: .inline source content ::
            back) =
          apply front ++ .opening (.heading level) (added.foldl assign attributes) hidden ::
            .inline (dropBlock source) changed :: apply back ∧
        ∃ kept block, Takes content added kept block ∧ strokes changed = settledEnd kept ∧
          (strokes changed = kept ↔
            ∀ stroke ∈ kept.rtakeWhile Stroke.isChar, stroke.isLiteral = false)) ∧
    ∀ (features : Features) (references : References) (labels : List (List Char))
        (identifier : List Char) (notes : Notes),
      let content := (Inline.read features references labels source notes).1
      let read := (Inline.read features references labels (source ++ idBlock identifier) notes).1
      IsIdentifier identifier → (∀ c ∈ source.getLast?, isBlank c = false) →
      read = Inline.joinTexts (content ++ [.text (idBlock identifier)]) →
      (∀ item ∈ content.rtakeWhile isTextual, Inline.isText item = true) →
        ∃ changed, split? read = some (changed, [(idName, identifier)]) ∧
          shownAs features (dropBlock (source ++ idBlock identifier)) changed =
            shownAs features source content := by
  constructor
  · intro front back level attributes added hidden content changed taken
    obtain ⟨kept, block, takes, settled⟩ := takes_of_split? taken
    refine ⟨apply_heading taken front back level attributes hidden source, kept, block, takes,
      settled, ?_⟩
    rw [settled]
    exact settledEnd_eq_self_iff
  · intro features references labels identifier notes content read isIdentifier trimmed unchanged
      written
    exact shownAs_idBlock isIdentifier trimmed unchanged written

/-- A number sign that was written as an escape stays one before emphasis, and the quotation marks
behind it are curled as they are without the block. -/
theorem heading_keeps_sign :
    let features : Features := { smartPunctuation := true }
    let source := "\\# *b* \"q\"".toList
    let content := (Inline.read features [] [] source #[]).1
    let read := (Inline.read features [] [] (source ++ idBlock ['x']) #[]).1
    let changed := [.literal ['#'], .text [' '], .opening .emphasis, .text ['b'],
      .closing .emphasis, .text " \"q\"".toList]
    (∃ kept block, Takes read [(idName, ['x'])] kept block ∧ strokes changed = kept) ∧
      shownAs features (dropBlock (source ++ idBlock ['x'])) changed =
        shownAs features source content := by
  intro features source content read changed
  have taken : split? read = some (changed, [(idName, ['x'])]) := by decide +kernel
  obtain ⟨-, kept, block, takes, settled, same⟩ :=
    (heading_keeps_rest_iff (source ++ idBlock ['x'])).1 [] [] 1 [] _ false read changed taken
  have cut : (strokes read).take (strokes changed).length = kept := by
    rw [takes.whole, settled, length_settledEnd, List.take_left]
  have isIdentifier : IsIdentifier ['x'] := ⟨by decide, List.forall_mem_singleton.mpr (by decide)⟩
  have solid : ∀ c ∈ some '"', isBlank c = false := by simp [isBlank]
  obtain ⟨changed', taken', shown⟩ := (heading_keeps_rest_iff source).2 features [] [] ['x'] #[]
    isIdentifier solid (by decide +kernel) (by decide +kernel)
  have one : (changed, [(idName, ['x'])]) = (changed', [(idName, ['x'])]) :=
    Option.some.inj (taken.symm.trans taken')
  rw [(Prod.mk.inj one).1]
  refine ⟨⟨kept, block, takes, ?_⟩, shown⟩
  rw [← (Prod.mk.inj one).1, same, ← cut]
  decide +kernel

/-- Quotation marks that were written as escapes are curled if a block stands behind them. -/
theorem heading_loses_quotes :
    let features : Features := { smartPunctuation := true }
    let source := "\\\"a\\\"".toList
    let content := (Inline.read features [] [] source #[]).1
    let read := (Inline.read features [] [] (source ++ idBlock ['x']) #[]).1
    ∃ changed, split? read = some (changed, [(idName, ['x'])]) ∧
      shownAs features source content = "&quot;a&quot;".toList ∧
      shownAs features (dropBlock (source ++ idBlock ['x'])) changed = "“a”".toList := by
  intro features source content read
  exact ⟨[.text "\"a\"".toList], by decide +kernel, by decide +kernel, by decide +kernel⟩

end FoldMark.Markdown
