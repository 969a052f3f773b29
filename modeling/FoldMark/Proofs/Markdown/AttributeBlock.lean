import FoldMark.Markdown.HeadingAttributes
import FoldMark.Proofs.Text.Fronts

/-!
# Blocks of attributes

Where a text ends in a block of attributes, and what is taken from a heading whose content does. A
block is the last pair of braces with no brace between them and only blanks behind them
(`splitBlock?_eq_some_iff`). It is looked for in the texts at the end of a content, written as such
or not, which are taken together (`split?_eq_some_iff`), and once more in the source. Each heading
of a document is changed on its own (`apply_heading`).
-/

namespace FoldMark

namespace Markdown.HeadingAttributes

open Text

variable {text before gap spec rest source : List Char} {content changed head tail : List Inline}
  {added : Attributes}

/-! ## Blocks at the end of a text -/

/-- A brace. -/
def isBrace (c : Char) : Bool := c == '\x7b' || c == '\x7d'

/-- A text consists of what stands before a block, blanks, the block, and blanks. -/
structure EndsInBlock (text before gap spec rest : List Char) : Prop where
  /-- The parts. -/
  whole : text = before ++ (gap ++ '\x7b' :: (spec ++ '\x7d' :: rest))
  /-- No blank is left before the block. -/
  solid : ∀ c ∈ before.getLast?, isBlank c = false
  /-- Blanks stand before the block. -/
  gap_blank : ∀ c ∈ gap, isBlank c = true
  /-- No brace stands within the block. -/
  spec_free : ∀ c ∈ spec, isBrace c = false
  /-- Blanks stand behind the block. -/
  rest_blank : ∀ c ∈ rest, isBlank c = true

/-- What a text is split into, by what stands before the blanks at its end. -/
theorem splitBlock?_append {front : List Char} (restBlank : ∀ c ∈ rest, isBlank c = true)
    (stops : ∀ c ∈ front.getLast?, isBlank c = false) :
    splitBlock? (front ++ rest) =
      match front.reverse with
      | '\x7d' :: mirrored =>
        match cutAt isBrace mirrored with
        | some (spec, before) =>
          if mirrored[spec.length]? == some '\x7b' then
            some ((before.dropWhile isBlank).reverse, spec.reverse)
          else none
        | none => none
      | _ => none := by
  rw [splitBlock?, dropWhile_reverse_append restBlank stops]
  rfl

/-- A text that ends in a block is split there. -/
theorem EndsInBlock.splitBlock? (ends : EndsInBlock text before gap spec rest) :
    splitBlock? text = some (before, spec) := by
  obtain ⟨rfl, solid, gapBlank, specFree, restBlank⟩ := ends
  have parts : before ++ (gap ++ '\x7b' :: (spec ++ '\x7d' :: rest)) =
      (before ++ gap ++ '\x7b' :: (spec ++ ['\x7d'])) ++ rest := by simp
  have mirrored : (before ++ gap ++ '\x7b' :: (spec ++ ['\x7d'])).reverse =
      '\x7d' :: (spec.reverse ++ '\x7b' :: (before ++ gap).reverse) := by simp
  have stops : ∀ c ∈ (before ++ gap ++ '\x7b' :: (spec ++ ['\x7d'])).getLast?,
      isBlank c = false := by
    rw [← List.head?_reverse, mirrored]
    simp
    decide
  have cut : cutAt isBrace (spec.reverse ++ '\x7b' :: (before ++ gap).reverse) =
      some (spec.reverse, (before ++ gap).reverse) :=
    cutAt_eq_some_iff.mpr ⟨'\x7b', rfl, by decide, by simpa using specFree⟩
  have opens : (spec.reverse ++ '\x7b' :: (before ++ gap).reverse)[spec.reverse.length]? =
      some '\x7b' := by
    rw [List.getElem?_append_right (Nat.le_refl _), Nat.sub_self]
    rfl
  rw [parts, splitBlock?_append restBlank stops, mirrored]
  simp only [cut, opens, dropWhile_reverse_append gapBlank solid, List.reverse_reverse]
  rfl

/-- The texts that end in a block are split there, and no others. -/
theorem splitBlock?_eq_some_iff :
    splitBlock? text = some (before, spec) ↔ ∃ gap rest, EndsInBlock text before gap spec rest := by
  constructor
  · intro found
    obtain ⟨front, rest, rfl, restBlank, stops⟩ := exists_end isBlank text
    rw [splitBlock?_append restBlank stops] at found
    split at found
    · rename_i mirrored closes
      split at found
      · rename_i spec' behind cut
        obtain ⟨mark, rfl, -, free⟩ := cutAt_eq_some_iff.mp cut
        split at found
        · rename_i opens
          obtain rfl : mark = '\x7b' := by simpa using opens
          obtain ⟨rfl, rfl⟩ := Prod.mk.inj (Option.some.inj found)
          obtain ⟨before, gap, apart, gapBlank, solid⟩ := exists_end isBlank behind.reverse
          have kept : behind.dropWhile isBlank = before.reverse := by
            rw [← List.reverse_reverse behind, apart, dropWhile_reverse_append gapBlank solid]
          have whole : front = before ++ (gap ++ '\x7b' :: (spec'.reverse ++ ['\x7d'])) := by
            rw [← List.reverse_reverse front, closes]
            simp [apart]
          rw [kept, List.reverse_reverse]
          exact ⟨gap, rest, by simp [whole], solid, gapBlank, by simpa using free, restBlank⟩
        · cases found
      · cases found
    · cases found
  · rintro ⟨gap, rest, ends⟩
    exact ends.splitBlock?

/-- A source that ends in a block is left without it. -/
theorem EndsInBlock.dropBlock (ends : EndsInBlock source before gap spec rest) :
    dropBlock source = before := by
  rw [HeadingAttributes.dropBlock, ends.splitBlock?]

/-! ## Headings -/

/-- Whether a piece of content is text, written as such or not. -/
def isTextual (item : Inline) : Bool := (textOf? item).isSome

/-- The characters of pieces of text. -/
def textOf (content : List Inline) : List Char := (content.filterMap textOf?).flatten

/-- A text as content; no piece stands for no text. -/
def asContent (text : List Char) : List Inline := if text.isEmpty then [] else [.text text]

/-- From a content, a block is taken if its longest end of texts ends in one whose items are all
recognised. What is left of that end becomes one text. -/
theorem split?_append (textual : ∀ item ∈ tail, isTextual item = true)
    (stops : ∀ item ∈ head.getLast?, isTextual item = false) :
    split? (head ++ tail) = (splitBlock? (textOf tail)).bind fun (before, spec) =>
      (parse? spec).map fun added => (head ++ asContent before, added) := by
  have ended : (head ++ tail).reverse.takeWhile (fun item => (textOf? item).isSome) =
      tail.reverse := takeWhile_reverse_append textual stops
  have length : (head ++ tail).length - tail.length = head.length := by
    rw [List.length_append, Nat.add_sub_cancel]
  have left (before : List Char) : (if before.isEmpty then head else head ++ [.text before]) =
      head ++ asContent before := by
    cases before <;> simp [asContent]
  simp only [split?, ended, List.reverse_reverse, length, List.take_left, left]
  refine congrArg _ (funext fun parts => ?_)
  cases parse? parts.2 <;> rfl

/-- A block is taken from a content exactly if its longest end of texts ends in one whose items are
all recognised. What is left of that end becomes one text. -/
theorem split?_eq_some_iff :
    split? content = some (changed, added) ↔
      ∃ head tail before gap spec rest, content = head ++ tail ∧
        (∀ item ∈ tail, isTextual item = true) ∧ (∀ item ∈ head.getLast?, isTextual item = false) ∧
        EndsInBlock (textOf tail) before gap spec rest ∧ parse? spec = some added ∧
        changed = head ++ asContent before := by
  constructor
  · intro taken
    obtain ⟨head, tail, rfl, textual, stops⟩ := exists_end isTextual content
    rw [split?_append textual stops] at taken
    obtain ⟨⟨before, spec⟩, found, taken⟩ := Option.bind_eq_some_iff.mp taken
    obtain ⟨added, parsed, same⟩ := Option.map_eq_some_iff.mp taken
    obtain ⟨rfl, rfl⟩ := Prod.mk.inj same
    obtain ⟨gap, rest, ends⟩ := splitBlock?_eq_some_iff.mp found
    exact ⟨head, tail, before, gap, spec, rest, rfl, textual, stops, ends, parsed, rfl⟩
  · rintro ⟨head, tail, before, gap, spec, rest, rfl, textual, stops, ends, parsed, rfl⟩
    rw [split?_append textual stops, ends.splitBlock?, Option.bind_some]
    dsimp only
    rw [parsed]
    rfl

/-! ## Documents -/

/-- Headings are changed each on its own, up to the start of an element. -/
theorem apply_append (front : List Token) (element : Element) (attributes : Attributes)
    (hidden : Bool) (back : List Token) :
    apply (front ++ .opening element attributes hidden :: back) =
      apply front ++ apply (.opening element attributes hidden :: back) := by
  fun_induction apply front with
  | case1 level attributes hidden source content rest content' added taken hypothesis =>
    simp only [List.cons_append, apply, taken, hypothesis]
  | case2 level attributes hidden source content rest kept hypothesis =>
    simp only [List.cons_append, apply, kept, hypothesis]
  | case3 token rest other hypothesis =>
    rw [List.cons_append, List.cons_append, ← hypothesis, apply.eq_2]
    rintro level attributes' hidden' source content more rfl whole
    cases rest with
    | nil => cases whole
    | cons next rest =>
      rw [List.cons_append] at whole
      obtain ⟨rfl, -⟩ := List.cons.inj whole
      exact other level attributes' hidden' source content rest rfl rfl
  | case4 => rfl

/-- A heading gets the attributes of its block, and its source and content are left without it. -/
theorem apply_heading (taken : split? content = some (changed, added)) (front back : List Token)
    (level : Nat) (attributes : Attributes) (hidden : Bool) (source : List Char) :
    apply (front ++ .opening (.heading level) attributes hidden :: .inline source content :: back) =
      apply front ++ .opening (.heading level) (added.foldl assign attributes) hidden ::
        .inline (dropBlock source) changed :: apply back := by
  rw [apply_append]
  simp only [apply, taken]

/-- A heading whose content ends in no block stays. -/
theorem apply_heading_of_none (kept : split? content = none) (front back : List Token)
    (level : Nat) (attributes : Attributes) (hidden : Bool) (source : List Char) :
    apply (front ++ .opening (.heading level) attributes hidden :: .inline source content :: back) =
      apply front ++ .opening (.heading level) attributes hidden :: .inline source content ::
        apply back := by
  rw [apply_append]
  simp only [apply, kept]

end Markdown.HeadingAttributes

end FoldMark
