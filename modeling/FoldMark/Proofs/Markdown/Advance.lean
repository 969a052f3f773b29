import FoldMark.Markdown.Inline
import FoldMark.Proofs.Markdown.TagSize
import FoldMark.Proofs.Markdown.Writing

/-!
# Constructs go on

The construct at a position ends behind it, and what it stands for as a literal is written there
(`finds_at?`). Each step that is remembered goes on as well, at any depth (`advances_skipWithin`).
Hence a running text is read to its end.
-/

namespace FoldMark.Markdown

open Text

namespace RunningText

variable {text : RunningText} {position stop : Nat} {c : Char}

/-- A slice starts with the character at its start. -/
theorem slice_eq_cons (found : text.chars[position]? = some c) (inside : position < stop) :
    text.slice position stop = c :: text.slice (position + 1) stop := by
  obtain ⟨bound, rfl⟩ := Array.getElem?_eq_some_iff.mp found
  have size : position < text.chars.toList.length := by rw [Array.length_toList]; exact bound
  have more : stop - position = (stop - (position + 1)) + 1 := by omega
  rw [slice, slice, Array.toList_extract, Array.toList_extract, List.extract_eq_take_drop,
    List.extract_eq_take_drop, List.drop_eq_getElem_cons size, more, List.take_succ_cons]
  rfl

/-- A shorter slice is the front of a longer one. -/
theorem slice_eq_take {count : Nat} (enough : count ≤ (text.slice position stop).length) :
    text.slice position (position + count) = (text.slice position stop).take count := by
  simp only [slice, Array.toList_extract, List.extract_eq_take_drop, List.length_take] at enough ⊢
  rw [Nat.add_sub_cancel_left, List.take_take, Nat.min_eq_left (by omega)]

/-- Slices that follow each other are one. -/
theorem slice_append (text : RunningText) {next : Nat} (further : position ≤ next) :
    text.slice 0 position ++ text.slice position next = text.slice 0 next := by
  have whole : next - 0 = position - 0 + (next - position) := by omega
  simp only [slice, Array.toList_extract, List.extract_eq_take_drop, List.drop_zero]
  rw [whole, List.take_add, Nat.sub_zero]

/-- What stands from a position on starts with the character there. -/
theorem fromPosition_eq_cons (found : text.chars[position]? = some c) :
    text.fromPosition position = c :: text.fromPosition (position + 1) :=
  slice_eq_cons found (Array.getElem?_eq_some_iff.mp found).1

end RunningText

namespace Construct

/-! ## Searching -/

section Finds

variable {α β : Type} {condition : α → Prop} {result : β → Prop}

/-- Each remembered step goes on. -/
def Forward (steps : Steps) : Prop :=
  ∀ position next : Nat, steps[position]? = some (some next) → position < next

/-- A search gives what satisfies a condition, and remembers steps that go on. -/
def Finds (condition : α → Prop) (search : Search α) : Prop :=
  ∀ steps, Forward steps → condition (search steps).1 ∧ Forward (search steps).2

/-- Searching nothing gives a value. -/
theorem finds_pure {value : α} (holds : condition value) :
    Finds condition (pure value : Search α) := fun _ forward => ⟨holds, forward⟩

/-- Nothing that is found satisfies any condition. -/
theorem finds_none {condition : α → Prop} :
    Finds (∀ found ∈ ·, condition found) (pure none : Search (Option α)) :=
  finds_pure fun found isFound => absurd isFound (Option.not_mem_none found)

/-- Searching on from what was given. -/
theorem Finds.bind {first : Search α} {next : α → Search β} (start : Finds condition first)
    (later : ∀ value, condition value → Finds result (next value)) :
    Finds result (first >>= next) := fun steps forward =>
  later (first steps).1 (start steps forward).1 (first steps).2 (start steps forward).2

/-- A weaker condition. -/
theorem Finds.mono {weaker : α → Prop} {search : Search α} (finds : Finds condition search)
    (implies : ∀ value, condition value → weaker value) : Finds weaker search :=
  fun steps forward => ⟨implies _ (finds steps forward).1, (finds steps forward).2⟩

/-- The steps that are remembered go on. -/
theorem finds_get : Finds Forward (get : Search Steps) := fun _ forward => ⟨forward, forward⟩

/-- No step is remembered at the start. -/
theorem forward_replicate (size : Nat) : Forward (Array.replicate size none) := by
  intro position next found
  rw [Array.getElem?_replicate] at found
  split at found <;> cases found

/-- One more step that goes on is remembered. -/
theorem finds_remember {position next : Nat} (further : position < next) :
    Finds (position < ·) (do
      modify fun steps : Steps => steps.setIfInBounds position (some next)
      pure next : Search Nat) := by
  intro steps forward
  refine ⟨further, fun other step found => ?_⟩
  have replaced : (steps.setIfInBounds position (some next))[other]? = some (some step) := found
  rw [Array.getElem?_setIfInBounds] at replaced
  split at replaced
  · rename_i same
    split at replaced
    · obtain rfl := Option.some.inj (Option.some.inj replaced)
      exact same ▸ further
    · cases replaced
  · exact forward other step replaced

end Finds

variable {text : RunningText} {stop position : Nat} {skip : Nat → Search Nat}

/-- Steps within a text go on. -/
def Advances (stop : Nat) (skip : Nat → Search Nat) : Prop :=
  ∀ position, position < stop → Finds (position < ·) (skip position)

/-! ## Labels -/

/-- A label ends no earlier than the search for its end starts. -/
theorem finds_labelStopFrom? (advances : Advances stop skip) (allowLinks : Bool)
    (count depth position : Nat) :
    Finds (∀ found ∈ ·, position ≤ found)
      (labelStopFrom? text stop allowLinks skip count depth position) := by
  induction count generalizing depth position with
  | zero => exact finds_none
  | succ count hypothesis =>
    rw [labelStopFrom?]
    split
    · exact finds_none
    dsimp only
    split
    · refine finds_pure fun found isFound => ?_
      exact Nat.le_of_eq (Option.some.inj isFound)
    have later (depth next : Nat) (further : position < next) :
        Finds (∀ found ∈ ·, position ≤ found)
          (labelStopFrom? text stop allowLinks skip count depth next) :=
      (hypothesis depth next).mono fun value behind found isFound =>
        Nat.le_trans (Nat.le_of_lt further) (behind found isFound)
    refine (advances position (by omega)).bind fun next further => ?_
    split
    · split
      · exact later _ next further
      split
      · exact later _ next further
      · exact finds_none
    · exact later _ next further

/-- A label ends behind its opening bracket. -/
theorem finds_labelStop? (advances : Advances stop skip) (allowLinks : Bool) (position : Nat) :
    Finds (∀ found ∈ ·, position < found) (labelStop? text stop allowLinks skip position) :=
  finds_labelStopFrom? advances allowLinks _ 1 (position + 1)

/-- What a label refers to is found behind the label. -/
theorem finds_labelled? (advances : Advances stop skip) {labelStop : Nat} (start : Nat)
    (behind : labelStop < position) :
    Finds (∀ found ∈ ·, labelStop < found.2)
      (labelled? text stop skip start labelStop position) := by
  have finish (label : List Char) (next : Nat) (further : labelStop < next) :
      Finds (∀ found ∈ ·, labelStop < found.2)
        (pure ((text.references.find? label).map fun reference => (reference, next)) :
          Search (Option (Reference × Nat))) := by
    refine finds_pure fun named isFound => ?_
    obtain ⟨reference, -, rfl⟩ := Option.map_eq_some_iff.mp isFound
    exact further
  rw [labelled?]
  split
  · exact finds_none
  dsimp only
  split
  · refine (finds_labelStop? advances true position).bind fun found further => finish _ _ ?_
    cases found with
    | some labelEnd => exact Nat.lt_succ_of_lt (Nat.lt_trans behind (further _ rfl))
    | none => exact Nat.lt_succ_self labelStop
  · exact finish _ _ (Nat.lt_succ_self labelStop)

/-! ## Kinds of constructs -/

/-- What a construct at a position needs: it ends behind the position, and what it stands for as a
literal is written there. -/
structure Stands (text : RunningText) (position : Nat) (found : Construct × Nat) : Prop where
  /-- The construct is not empty. -/
  further : position < found.2
  /-- A literal is written. -/
  written : ∀ content, found.1 = .literal content →
    LiteralAs content (text.slice position found.2)

/-- A construct that is no literal need only end behind its position. -/
theorem Stands.of_further {construct : Construct} {next : Nat}
    (noLiteral : ∀ content, construct ≠ .literal content) (further : position < next) :
    Stands text position (construct, next) :=
  ⟨further, fun content same => absurd same (noLiteral content)⟩

/-- A construct that stands at its position is found there. -/
theorem finds_some {construct : Construct} {next : Nat}
    (stands : Stands text position (construct, next)) :
    Finds (∀ found ∈ ·, Stands text position found)
      (pure (some (construct, next)) : Search (Option (Construct × Nat))) := by
  refine finds_pure fun found isFound => ?_
  obtain rfl := Option.some.inj isFound
  exact stands

/-- A construct that is made of what a label refers to stands before the label. -/
theorem finds_made {construct : Reference → Construct}
    {search : Search (Option (Reference × Nat))}
    (finds : Finds (∀ found ∈ ·, labelStop < found.2) search) (behind : position < labelStop)
    (noLiteral : ∀ reference content, construct reference ≠ .literal content) :
    Finds (∀ found ∈ ·, Stands text position found)
      (search >>= fun found => pure (found.map fun named => (construct named.1, named.2)) :
        Search (Option (Construct × Nat))) := by
  refine finds.bind fun found further => finds_pure fun made isMade => ?_
  obtain ⟨⟨reference, next⟩, isFound, rfl⟩ := Option.map_eq_some_iff.mp isMade
  exact .of_further (noLiteral reference) (Nat.lt_trans behind (further _ isFound))

/-- A link stands at its opening bracket. -/
theorem finds_link? (advances : Advances stop skip) (position : Nat) :
    Finds (∀ found ∈ ·, Stands text position found) (link? text stop skip position) := by
  rw [link?]
  refine (finds_labelStop? advances false position).bind fun found behind => ?_
  split
  · rename_i labelStop
    have inside := behind labelStop rfl
    split
    · exact finds_none
    · refine finds_some (.of_further nofun ?_)
      omega
    · exact finds_made (finds_labelled? advances _ (by omega)) inside nofun
  · exact finds_none

/-- A picture stands at its exclamation mark. -/
theorem finds_image? (advances : Advances stop skip) (position : Nat) :
    Finds (∀ found ∈ ·, Stands text position found) (image? text stop skip position) := by
  rw [image?]
  split
  · exact finds_none
  refine (finds_labelStop? advances true (position + 1)).bind fun found behind => ?_
  split
  · rename_i labelStop
    have inside := behind labelStop rfl
    split
    · exact finds_none
    · refine finds_some (.of_further nofun ?_)
      omega
    · split
      · exact finds_none
      exact finds_made (finds_labelled? advances _ (Nat.lt_succ_self labelStop))
        (Nat.lt_of_succ_lt inside) nofun
  · exact finds_none

/-- A footnote stands at its circumflex. -/
theorem finds_note? (advances : Advances stop skip) (position : Nat) :
    Finds (∀ found ∈ ·, Stands text position found) (note? text stop skip position) := by
  rw [note?]
  split
  · exact finds_none
  refine (finds_labelStop? advances true (position + 1)).bind fun found behind => ?_
  refine finds_pure fun note isNote => ?_
  obtain ⟨labelStop, isFound, rfl⟩ := Option.map_eq_some_iff.mp isNote
  exact .of_further nofun (Nat.lt_succ_of_lt (Nat.lt_of_succ_lt (behind labelStop isFound)))

/-- A reference to a footnote stands at its opening bracket. -/
theorem stands_of_noteMark? {found : Construct × Nat}
    (isFound : noteMark? text stop position = some found) : Stands text position found := by
  rw [noteMark?] at isFound
  split at isFound
  · split at isFound
    · obtain rfl := Option.some.inj isFound
      refine .of_further nofun ?_
      omega
    · cases isFound
  · cases isFound

/-- An escape stands at its backslash. -/
theorem stands_of_escape? {construct : Construct} {size : Nat}
    (slash : text.chars[position]? = some '\\') (inside : position < stop)
    (isFound : escape? (text.slice position stop) = some (construct, size)) :
    Stands text position (construct, position + size) := by
  have starts := RunningText.slice_eq_cons slash inside
  rw [escape?, starts, List.drop_succ_cons, List.drop_zero] at isFound
  split at isFound
  · cases isFound
  · obtain ⟨rfl, rfl⟩ := Prod.mk.inj (Option.some.inj isFound)
    refine .of_further nofun ?_
    omega
  · rename_i c rest _ behind
    obtain ⟨rfl, rfl⟩ := Prod.mk.inj (Option.some.inj isFound)
    refine ⟨Nat.lt_add_of_pos_right Nat.zero_lt_two, fun content same => ?_⟩
    obtain rfl := Construct.literal.inj same
    have enough : 2 ≤ (text.slice position stop).length := by
      rw [starts, behind]
      exact Nat.le_add_left 2 _
    have written : text.slice position (position + 2) = ['\\', c] := by
      rw [RunningText.slice_eq_take enough, starts, behind]
      rfl
    rw [written]
    split
    · exact .escape ‹_›
    · exact .slash (Bool.eq_false_iff.mpr ‹_›)

/-- A code span, or its back ticks, stand at the first back tick. -/
theorem stands_codeAt (tick : text.chars[position]? = some '\x60') :
    Stands text position ((codeAt (text.fromPosition position)).1,
      position + (codeAt (text.fromPosition position)).2) := by
  have run : 0 < ((text.fromPosition position).takeWhile (· == '\x60')).length := by
    rw [RunningText.fromPosition_eq_cons tick, List.takeWhile_cons_of_pos (by decide)]
    exact Nat.succ_pos _
  rw [codeAt]
  split
  · refine .of_further nofun ?_
    omega
  · exact .of_further nofun (Nat.lt_add_of_pos_right run)

/-- A link between angle brackets stands at the first bracket. -/
theorem stands_of_autoLink? {rest : List Char} {construct : Construct} {size : Nat}
    (isFound : autoLink? rest = some (construct, size)) :
    Stands text position (construct, position + size) := by
  rw [autoLink?] at isFound
  dsimp only at isFound
  split at isFound
  · cases isFound
  split at isFound
  · cases isFound
  split at isFound
  · obtain ⟨rfl, rfl⟩ := Prod.mk.inj (Option.some.inj isFound)
    exact .of_further nofun (Nat.lt_add_of_pos_right (Nat.succ_pos _))
  · cases isFound

/-- A character reference stands at its ampersand. -/
theorem stands_of_atFront? {content : List Char} {size : Nat}
    (isFound : Entity.atFront? (text.fromPosition position) = some (content, size)) :
    Stands text position (.literal content, position + size) := by
  obtain ⟨length, alone⟩ := Entity.atFront?_take isFound
  obtain ⟨body, -, -, rfl⟩ := Entity.atFront?_eq_some_iff.mp isFound
  refine ⟨Nat.lt_add_of_pos_right (Nat.succ_pos _), fun content' same => ?_⟩
  obtain rfl := Construct.literal.inj same
  have enough : body.length + 2 ≤ (text.slice position text.chars.size).length := by
    rw [List.length_take] at length
    show body.length + 2 ≤ (text.fromPosition position).length
    omega
  have written : text.slice position (position + (body.length + 2)) =
      (text.fromPosition position).take (body.length + 2) := RunningText.slice_eq_take enough
  rw [written]
  refine .reference ?_
  rw [length]
  exact alone

/-- Characters that stand for themselves end no earlier than they start. -/
theorem le_plainStop (text : RunningText) (count position : Nat) :
    position ≤ plainStop text count position := by
  induction count generalizing position with
  | zero => exact Nat.le_refl position
  | succ count hypothesis =>
    rw [plainStop]
    split
    · exact Nat.le_refl position
    · exact Nat.le_of_succ_le (hypothesis (position + 1))

/-- Characters that stand for themselves end behind the first of them. -/
theorem lt_plainStop {c : Char} (isChar : text.chars[position]? = some c)
    (plain : isSpecial c = false) (inside : position < stop) :
    position < plainStop text (stop - position) position := by
  have more : stop - position = (stop - position - 1) + 1 := by omega
  rw [more, plainStop, isChar, Option.any_some, plain, if_neg Bool.false_ne_true]
  exact le_plainStop text _ (position + 1)

/-! ## Constructs -/

/-- A construct that is told with its size stands at the position. -/
theorem finds_shifted {found : Option (Construct × Nat)}
    (stands : ∀ construct size, found = some (construct, size) →
      Stands text position (construct, position + size)) :
    Finds (∀ found ∈ ·, Stands text position found)
      (pure (found.map fun sized => (sized.1, position + sized.2)) :
        Search (Option (Construct × Nat))) := by
  refine finds_pure fun whole isWhole => ?_
  obtain ⟨⟨construct, size⟩, isFound, rfl⟩ := Option.map_eq_some_iff.mp isWhole
  exact stands construct size isFound

/-- The construct at a position stands there. -/
theorem finds_at? (advances : Advances stop skip) (inside : position < stop) :
    Finds (∀ found ∈ ·, Stands text position found) (at? text stop skip position) := by
  rw [at?]
  dsimp only
  split
  · exact finds_none
  · refine finds_some (.of_further nofun ?_)
    omega
  · rename_i slash
    exact finds_shifted fun construct size isFound => stands_of_escape? slash inside isFound
  · rename_i tick
    exact finds_some (stands_codeAt tick)
  · refine (finds_link? advances position).bind fun found stands => ?_
    split
    · exact finds_pure stands
    · exact finds_pure fun found isFound => stands_of_noteMark? isFound
  · exact finds_image? advances position
  · exact finds_note? advances position
  · split
    · rename_i found isFound
      refine finds_shifted fun construct size same => ?_
      rw [same] at isFound
      exact stands_of_autoLink? isFound
    split
    · exact finds_none
    · refine finds_shifted fun construct size isTag => ?_
      obtain ⟨size', isFound, same⟩ := Option.map_eq_some_iff.mp isTag
      obtain ⟨rfl, rfl⟩ := Prod.mk.inj same
      exact .of_further nofun (Nat.lt_add_of_pos_right (HtmlTag.inlineSize?_pos isFound))
  · split
    · exact finds_none
    · refine finds_shifted fun construct size isReference => ?_
      obtain ⟨⟨content, size'⟩, isFound, same⟩ := Option.map_eq_some_iff.mp isReference
      obtain ⟨rfl, rfl⟩ := Prod.mk.inj same
      exact stands_of_atFront? isFound
  · rename_i c _ _ _ _ _ _ _ _ isChar
    split
    · exact finds_none
    · rename_i plain
      have further := lt_plainStop isChar (Bool.eq_false_iff.mpr plain) inside
      exact finds_some (.of_further nofun further)

/-- Steps go on at any depth. -/
theorem advances_skipWithin (text : RunningText) (stop depth : Nat) :
    Advances stop (skipWithin text stop depth) := by
  induction depth with
  | zero =>
    intro position inside
    rw [skipWithin]
    refine finds_get.bind fun steps forward => ?_
    split
    · rename_i next isNext
      exact finds_pure (forward position next (Option.join_eq_some_iff.mp isNext))
    · exact finds_remember (Nat.lt_succ_of_lt inside)
  | succ depth hypothesis =>
    intro position inside
    rw [skipWithin]
    refine finds_get.bind fun steps forward => ?_
    split
    · rename_i next isNext
      exact finds_pure (forward position next (Option.join_eq_some_iff.mp isNext))
    · refine (finds_at? hypothesis inside).bind fun found stands => ?_
      refine finds_remember ?_
      split
      · exact (stands _ rfl).further
      · exact Nat.lt_succ_self position

end Construct

end FoldMark.Markdown
