import FoldMark.Proofs.Markdown.Writing

/-!
# The source of a block of attributes

Where a text ends in a block, so does a source that spells it, part by part (`exists_parts`). But
the block is looked for in the source on its own, in characters that are written as such: what is
cut off is the source of the block exactly if its blanks and its opening brace are written as such
and its closing brace is at most escaped (`dropBlock_eq_iff`).
-/

namespace FoldMark.Markdown

open Text HeadingAttributes

variable {text source first second : List Char} {c : Char}

/-! ## Texts that are spelled -/

namespace Spells

/-- Nothing is spelled by nothing. -/
theorem eq_nil (spells : Spells [] source) : source = [] := by
  generalize empty : ([] : List Char) = text at spells
  cases spells with
  | nil => rfl
  | character => cases empty
  | escape => cases empty
  | reference stands _ =>
    have some := Entity.isCharacterOrPair_of_atFront? stands
    obtain ⟨none, -⟩ := List.append_eq_nil_iff.mp empty.symm
    rw [none] at some
    cases some

/-- Where no brace is spelled, none stands. -/
theorem free (spells : Spells text source) (free : ∀ c ∈ text, isBrace c = false) :
    ∀ c ∈ source, isBrace c = false := by
  induction spells with
  | nil => exact nofun
  | character c _ hypothesis =>
    rw [List.forall_mem_cons] at free ⊢
    exact ⟨free.1, hypothesis free.2⟩
  | escape escapable _ hypothesis =>
    rw [List.forall_mem_cons] at free
    exact List.forall_mem_cons.mpr ⟨by decide, List.forall_mem_cons.mpr ⟨free.1, hypothesis free.2⟩⟩
  | reference stands _ hypothesis =>
    rw [List.forall_mem_append] at free
    refine List.forall_mem_append.mpr ⟨fun c member => ?_, hypothesis free.2⟩
    obtain ⟨opens, closes⟩ := Entity.ne_brace_of_atFront? stands c member
    simp [isBrace, opens, closes]

/-- Texts may be spelled apart: a brace stands on one side of the border, or a blank on just one. -/
def Borders (first second : List Char) : Prop :=
  ∀ c ∈ first.getLast?, ∀ d ∈ second.head?,
    isBrace c = true ∨ isBrace d = true ∨ isBlank c ≠ isBlank d

/-- A border is told by what stands beside it. -/
theorem Borders.tail (borders : Borders (c :: first) second) : Borders first second := by
  intro last isLast next isNext
  cases first with
  | nil => cases isLast
  | cons d first =>
    refine borders last ?_ next isNext
    rw [List.getLast?_cons_cons]
    exact isLast

/-- Where texts may be spelled apart, they are: a pair that is written as one reference has no
border inside. -/
theorem split (spells : Spells (first ++ second) source) (borders : Borders first second) :
    ∃ front back, source = front ++ back ∧ Spells first front ∧ Spells second back := by
  generalize whole : first ++ second = text at spells
  induction spells generalizing first with
  | nil =>
    obtain ⟨rfl, rfl⟩ := List.append_eq_nil_iff.mp whole
    exact ⟨[], [], rfl, .nil, .nil⟩
  | @character c text source rest hypothesis =>
    cases first with
    | nil =>
      rw [List.nil_append] at whole
      exact ⟨[], _, rfl, .nil, by rw [whole]; exact rest.character c⟩
    | cons d first =>
      obtain ⟨rfl, later⟩ := List.cons.inj whole
      obtain ⟨front, back, rfl, before, behind⟩ := hypothesis borders.tail later
      exact ⟨d :: front, back, rfl, before.character d, behind⟩
  | @escape c text source escapable rest hypothesis =>
    cases first with
    | nil =>
      rw [List.nil_append] at whole
      exact ⟨[], _, rfl, .nil, by rw [whole]; exact rest.escape escapable⟩
    | cons d first =>
      obtain ⟨rfl, later⟩ := List.cons.inj whole
      obtain ⟨front, back, rfl, before, behind⟩ := hypothesis borders.tail later
      exact ⟨'\\' :: d :: front, back, rfl, before.escape escapable, behind⟩
  | @reference meaning written text source stands rest hypothesis =>
    have kind := Entity.isCharacterOrPair_of_atFront? stands
    cases first with
    | nil =>
      rw [List.nil_append] at whole
      exact ⟨[], _, rfl, .nil, by rw [whole]; exact rest.reference stands⟩
    | cons d first =>
      cases kind with
      | character c =>
        obtain ⟨rfl, later⟩ := List.cons.inj whole
        obtain ⟨front, back, rfl, before, behind⟩ := hypothesis borders.tail later
        exact ⟨written ++ front, back, (List.append_assoc ..).symm, before.reference stands, behind⟩
      | @pair a b free alike =>
        obtain ⟨rfl, later⟩ := List.cons.inj whole
        cases first with
        | nil =>
          obtain rfl : second = b :: text := later
          have apart := borders d rfl b rfl
          simp [isBrace, free, alike] at apart
        | cons e first =>
          obtain ⟨rfl, last⟩ := List.cons.inj later
          obtain ⟨front, back, rfl, before, behind⟩ := hypothesis borders.tail.tail last
          exact ⟨written ++ front, back, (List.append_assoc ..).symm, before.reference stands,
            behind⟩

/-- A character is spelled as such, as an escape, or as a reference without braces. -/
theorem singleton_cases (spells : Spells [c] source) :
    source = [c] ∨ source = ['\\', c] ∨
      (∀ d ∈ source, isBrace d = false) ∧ ∃ d ∈ source, isBlank d = false := by
  generalize one : [c] = text at spells
  cases spells with
  | nil => cases one
  | character d rest =>
    obtain ⟨rfl, rfl⟩ := List.cons.inj one
    rw [rest.eq_nil]
    exact Or.inl rfl
  | escape _ rest =>
    obtain ⟨rfl, rfl⟩ := List.cons.inj one
    rw [rest.eq_nil]
    exact Or.inr (Or.inl rfl)
  | @reference meaning written text source stands rest =>
    have none : text = [] := by
      cases Entity.isCharacterOrPair_of_atFront? stands with
      | character d => exact (List.cons.inj one).2.symm
      | pair => cases one
    rw [none] at rest
    rw [rest.eq_nil, List.append_nil]
    refine Or.inr (Or.inr ⟨fun d member => ?_, ?_⟩)
    · obtain ⟨opens, closes⟩ := Entity.ne_brace_of_atFront? stands d member
      simp [isBrace, opens, closes]
    · obtain ⟨body, rfl, -⟩ := Entity.exists_body stands
      exact ⟨'&', List.mem_cons_self, by decide⟩

end Spells

/-! ## Blocks in a source -/

/-- A source that is cut where a block of attributes stands at its end. -/
structure BlockSource where
  /-- What stands before the block. -/
  kept : List Char
  /-- The blanks before the block. -/
  gap : List Char
  /-- The opening brace. -/
  opening : List Char
  /-- What stands between the braces. -/
  spec : List Char
  /-- The closing brace. -/
  closing : List Char
  /-- The blanks behind the block. -/
  rest : List Char

namespace BlockSource

variable {parts : BlockSource} {front before gap spec rest : List Char}

/-- The source as a whole. -/
def whole (parts : BlockSource) : List Char :=
  parts.kept ++ (parts.gap ++ (parts.opening ++ (parts.spec ++ (parts.closing ++ parts.rest))))

/-- Behind a front, a source spells a text that ends in a block. -/
structure SpellsBlock (parts : BlockSource) (front before gap spec rest : List Char) : Prop where
  /-- What stands before the block. -/
  before : ∃ written, parts.kept = front ++ written ∧ Spells before written
  /-- The blanks before the block. -/
  gap : Spells gap parts.gap
  /-- The opening brace. -/
  opening : Spells ['\x7b'] parts.opening
  /-- What stands between the braces. -/
  spec : Spells spec parts.spec
  /-- The closing brace. -/
  closing : Spells ['\x7d'] parts.closing
  /-- The blanks behind the block. -/
  rest : Spells rest parts.rest

/-- The block is seen in the source: blanks and the opening brace are written as such, and the
closing brace is at most escaped. -/
structure IsPlain (parts : BlockSource) : Prop where
  /-- The blanks before the block. -/
  gap : ∀ c ∈ parts.gap, isBlank c = true
  /-- The opening brace. -/
  opening : parts.opening = ['\x7b']
  /-- The closing brace. -/
  closing : parts.closing = ['\x7d'] ∨ parts.closing = ['\\', '\x7d']
  /-- The blanks behind the block. -/
  rest : ∀ c ∈ parts.rest, isBlank c = true

/-- What spells a text that ends in a block is cut like the text. -/
theorem exists_parts (ends : EndsInBlock text before gap spec rest) (spells : Spells text source)
    (front : List Char) :
    ∃ parts : BlockSource, front ++ source = parts.whole ∧
      parts.SpellsBlock front before gap spec rest := by
  obtain ⟨rfl, solid, gapBlank, -, -⟩ := ends
  have beforeGap : Spells.Borders before (gap ++ '\x7b' :: (spec ++ '\x7d' :: rest)) := by
    intro c isLast d isNext
    cases gap with
    | nil =>
      obtain rfl := Option.some.inj isNext
      exact Or.inr (Or.inl rfl)
    | cons e gap =>
      obtain rfl := Option.some.inj isNext
      refine Or.inr (Or.inr ?_)
      rw [solid c isLast, gapBlank e List.mem_cons_self]
      decide
  have beforeBrace {first behind : List Char} {brace : Char} (isBrace : isBrace brace = true) :
      Spells.Borders first (brace :: behind) := by
    intro c _ d isNext
    obtain rfl := Option.some.inj isNext
    exact Or.inr (Or.inl isBrace)
  have behindBrace {behind : List Char} {brace : Char} (isBrace : isBrace brace = true) :
      Spells.Borders [brace] behind := by
    intro c isLast d _
    obtain rfl := Option.some.inj isLast
    exact Or.inl isBrace
  obtain ⟨kept, source, rfl, spellsBefore, spells⟩ := spells.split beforeGap
  obtain ⟨gap', source, rfl, spellsGap, spells⟩ := spells.split (beforeBrace rfl)
  have fromOpening : Spells (['\x7b'] ++ (spec ++ '\x7d' :: rest)) source := spells
  obtain ⟨opening, source, rfl, spellsOpening, spells⟩ := fromOpening.split (behindBrace rfl)
  obtain ⟨spec', source, rfl, spellsSpec, spells⟩ := spells.split (beforeBrace rfl)
  have fromClosing : Spells (['\x7d'] ++ rest) source := spells
  obtain ⟨closing, rest', rfl, spellsClosing, spellsRest⟩ := fromClosing.split (behindBrace rfl)
  exact ⟨⟨front ++ kept, gap', opening, spec', closing, rest'⟩, by simp [whole],
    ⟨kept, rfl, spellsBefore⟩, spellsGap, spellsOpening, spellsSpec, spellsClosing,
    spellsRest⟩

/-- A block that is seen in the source is cut off, with the blanks beside it. -/
theorem dropBlock_of_isPlain (plain : parts.IsPlain)
    (free : ∀ c ∈ parts.spec, isBrace c = false) :
    dropBlock parts.whole = trimRight parts.kept := by
  obtain ⟨front, tail, cut, blank, stops⟩ := exists_end isBlank parts.kept
  have trimmed : trimRight parts.kept = front := by
    rw [cut, trimRight, dropTrailing_append blank]
    exact trimRight_of_stops stops
  obtain ⟨slash, closes, isSlash⟩ : ∃ slash, parts.closing = slash ++ ['\x7d'] ∧
      ∀ c ∈ slash, isBrace c = false := by
    rcases plain.closing with closes | closes
    · exact ⟨[], closes, List.forall_mem_nil _⟩
    · exact ⟨['\\'], closes, List.forall_mem_singleton.mpr rfl⟩
  have ends : EndsInBlock parts.whole front (tail ++ parts.gap) (parts.spec ++ slash)
      parts.rest := by
    refine ⟨?_, stops, List.forall_mem_append.mpr ⟨blank, plain.gap⟩,
      List.forall_mem_append.mpr ⟨free, isSlash⟩, plain.rest⟩
    rw [whole, cut, plain.opening, closes]
    simp
  rw [trimmed]
  exact ends.dropBlock

/-- There is one last brace. -/
theorem eq_of_last_brace {front other tail last : List Char} {d : Char}
    (same : front ++ c :: tail = other ++ d :: last) (here : isBrace c = true)
    (free : ∀ c ∈ tail, isBrace c = false) (there : isBrace d = true)
    (rest : ∀ c ∈ last, isBrace c = false) : front = other :=
  (@eq_of_last (fun c => !isBrace c) _ _ _ _ _ _ same (by simp [here]) (by simpa using free)
    (by simp [there]) (by simpa using rest)).1

/-- Blanks are no braces. -/
theorem isBrace_of_isBlank (blank : isBlank c = true) : isBrace c = false := by
  rw [isBrace, Bool.or_eq_false_iff, beq_eq_false_iff_ne, beq_eq_false_iff_ne]
  constructor <;> (rintro rfl; cases blank)

/-- A brace is spelled with its own character last, behind a backslash or not, or as a reference
without braces; in any case, something is not blank. -/
theorem brace_cases {brace : Char} (spells : Spells [brace] source) :
    (∃ slash, source = slash ++ [brace] ∧ (slash = [] ∨ slash = ['\\'])) ∨
      (∀ d ∈ source, isBrace d = false) ∧ ∃ d ∈ source, isBlank d = false := by
  rcases spells.singleton_cases with rfl | rfl | reference
  · exact Or.inl ⟨[], rfl, Or.inl rfl⟩
  · exact Or.inl ⟨['\\'], rfl, Or.inr rfl⟩
  · exact Or.inr reference

/-- A brace is not spelled in blanks. -/
theorem solid_ne_nil {brace : Char} (isBrace : isBrace brace = true)
    (spells : Spells [brace] source) : solid source ≠ [] := by
  intro blank
  rw [solid_eq_nil_iff] at blank
  rcases brace_cases spells with ⟨slash, rfl, -⟩ | ⟨-, d, member, solid⟩
  · have blankBrace := isBrace_of_isBlank (blank brace (by simp))
    rw [isBrace] at blankBrace
    cases blankBrace
  · rw [blank d member] at solid
    cases solid

/-- The last brace of a source with only blanks behind it is the closing brace that is spelled. -/
theorem exists_closing {front left rest' : List Char} (closing : Spells ['\x7d'] source)
    (free : ∀ c ∈ rest, isBrace c = false) (blank : ∀ c ∈ rest', isBlank c = true)
    (same : front ++ (source ++ rest) = left ++ '\x7d' :: rest') :
    ∃ slash, source = slash ++ ['\x7d'] ∧ (slash = [] ∨ slash = ['\\']) ∧ rest = rest' ∧
      front ++ slash = left := by
  rcases brace_cases closing with ⟨slash, rfl, isSlash⟩ | ⟨noBrace, d, member, solid⟩
  · have apart : front ++ slash ++ '\x7d' :: rest = left ++ '\x7d' :: rest' := by
      rw [← same]
      simp
    have first := eq_of_last_brace apart rfl free rfl fun c member =>
      isBrace_of_isBlank (blank c member)
    rw [first] at apart
    exact ⟨slash, rfl, isSlash, (List.cons.inj (List.append_cancel_left apart)).2, first⟩
  · have absent : '\x7d' ∉ source ++ rest := by
      intro inside
      rcases List.mem_append.mp inside with here | behind
      · cases noBrace _ here
      · cases free _ behind
    obtain ⟨middle, -, rfl⟩ := exists_of_notMem same absent
    have blank := blank d (List.mem_append_right _ (List.mem_append_left _ member))
    rw [solid] at blank
    cases blank

/-- The last brace of a source before which no less stands than before the block is the opening
brace that is spelled. -/
theorem exists_opening {kept between behind left spec' : List Char}
    (opening : Spells ['\x7b'] source) (betweenFree : ∀ c ∈ between, isBrace c = false)
    (behindFree : ∀ c ∈ behind, isBrace c = false) (specFree : ∀ c ∈ spec', isBrace c = false)
    (solids : solid left = solid kept)
    (same : kept ++ (between ++ (source ++ behind)) = left ++ '\x7b' :: spec') :
    ∃ slash, source = slash ++ ['\x7b'] ∧ (slash = [] ∨ slash = ['\\']) ∧
      kept ++ (between ++ slash) = left := by
  rcases brace_cases opening with ⟨slash, rfl, isSlash⟩ | ⟨noBrace, -⟩
  · have apart : kept ++ (between ++ slash) ++ '\x7b' :: behind = left ++ '\x7b' :: spec' := by
      rw [← same]
      simp
    exact ⟨slash, rfl, isSlash, eq_of_last_brace apart rfl behindFree rfl specFree⟩
  · have absent : '\x7b' ∉ between ++ (source ++ behind) := by
      intro inside
      rcases List.mem_append.mp inside with before | inside
      · cases betweenFree _ before
      rcases List.mem_append.mp inside with here | after
      · cases noBrace _ here
      · cases behindFree _ after
    obtain ⟨middle, rfl, -⟩ := exists_of_notMem same absent
    rw [solid_append, List.self_eq_append_right] at solids
    cases solids

/-- What is left has the characters of what stands before the block only if the block is seen. -/
theorem isPlain_of_solid (spells : parts.SpellsBlock front before gap spec rest)
    (ends : EndsInBlock text before gap spec rest)
    (same : solid (dropBlock parts.whole) = solid parts.kept) : parts.IsPlain := by
  have gapFree := spells.gap.free fun c member => isBrace_of_isBlank (ends.gap_blank c member)
  have specFree := spells.spec.free ends.spec_free
  have restFree := spells.rest.free fun c member => isBrace_of_isBlank (ends.rest_blank c member)
  cases found : splitBlock? parts.whole with
  | none =>
    rw [dropBlock, found, whole, solid_append, List.append_right_eq_self, solid_append,
      solid_append] at same
    have blank := (List.append_eq_nil_iff.mp (List.append_eq_nil_iff.mp same).2).1
    exact absurd blank (solid_ne_nil rfl spells.opening)
  | some split =>
    obtain ⟨left, spec'⟩ := split
    obtain ⟨gap', rest', cut⟩ := splitBlock?_eq_some_iff.mp found
    rw [cut.dropBlock] at same
    have whole : parts.kept ++ (parts.gap ++ (parts.opening ++ parts.spec)) ++
        (parts.closing ++ parts.rest) = left ++ gap' ++ '\x7b' :: spec' ++ '\x7d' :: rest' := by
      have both := cut.whole
      rw [BlockSource.whole] at both
      simpa using both
    obtain ⟨slash, closes, isSlash, rfl, fronts⟩ :=
      exists_closing spells.closing restFree cut.rest_blank whole
    have slashFree : ∀ c ∈ parts.spec ++ slash, isBrace c = false := by
      refine List.forall_mem_append.mpr ⟨specFree, ?_⟩
      rcases isSlash with rfl | rfl
      · exact List.forall_mem_nil _
      · exact List.forall_mem_singleton.mpr rfl
    have solids : solid (left ++ gap') = solid parts.kept := by
      rw [solid_append, solid_eq_nil_iff.mpr cut.gap_blank, List.append_nil, same]
    obtain ⟨slash', opens, isSlash', fronts⟩ := exists_opening spells.opening gapFree slashFree
      cut.spec_free solids (by simpa using fronts)
    have kept := congrArg solid fronts
    rw [solid_append, solid_append, solids, List.append_right_eq_self, List.append_eq_nil_iff]
      at kept
    refine ⟨solid_eq_nil_iff.mp kept.1, ?_, ?_, cut.rest_blank⟩
    · rcases isSlash' with rfl | rfl
      · exact opens
      · cases kept.2
    · rcases isSlash with rfl | rfl
      · exact Or.inl closes
      · exact Or.inr closes

/-- What is cut off a source is what spells the block exactly if the block is seen there. -/
theorem dropBlock_eq_iff (spells : parts.SpellsBlock front before gap spec rest)
    (ends : EndsInBlock text before gap spec rest) :
    dropBlock parts.whole = trimRight parts.kept ↔ parts.IsPlain := by
  constructor
  · intro same
    exact isPlain_of_solid spells ends (by rw [same, solid_trimRight])
  · intro plain
    exact dropBlock_of_isPlain plain (spells.spec.free ends.spec_free)

/-- The same holds for what is left when blanks at both ends do not count. -/
theorem trim_dropBlock_eq_iff (spells : parts.SpellsBlock front before gap spec rest)
    (ends : EndsInBlock text before gap spec rest) :
    trim (dropBlock parts.whole) = trim parts.kept ↔ parts.IsPlain := by
  constructor
  · intro same
    exact isPlain_of_solid spells ends (by rw [← solid_trim, same, solid_trim])
  · intro plain
    rw [(dropBlock_eq_iff spells ends).mpr plain, trim_trimRight]

end BlockSource

end FoldMark.Markdown
