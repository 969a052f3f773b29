import FoldMark.Proofs.Chain
import FoldMark.Yaml.Token

/-!
# Progress of a cursor

The readers of texts and tokens only pass characters: what is left after each is an end of what was
left before it. Nothing that a reader sees was not in the text.
-/

namespace FoldMark.Yaml

namespace Cursor

variable {cursor before after : Cursor}

/-- What is left at a cursor is an end of what is left at one before it. -/
def Precedes (before after : Cursor) : Prop := after.rest <:+ before.rest

/-- A cursor precedes itself. -/
theorem Precedes.refl (cursor : Cursor) : Precedes cursor cursor := List.suffix_rfl

/-- A cursor precedes what its successors precede. -/
theorem Precedes.trans {last : Cursor} (first : Precedes before after)
    (second : Precedes after last) : Precedes before last := List.IsSuffix.trans second first

/-- Passing a character leaves an end. -/
theorem precedes_step (cursor : Cursor) : Precedes cursor cursor.step := by
  rw [Precedes, step]
  split
  · exact List.suffix_rfl
  · rename_i c rest whole
    rw [whole]
    exact List.suffix_cons c rest

/-- Passing characters leaves an end. -/
theorem precedes_advance (count : Nat) (cursor : Cursor) :
    Precedes cursor (cursor.advance count) := by
  induction count generalizing cursor with
  | zero => exact Precedes.refl cursor
  | succ count hypothesis => exact (precedes_step cursor).trans (hypothesis cursor.step)

/-- Passing what satisfies a test leaves an end. -/
theorem precedes_span (test : Char → Bool) (cursor : Cursor) :
    Precedes cursor (cursor.span test).2 := precedes_advance _ cursor

/-- Passing spaces leaves an end. -/
theorem precedes_skipSpaces (cursor : Cursor) : Precedes cursor cursor.skipSpaces :=
  precedes_advance _ cursor

/-- Passing the rest of a line leaves an end. -/
theorem precedes_skipLine (cursor : Cursor) : Precedes cursor cursor.skipLine :=
  precedes_advance _ cursor

/-- The next character is among those that are left, unless there are none. -/
theorem mem_rest_of_peek {c : Char} (next : cursor.peek = c) (notNull : c ≠ '\x00') :
    c ∈ cursor.rest := by
  rw [peek, peekAt] at next
  cases whole : cursor.rest with
  | nil =>
    rw [whole] at next
    exact absurd next.symm notNull
  | cons first rest =>
    rw [whole] at next
    exact List.mem_cons.mpr (Or.inl next.symm)

/-- Passing the end of a line leaves an end. -/
theorem precedes_lineBreak (cursor : Cursor) : Precedes cursor cursor.lineBreak.2 := by
  simp only [lineBreak]
  split
  · exact precedes_advance 2 cursor
  · split
    · exact precedes_step cursor
    · split
      · exact precedes_step cursor
      · exact Precedes.refl cursor

/-- Passing a comment leaves an end. -/
theorem precedes_comment (cursor : Cursor) :
    Precedes cursor (if cursor.peek == '#' then cursor.skipLine else cursor) := by
  split
  · exact precedes_skipLine cursor
  · exact Precedes.refl cursor

/-- Completing a line leaves an end. -/
theorem precedes_endOfLine (found : cursor.endOfLine? = some after) : Precedes cursor after := by
  simp only [endOfLine?, Option.ite_none_right_eq_some] at found
  obtain ⟨-, same⟩ := found
  obtain rfl := Option.some.inj same
  exact ((precedes_skipSpaces cursor).trans (precedes_comment _)).trans (precedes_lineBreak _)

end Cursor

open Cursor

variable {cursor after : Cursor}

/-- What a reader gives, if it gives anything, satisfies a condition. -/
def Gives {α : Type} (condition : α → Prop) (found : Option α) : Prop :=
  ∀ value, found = some value → condition value

/-- What a reader leaves, if it gives anything, is an end. -/
abbrev Advances {α : Type} (cursor : Cursor) (found : Option (α × Cursor)) : Prop :=
  Gives (fun found => Precedes cursor found.2) found

section Gives

variable {α β : Type} {condition : α → Prop} {result : β → Prop}

/-- A reader that fails gives nothing. -/
theorem gives_none : Gives condition none := nofun

/-- A reader that succeeds gives one thing. -/
theorem gives_some {value : α} (holds : condition value) : Gives condition (some value) := by
  rintro _ ⟨⟩
  exact holds

/-- A reader that goes on from what another gives. -/
theorem Gives.bind {found : Option α} {next : α → Option β} (first : Gives condition found)
    (later : ∀ value, condition value → Gives result (next value)) :
    Gives result (found >>= next) := by
  intro value whole
  obtain ⟨piece, start, rest⟩ := Option.bind_eq_some_iff.mp whole
  exact later piece (first piece start) value rest

/-- A reader that changes what another gives. -/
theorem Gives.map {found : Option α} {change : α → β} (first : Gives condition found)
    (later : ∀ value, condition value → result (change value)) :
    Gives result (found.map change) := by
  intro value whole
  obtain ⟨piece, start, rfl⟩ := Option.map_eq_some_iff.mp whole
  exact later piece (first piece start)

/-- Completing a line leaves an end. -/
theorem gives_endOfLine (cursor : Cursor) : Gives (Precedes cursor) cursor.endOfLine? :=
  fun _ found => precedes_endOfLine found

/-- A reader from a later cursor leaves an end. -/
theorem Cursor.Precedes.advances {middle : Cursor} {found : Option (α × Cursor)}
    (passed : Precedes cursor middle) (later : Advances middle found) : Advances cursor found :=
  fun value whole => passed.trans (later value whole)

end Gives

/-! ## Texts without quotes -/

namespace PlainText

/-- Blank lines leave an end. -/
theorem precedes_blankLines {fuel : Nat} {chars : List Char}
    (found : blankLines? fuel cursor = some (chars, after)) : Precedes cursor after := by
  induction fuel generalizing cursor chars with
  | zero =>
    cases found
    exact Precedes.refl _
  | succ fuel hypothesis =>
    simp only [blankLines?] at found
    split at found
    · split at found
      · cases found
      · obtain ⟨⟨more, rest⟩, later, same⟩ := Option.map_eq_some_iff.mp found
        cases same
        exact ((precedes_skipSpaces cursor).trans (precedes_lineBreak _)).trans (hypothesis later)
    · cases found
      exact precedes_skipSpaces cursor

/-- Spaces and line ends leave an end. -/
theorem precedes_joint (cursor : Cursor) : Precedes cursor (joint cursor).cursor := by
  have spaces := precedes_span (· == ' ') cursor
  have line := spaces.trans (precedes_lineBreak _)
  simp only [joint]
  split
  · split
    · exact line
    · split
      · exact line
      · rename_i found
        exact line.trans (precedes_blankLines found)
  · exact spaces

/-- A text leaves an end. -/
theorem precedes_readFrom (inFlow : Bool) (indent : Int) (fuel : Nat) (before : List Char)
    (endsLine : Bool) (cursor : Cursor) :
    Precedes cursor (readFrom inFlow indent fuel before endsLine cursor).cursor := by
  induction fuel generalizing before endsLine cursor with
  | zero => exact Precedes.refl cursor
  | succ fuel hypothesis =>
    simp only [readFrom]
    generalize (if cursor.peek == '#' then 0 else wordSize inFlow cursor.rest) = size
    have word := (precedes_advance size cursor).trans (precedes_joint _)
    split
    · exact Precedes.refl cursor
    · split
      · exact word
      · exact word.trans (hypothesis _ _ _)

/-- A text leaves an end. -/
theorem precedes_read (inFlow : Bool) (indent : Int) (cursor : Cursor) :
    Precedes cursor (read inFlow indent cursor).cursor := precedes_readFrom ..

end PlainText

/-! ## Texts between quotes -/

/-- A number that is too great is written in an escape, and so with a backslash. -/
def TextError.Escaped (text : List Char) (error : TextError) : Prop :=
  error = .overflow → '\\' ∈ text

/-- What is not well formed is no number. -/
theorem TextError.escaped_malformed {text : List Char} : Escaped text .malformed := nofun

/-- What a reader leaves is an end, and a number that is too great is written in an escape. -/
abbrev Passes {α : Type} (cursor : Cursor) (outcome : Except TextError (α × Cursor)) : Prop :=
  Ends (TextError.Escaped cursor.rest) (fun found => Precedes cursor found.2) outcome

/-- A reader from a later cursor. -/
theorem Cursor.Precedes.passes {α : Type} {middle : Cursor}
    {outcome : Except TextError (α × Cursor)} (passed : Precedes cursor middle)
    (later : Passes middle outcome) : Passes cursor outcome :=
  (later.mono_error fun _ escaped overflow => passed.subset (escaped overflow)).mono
    fun _ => passed.trans

namespace QuotedText

/-- Blank lines leave an end. -/
theorem passes_blankLines (fuel : Nat) (cursor : Cursor) :
    Passes cursor (blankLines fuel cursor) := by
  induction fuel generalizing cursor with
  | zero => exact Precedes.refl _
  | succ fuel hypothesis =>
    have spaces := precedes_span (fun c => c == ' ' || c == '\t') cursor
    simp only [blankLines]
    split
    · exact TextError.escaped_malformed
    · split
      · exact ((spaces.trans (precedes_lineBreak _)).passes (hypothesis _)).bind
          fun _ later => later
      · exact spaces

/-- Spaces and line ends leave an end. -/
theorem passes_spaces (cursor : Cursor) : Passes cursor (spaces cursor) := by
  have passed := precedes_span (fun c => c == ' ' || c == '\t') cursor
  simp only [spaces]
  split
  · exact TextError.escaped_malformed
  · split
    · exact ((passed.trans (precedes_lineBreak _)).passes (passes_blankLines _ _)).bind
        fun _ later => later
    · exact passed

/-- An escape leaves an end, and only after a backslash it can be too great. -/
theorem passes_escape (backslash : cursor.peek = '\\') : Passes cursor (escape cursor.step) := by
  have passed := precedes_step cursor
  have present : '\\' ∈ cursor.rest := mem_rest_of_peek backslash (by decide)
  have escaped : ∀ error, TextError.Escaped cursor.rest error := fun _ _ => present
  simp only [escape]
  split
  · exact passed.trans (precedes_step _)
  · rename_i size _ _
    split
    · exact ((ends_of_ok fun _ _ => trivial).mono_error fun _ _ => escaped _).map fun _ _ =>
        (passed.trans (precedes_step _)).trans (precedes_advance size _)
    · exact escaped _
  · split
    · exact ((passed.trans (precedes_lineBreak _)).passes (passes_blankLines _ _)).map
        fun _ later => later
    · exact escaped _

/-- A text leaves an end. -/
theorem passes_readFrom (quote : Char) (fuel : Nat) (cursor : Cursor) :
    Passes cursor (readFrom quote fuel cursor) := by
  induction fuel generalizing cursor with
  | zero => exact TextError.escaped_malformed
  | succ fuel hypothesis =>
    have onward : ∀ (piece : CodeText) (middle : Cursor), Precedes cursor middle →
        Passes cursor (readFrom quote fuel middle >>= fun found =>
          return (piece ++ found.1, found.2)) :=
      fun piece middle passed => (passed.passes (hypothesis middle)).bind fun _ later => later
    simp only [readFrom]
    split
    · exact precedes_step cursor
    · split
      · exact onward _ _ (precedes_advance 2 cursor)
      · split
        · rename_i starts
          have backslash := beq_iff_eq.mp (Bool.and_eq_true_iff.mp starts).2
          exact (passes_escape backslash).bind fun found passed => onward found.1 found.2 passed
        · split
          · have gap : Passes cursor
                ((spaces cursor).map fun found => (CodeText.ofChars found.1, found.2)) :=
              (passes_spaces cursor).map fun _ passed => passed
            exact gap.bind fun found passed => onward found.1 found.2 passed
          · exact onward _ _ (precedes_step cursor)

/-- A text leaves an end. -/
theorem passes_read (cursor : Cursor) : Passes cursor (read cursor) :=
  (precedes_step cursor).passes (passes_readFrom cursor.peek _ cursor.step)

end QuotedText

/-! ## Indented texts -/

namespace BlockText

/-- What is said after the mark leaves an end. -/
theorem advances_readHeader (cursor : Cursor) : Advances cursor (readHeader? cursor) := by
  have finish : ∀ (header : Header) (middle : Cursor), Precedes cursor middle →
      Advances cursor (do
        if !isSpaceEnd middle.peek then none
        let after ← middle.endOfLine?
        some (header, after)) := by
    intro header middle passed
    dsimp only
    split
    · exact gives_none
    · refine (gives_endOfLine middle).bind ?_
      intro after line
      exact gives_some (passed.trans line)
  have one := precedes_step cursor
  have two := precedes_advance 2 cursor
  simp only [readHeader?]
  split
  · split <;> exact finish _ _ (by assumption)
  · split
    · split <;> exact finish _ _ (by assumption)
    · exact finish _ _ (Precedes.refl cursor)

/-- Blank lines leave an end. -/
theorem precedes_leadingLines (fuel : Nat) (cursor : Cursor) :
    Precedes cursor (leadingLines fuel cursor).2.2 := by
  induction fuel generalizing cursor with
  | zero => exact Precedes.refl cursor
  | succ fuel hypothesis =>
    simp only [leadingLines]
    split
    · exact ((precedes_skipSpaces cursor).trans (precedes_lineBreak _)).trans (hypothesis _)
    · exact precedes_skipSpaces cursor

/-- Blank lines leave an end. -/
theorem precedes_blankLines (indent fuel : Nat) (cursor : Cursor) :
    Precedes cursor (blankLines indent fuel cursor).2 := by
  induction fuel generalizing cursor with
  | zero => exact Precedes.refl cursor
  | succ fuel hypothesis =>
    have spaces : Precedes cursor (skipIndent indent cursor) := precedes_advance _ cursor
    simp only [blankLines]
    split
    · exact (spaces.trans (precedes_lineBreak _)).trans (hypothesis _)
    · exact spaces

/-- The lines of a text leave an end. -/
theorem precedes_readLines (isFolded : Bool) (chomping : Chomping) (indent fuel : Nat)
    (cursor : Cursor) : Precedes cursor (readLines isFolded chomping indent fuel cursor).2 := by
  induction fuel generalizing cursor with
  | zero => exact Precedes.refl cursor
  | succ fuel hypothesis =>
    have line := (precedes_span (fun c => !isLineEnd c) cursor).trans (precedes_lineBreak _)
    have blanks := fun fuel => line.trans (precedes_blankLines indent fuel _)
    simp only [readLines]
    split
    · dsimp only
      exact (blanks _).trans (hypothesis _)
    · dsimp only
      exact blanks _

/-- A text leaves an end. -/
theorem advances_read (isFolded : Bool) (outer : Int) (cursor : Cursor) :
    Advances cursor (read? isFolded outer cursor) := by
  refine (advances_readHeader cursor).bind ?_
  rintro ⟨header, middle⟩ passed
  refine passed.advances ?_
  have finish : ∀ (blanks : List Char) (indent : Nat) (next : Cursor), Precedes middle next →
      Advances middle (if isLine indent next then
        some (blanks ++ (readLines isFolded header.chomping indent (middle.rest.length + 1) next).1,
          (readLines isFolded header.chomping indent (middle.rest.length + 1) next).2)
      else some (tail header.chomping [] blanks, next)) := by
    intro blanks indent next passed
    split
    · refine gives_some ?_
      dsimp only
      exact passed.trans (precedes_readLines ..)
    · exact gives_some passed
  dsimp only
  cases header.increment with
  | none => exact finish _ _ _ (precedes_leadingLines ..)
  | some increment => exact finish _ _ _ (precedes_blankLines ..)

end BlockText

/-! ## Tokens -/

namespace Token

/-- A location leaves an end. -/
theorem advances_readUriWithin (fuel : Nat) (cursor : Cursor) :
    Advances cursor (readUriWithin? fuel cursor) := by
  induction fuel generalizing cursor with
  | zero => exact gives_some (Precedes.refl cursor)
  | succ fuel hypothesis =>
    simp only [readUriWithin?]
    split
    · have bytes := precedes_advance (percentBytes cursor.rest).2 cursor
      split
      · exact gives_none
      · split
        · exact gives_none
        · exact (hypothesis _).bind fun more later => gives_some (bytes.trans later)
    · split
      · exact (hypothesis _).bind fun more later =>
          gives_some ((precedes_step cursor).trans later)
      · exact gives_some (Precedes.refl cursor)

/-- A location leaves an end. -/
theorem advances_readUri (cursor : Cursor) : Advances cursor (readUri? cursor) := by
  rw [readUri?]
  split
  · exact advances_readUriWithin _ cursor
  · exact gives_none

/-- The handle of a tag leaves an end. -/
theorem advances_readHandle (cursor : Cursor) : Advances cursor (readHandle? cursor) := by
  have name := (precedes_step cursor).trans (precedes_span isNameChar _)
  simp only [readHandle?]
  split
  · exact gives_none
  · split
    · exact gives_some (precedes_step cursor)
    · split
      · exact gives_some (name.trans (precedes_step _))
      · exact gives_none

/-- A tag leaves an end. -/
theorem advances_readTag (cursor : Cursor) : Advances cursor (readTag? cursor) := by
  have finish : ∀ (kind : Kind) (middle : Cursor), Precedes cursor middle →
      Advances cursor (if isSpaceEnd middle.peek then some (kind, middle) else none) := by
    intro kind middle passed
    split
    · exact gives_some passed
    · exact gives_none
  have suffixed : ∀ (handle : List Char) (middle : Cursor), Precedes cursor middle →
      Advances cursor (readUri? middle >>= fun found =>
        if isSpaceEnd found.2.peek then some (Kind.tag (some handle) found.1, found.2)
        else none) :=
    fun handle middle passed => (passed.advances (advances_readUri middle)).bind fun found later =>
      finish _ _ later
  simp only [readTag?]
  split
  · refine ((precedes_advance 2 cursor).advances (advances_readUri _)).bind fun found passed => ?_
    split
    · exact finish _ _ (passed.trans (precedes_step _))
    · exact gives_none
  · split
    · exact finish _ _ (precedes_step cursor)
    · split
      · exact (advances_readHandle cursor).bind fun found passed => suffixed _ _ passed
      · exact suffixed _ _ (precedes_step cursor)

/-- A name leaves an end. -/
theorem advances_readName (cursor : Cursor) : Advances cursor (readName? cursor) := by
  simp only [readName?]
  split
  · exact gives_some ((precedes_step cursor).trans (precedes_span isNameChar _))
  · exact gives_none

/-- A decimal number leaves an end. -/
theorem advances_readNumber (cursor : Cursor) : Advances cursor (readNumber? cursor) := by
  simp only [readNumber?]
  split
  · exact gives_none
  · exact gives_some (precedes_span Char.isDigit cursor)

/-- Whether a token is a tag. -/
def Kind.isTag : Kind → Bool
  | .tag _ _ => true
  | _ => false

/-- A reader gives a token other than a tag, and leaves an end. -/
abbrev AdvancesUntagged (cursor : Cursor) (found : Option (Kind × Cursor)) : Prop :=
  Gives (fun found => found.1.isTag = false ∧ Precedes cursor found.2) found

/-- The version of the language leaves an end. -/
theorem advances_readVersion (cursor : Cursor) :
    AdvancesUntagged cursor (readVersion? cursor) := by
  refine ((precedes_skipSpaces cursor).advances (advances_readNumber _)).bind ?_
  rintro ⟨major, middle⟩ passed
  dsimp only
  split
  · exact gives_none
  · refine ((passed.trans (precedes_step middle)).advances (advances_readNumber _)).bind ?_
    rintro ⟨minor, last⟩ passed
    dsimp only
    split
    · exact gives_some ⟨rfl, passed⟩
    · exact gives_none

/-- What a handle stands for leaves an end. -/
theorem advances_readMeaning (cursor : Cursor) :
    AdvancesUntagged cursor (readMeaning? cursor) := by
  refine ((precedes_skipSpaces cursor).advances (advances_readHandle _)).bind ?_
  rintro ⟨name, middle⟩ passed
  dsimp only
  split
  · exact gives_none
  · refine ((passed.trans (precedes_skipSpaces middle)).advances (advances_readUri _)).bind ?_
    rintro ⟨meaning, last⟩ passed
    dsimp only
    split
    · exact gives_some ⟨rfl, passed⟩
    · exact gives_none

/-- A directive leaves an end. -/
theorem advances_readDirective (cursor : Cursor) :
    AdvancesUntagged cursor (readDirective? cursor) := by
  have name := (precedes_step cursor).trans (precedes_span isNameChar _)
  have finish : ∀ found : Kind × Cursor, found.1.isTag = false ∧ Precedes cursor found.2 →
      AdvancesUntagged cursor (do
        let after ← found.2.endOfLine?
        some (found.1, after)) := by
    intro found passed
    refine (gives_endOfLine found.2).bind ?_
    intro after line
    exact gives_some ⟨passed.1, passed.2.trans line⟩
  have after : ∀ {found : Option (Kind × Cursor)} {middle : Cursor}, Precedes cursor middle →
      AdvancesUntagged middle found → AdvancesUntagged cursor found :=
    fun passed later value whole => ⟨(later value whole).1, passed.trans (later value whole).2⟩
  have unknown : AdvancesUntagged cursor
      (some (.directive, (cursor.step.span isNameChar).2.skipLine)) :=
    gives_some ⟨rfl, name.trans (precedes_skipLine _)⟩
  simp only [readDirective?]
  split
  · exact gives_none
  · split
    · exact (after name (advances_readVersion _)).bind finish
    · split
      · exact (after name (advances_readMeaning _)).bind finish
      · exact unknown.bind finish

end Token

end FoldMark.Yaml
