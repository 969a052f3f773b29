import FoldMark.Proofs.Markdown.AttributeBlock
import FoldMark.Proofs.Markdown.CharacterReference
import FoldMark.Proofs.Markdown.Joining

/-!
# How the end of a content is written

Text is written as such, as escapes or as references (`Spells`). What stands at the end of a content
behind the last piece that is neither text nor an end of struck-out text is written at the end of
the source (`EndsWritten`). This holds for a content that grows with its source, and it is kept
where pieces are replaced by others that are written alike, where something else stands behind them,
and where texts are joined.
-/

namespace FoldMark.Markdown

open Text HeadingAttributes

variable {text source written : List Char} {item other : Inline}
  {items others before between after : List Inline} {place : Nat}

/-- A source spells a text: each character as such or as an escape, or some at once as a
reference. -/
inductive Spells : List Char → List Char → Prop where
  /-- The empty text. -/
  | nil : Spells [] []
  /-- A character as such. -/
  | character (c : Char) {text source : List Char} (rest : Spells text source) :
    Spells (c :: text) (c :: source)
  /-- A character as an escape. -/
  | escape {c : Char} {text source : List Char} (escapable : isEscapable c = true)
    (rest : Spells text source) : Spells (c :: text) ('\\' :: c :: source)
  /-- What a reference stands for. -/
  | reference {meaning written text source : List Char}
    (stands : Entity.atFront? written = some (meaning, written.length))
    (rest : Spells text source) : Spells (meaning ++ text) (written ++ source)

/-- A text spells itself. -/
theorem spells_self (text : List Char) : Spells text text := by
  induction text with
  | nil => exact .nil
  | cons c text hypothesis => exact hypothesis.character c

/-- Texts are spelled one after the other. -/
theorem Spells.append {more behind : List Char} (spells : Spells text source)
    (others : Spells more behind) : Spells (text ++ more) (source ++ behind) := by
  induction spells with
  | nil => exact others
  | character c _ hypothesis => exact hypothesis.character c
  | escape escapable _ hypothesis => exact hypothesis.escape escapable
  | reference stands _ hypothesis =>
    rw [List.append_assoc, List.append_assoc]
    exact hypothesis.reference stands

/-! ## Pieces of content -/

/-- Two tildes, which start and end struck-out text. -/
def tildes : List Char := ['~', '~']

/-- Two tildes are tildes. -/
theorem all_tildes : ∀ c ∈ tildes, c = '~' := by simp [tildes]

/-- Whether it may be told how a piece of content is written: text, and the starts and ends of
struck-out text. -/
def isWritable : Inline → Bool
  | .text _ | .literal _ | .opening .strikethrough | .closing .strikethrough => true
  | _ => false

/-- Whether this may be told of all pieces. -/
def AllWritable (items : List Inline) : Prop := ∀ item ∈ items, isWritable item = true

/-- How text is written that does not stand for itself. -/
inductive LiteralAs : List Char → List Char → Prop where
  /-- As an escape. -/
  | escape {c : Char} (escapable : isEscapable c = true) : LiteralAs [c] ['\\', c]
  /-- Together with a backslash that escapes nothing. -/
  | slash {c : Char} (kept : isEscapable c = false) : LiteralAs ['\\', c] ['\\', c]
  /-- As a reference. -/
  | reference {meaning written : List Char}
    (stands : Entity.atFront? written = some (meaning, written.length)) : LiteralAs meaning written

/-- What is written so spells the text. -/
theorem LiteralAs.spells (literal : LiteralAs text written) : Spells text written := by
  cases literal with
  | escape escapable => exact .escape escapable .nil
  | slash => exact spells_self _
  | reference stands =>
    rw [← List.append_nil text, ← List.append_nil written]
    exact .reference stands .nil

/-- How a piece of content is written. -/
inductive WrittenAs : Inline → List Char → Prop where
  /-- A text as such. -/
  | text (content : List Char) : WrittenAs (.text content) content
  /-- Other text as it is where it was written. -/
  | literal {content written : List Char} (literal : LiteralAs content written) :
    WrittenAs (.literal content) written
  /-- The start of struck-out text. -/
  | opening : WrittenAs (.opening .strikethrough) tildes
  /-- The end of struck-out text. -/
  | closing : WrittenAs (.closing .strikethrough) tildes

/-- How pieces of content are written, one after the other. -/
inductive Writes : List Inline → List Char → Prop where
  /-- No piece. -/
  | nil : Writes [] []
  /-- One more piece in front. -/
  | cons {item : Inline} {items : List Inline} {written source : List Char}
    (first : WrittenAs item written) (rest : Writes items source) :
    Writes (item :: items) (written ++ source)

/-- Text is writable. -/
theorem isWritable_of_isTextual (textual : isTextual item = true) : isWritable item = true := by
  cases item with
  | text | literal => rfl
  | _ => cases textual

/-- All pieces of two contents. -/
theorem allWritable_append :
    AllWritable (items ++ others) ↔ AllWritable items ∧ AllWritable others :=
  List.forall_mem_append

/-- Parts of a content are written one after the other. -/
theorem writes_append_iff : Writes (items ++ others) source ↔
    ∃ front back, source = front ++ back ∧ Writes items front ∧ Writes others back := by
  induction items generalizing source with
  | nil =>
    constructor
    · exact fun writes => ⟨[], source, rfl, .nil, writes⟩
    · rintro ⟨front, back, rfl, none, writes⟩
      cases none
      exact writes
  | cons item items hypothesis =>
    constructor
    · rintro (_ | ⟨first, rest⟩)
      obtain ⟨front, back, rfl, inFront, behind⟩ := hypothesis.mp rest
      exact ⟨_, back, (List.append_assoc ..).symm, .cons first inFront, behind⟩
    · rintro ⟨front, back, rfl, _ | ⟨first, rest⟩, behind⟩
      rw [List.append_assoc]
      exact .cons first (hypothesis.mpr ⟨_, back, rfl, rest, behind⟩)

/-- One piece. -/
theorem writes_singleton_iff : Writes [item] source ↔ WrittenAs item source := by
  constructor
  · rintro (_ | ⟨first, rest⟩)
    cases rest
    rwa [List.append_nil]
  · intro first
    rw [← List.append_nil source]
    exact .cons first .nil

/-- Texts are spelled by what they are written as. -/
theorem Writes.spells (writes : Writes items source)
    (textual : ∀ item ∈ items, isTextual item = true) : Spells (textOf items) source := by
  induction writes with
  | nil => exact .nil
  | cons first _ hypothesis =>
    rw [List.forall_mem_cons] at textual
    have later := hypothesis textual.2
    cases first with
    | text => exact (spells_self _).append later
    | literal literal => exact literal.spells.append later
    | opening => cases textual.1
    | closing => cases textual.1

/-- A text that does not stand for itself is written in one way at the end of a source. -/
theorem LiteralAs.eq_of_append {front front' written' : List Char}
    (literal : LiteralAs text written) (other : LiteralAs text written')
    (same : front ++ written = front' ++ written') : written = written' := by
  have apart {front front' meaning reference : List Char} {c : Char}
      (stands : Entity.atFront? reference = some (meaning, reference.length))
      (same : front ++ ['\\', c] = front' ++ reference) : False := by
    obtain ⟨body, rfl, inside⟩ := Entity.exists_body stands
    have absent : '\\' ∉ '&' :: (body ++ [';']) := by
      simp only [List.mem_cons, List.mem_append, not_or]
      exact ⟨by decide, fun member => (nomatch inside _ member), by decide, List.not_mem_nil⟩
    obtain ⟨middle, -, single⟩ := exists_of_notMem same.symm absent
    have length := congrArg List.length single
    simp only [List.length_append, List.length_cons, List.length_nil] at length
    omega
  cases literal with
  | escape =>
    cases other with
    | escape => rfl
    | reference stands => exact (apart stands same).elim
  | slash =>
    cases other with
    | slash => rfl
    | reference stands => exact (apart stands same).elim
  | reference stands =>
    cases other with
    | escape | slash => exact (apart stands same.symm).elim
    | reference stands' =>
      obtain ⟨body, rfl, inside⟩ := Entity.exists_body stands
      obtain ⟨body', rfl, inside'⟩ := Entity.exists_body stands'
      have free {body : List Char} (inside : ∀ c ∈ body, Entity.isBodyChar c = true) :
          ∀ c ∈ body ++ [';'], (c != '&') = true := by
        refine List.forall_mem_append.mpr
          ⟨fun c member => ?_, List.forall_mem_singleton.mpr (by decide)⟩
        rw [bne_iff_ne]
        rintro rfl
        cases inside _ member
      obtain ⟨rfl, -⟩ := eq_of_last same rfl (free inside) rfl (free inside')
      exact List.append_cancel_left same

/-- Texts are written in one way at the end of a source. -/
theorem Writes.eq_of_append {front front' written' : List Char} (writes : Writes items written)
    (other : Writes items written') (textual : ∀ item ∈ items, isTextual item = true)
    (same : front ++ written = front' ++ written') : written = written' := by
  induction writes generalizing front front' written' with
  | nil =>
    cases other
    rfl
  | cons first rest hypothesis =>
    rw [List.forall_mem_cons] at textual
    obtain _ | ⟨first', rest'⟩ := other
    rw [← List.append_assoc, ← List.append_assoc] at same
    obtain rfl := hypothesis rest' textual.2 same
    have fronts := List.append_cancel_right same
    cases first with
    | text => cases first'; rfl
    | literal literal =>
      obtain _ | literal' := first'
      rw [literal.eq_of_append literal' fronts]
    | opening | closing => cases textual.1

/-- Texts that were written as such are written as their characters. -/
theorem Writes.eq_textOf (writes : Writes items source)
    (all : ∀ item ∈ items, Inline.isText item = true) : source = textOf items := by
  induction writes with
  | nil => rfl
  | cons first _ hypothesis =>
    rw [List.forall_mem_cons] at all
    obtain ⟨chars, rfl⟩ := Inline.exists_of_isText all.1
    cases first
    rw [hypothesis all.2]
    rfl

/-! ## Ends of content -/

/-- What is writable at the end of a content is written at the end of a source. -/
def EndsWritten (items : List Inline) (source : List Char) : Prop :=
  ∀ head tail, items = head ++ tail → AllWritable tail →
    ∃ front back, source = front ++ back ∧ Writes tail back

namespace EndsWritten

/-- Where nothing is at the end, nothing needs to be written. -/
theorem nil (source : List Char) : EndsWritten [] source := by
  intro head tail whole _
  obtain ⟨-, rfl⟩ := List.append_eq_nil_iff.mp whole.symm
  exact ⟨source, [], (List.append_nil source).symm, .nil⟩

/-- The ends of a content are also those of what stands at its end. -/
theorem suffix (ends : EndsWritten (before ++ after) source) : EndsWritten after source := by
  rintro head tail rfl writable
  exact ends (before ++ head) tail (List.append_assoc ..).symm writable

/-- The ends of a content are also those of what stands behind a piece. -/
theorem behind (ends : EndsWritten (before ++ item :: after) source) :
    EndsWritten after source := by
  rw [List.append_cons] at ends
  exact ends.suffix

/-- An empty text is written nowhere. -/
theorem cons_empty (ends : EndsWritten after source) :
    EndsWritten (.text [] :: after) source := by
  intro head tail whole writable
  cases head with
  | nil =>
    obtain rfl : .text [] :: after = tail := whole
    obtain ⟨front, back, rfl, writes⟩ := ends [] after rfl (List.forall_mem_cons.mp writable).2
    exact ⟨front, back, rfl, .cons (.text []) writes⟩
  | cons first head => exact ends head tail (List.cons.inj whole).2 writable

/-- Before something else, nothing needs to be written. -/
theorem append_cons_other (ends : EndsWritten after source) (unwritable : isWritable item = false)
    (before : List Inline) : EndsWritten (before ++ item :: after) source := by
  intro head tail whole writable
  rcases List.append_eq_append_iff.mp whole with ⟨middle, -, apart⟩ | ⟨middle, -, rfl⟩
  · cases middle with
    | nil =>
      rw [List.nil_append] at apart
      have absent := writable item (apart ▸ List.mem_cons_self)
      rw [unwritable] at absent
      cases absent
    | cons first middle => exact ends middle tail (List.cons.inj apart).2 writable
  · have absent := writable item (List.mem_append_right _ List.mem_cons_self)
    rw [unwritable] at absent
    cases absent

/-- Behind something else, nothing needs to be written. -/
theorem concat_other (unwritable : isWritable item = false) (items : List Inline)
    (source : List Char) : EndsWritten (items ++ [item]) source :=
  append_cons_other (nil source) unwritable items

/-- Pieces in a content are exchanged for others that are written alike. -/
theorem exchange {instead : List Inline} (ends : EndsWritten (before ++ (between ++ after)) source)
    (writable : AllWritable between)
    (alike : ∀ written, Writes between written → Writes instead written) :
    EndsWritten (before ++ (instead ++ after)) source := by
  have behind (front : List Inline) (allFront : AllWritable front) (allAfter : AllWritable after)
      (head : List Inline) (whole : before = head ++ front) :
      ∃ start back, source = start ++ back ∧ Writes (front ++ (instead ++ after)) back := by
    have all : AllWritable (front ++ (between ++ after)) :=
      allWritable_append.mpr ⟨allFront, allWritable_append.mpr ⟨writable, allAfter⟩⟩
    obtain ⟨start, back, rfl, writes⟩ := ends head _ (by rw [whole, List.append_assoc]) all
    obtain ⟨first, rest, rfl, inFront, writes⟩ := writes_append_iff.mp writes
    obtain ⟨middle, last, rfl, inMiddle, atEnd⟩ := writes_append_iff.mp writes
    exact ⟨start, _, rfl, writes_append_iff.mpr ⟨first, _, rfl, inFront,
      writes_append_iff.mpr ⟨middle, last, rfl, alike middle inMiddle, atEnd⟩⟩⟩
  intro head tail whole all
  rcases List.append_eq_append_iff.mp whole with ⟨middle, rfl, apart⟩ | ⟨front, rfl, rfl⟩
  · rcases List.append_eq_append_iff.mp apart with ⟨middle', rfl, rfl⟩ | ⟨part, rfl, rfl⟩
    · exact ends (before ++ (between ++ middle')) tail (by simp) all
    · obtain ⟨start, back, rfl, writes⟩ :=
        behind [] nofun (allWritable_append.mp all).2 before (List.append_nil before).symm
      rw [List.nil_append, List.append_assoc] at writes
      obtain ⟨first, rest, rfl, -, writes⟩ := writes_append_iff.mp writes
      exact ⟨start ++ first, rest, (List.append_assoc ..).symm, writes⟩
  · obtain ⟨allFront, all⟩ := allWritable_append.mp all
    exact behind front allFront (allWritable_append.mp all).2 head rfl

/-- A piece that is written is added. -/
theorem concat (ends : EndsWritten items source) (writes : WrittenAs item written) :
    EndsWritten (items ++ [item]) (source ++ written) := by
  intro head tail whole all
  rcases List.append_eq_append_iff.mp whole with ⟨middle, -, apart⟩ | ⟨front, rfl, rfl⟩
  · cases middle with
    | nil =>
      rw [List.nil_append] at apart
      exact ⟨source, written, rfl, apart ▸ writes_singleton_iff.mpr writes⟩
    | cons first middle =>
      obtain ⟨-, none⟩ := List.cons.inj apart
      obtain ⟨-, rfl⟩ := List.append_eq_nil_iff.mp none.symm
      exact ⟨_, [], (List.append_nil _).symm, .nil⟩
  · obtain ⟨start, back, rfl, inFront⟩ := ends head front rfl (allWritable_append.mp all).1
    refine ⟨start, back ++ written, List.append_assoc .., ?_⟩
    exact writes_append_iff.mpr ⟨back, written, rfl, inFront, writes_singleton_iff.mpr writes⟩

/-- The text at the end grows. -/
theorem extend {chars : List Char} (ends : EndsWritten (items ++ [.text chars]) source)
    (more : List Char) : EndsWritten (items ++ [.text (chars ++ more)]) (source ++ more) := by
  have pieces : EndsWritten (items ++ ([.text chars, .text more] ++ [])) (source ++ more) := by
    have added := ends.concat (.text more)
    rwa [List.append_assoc] at added
  show EndsWritten (items ++ ([.text (chars ++ more)] ++ [])) (source ++ more)
  refine pieces.exchange (by simp [AllWritable, isWritable]) ?_
  rintro written (_ | ⟨first, _ | ⟨second, rest⟩⟩)
  cases rest
  cases first
  cases second
  rw [List.append_nil]
  exact writes_singleton_iff.mpr (.text _)

/-! ## Pieces that are replaced -/

/-- A list apart at a place. -/
theorem exists_at (found : items[place]? = some item) :
    ∃ before after, items = before ++ item :: after ∧ before.length = place := by
  obtain ⟨inside, rfl⟩ := List.getElem?_eq_some_iff.mp found
  refine ⟨items.take place, items.drop (place + 1), ?_, ?_⟩
  · rw [← List.drop_eq_getElem_cons inside, List.take_append_drop]
  · rw [List.length_take]
    omega

/-- A piece is replaced by something else. -/
theorem set_other (ends : EndsWritten items source) (unwritable : isWritable item = false)
    (place : Nat) : EndsWritten (items.set place item) source := by
  cases found : items[place]? with
  | none => rwa [List.set_eq_of_length_le (List.getElem?_eq_none_iff.mp found)]
  | some former =>
    obtain ⟨before, after, rfl, rfl⟩ := exists_at found
    rw [List.set_append_right _ _ (Nat.le_refl _), Nat.sub_self, List.set_cons_zero]
    exact ends.behind.append_cons_other unwritable before

/-- A piece is replaced by one that is written alike. -/
theorem set_alike (ends : EndsWritten items source) (found : items[place]? = some other)
    (writable : isWritable other = true)
    (alike : ∀ written, WrittenAs other written → WrittenAs item written) :
    EndsWritten (items.set place item) source := by
  obtain ⟨before, after, rfl, rfl⟩ := exists_at found
  rw [List.set_append_right _ _ (Nat.le_refl _), Nat.sub_self, List.set_cons_zero]
  have apart : EndsWritten (before ++ ([other] ++ after)) source := ends
  show EndsWritten (before ++ ([item] ++ after)) source
  refine apart.exchange (by simpa [AllWritable] using writable) ?_
  intro written writes
  exact writes_singleton_iff.mpr (alike written (writes_singleton_iff.mp writes))

/-- A piece before something else is replaced by any other. -/
theorem set_before (ends : EndsWritten items source) (found : items[place + 1]? = some other)
    (unwritable : isWritable other = false) (item : Inline) :
    EndsWritten (items.set place item) source := by
  obtain ⟨before, after, rfl, length⟩ := exists_at found
  have inside : place < before.length := by omega
  rw [List.set_append_left _ _ inside]
  exact ends.behind.append_cons_other unwritable _

/-- A piece behind something else is replaced by an empty text. -/
theorem set_behind (ends : EndsWritten items source) (found : items[place]? = some other)
    (unwritable : isWritable other = false) :
    EndsWritten (items.set (place + 1) (.text [])) source := by
  obtain ⟨before, after, rfl, rfl⟩ := exists_at found
  have next : before.length + 1 - before.length = 0 + 1 := by omega
  rw [List.set_append_right _ _ (Nat.le_succ _), next, List.set_cons_succ]
  refine append_cons_other ?_ unwritable before
  cases after with
  | nil => exact nil source
  | cons first after =>
    have kept : EndsWritten ([] ++ first :: after) source := ends.behind
    exact kept.behind.cons_empty

end EndsWritten

/-! ## Tildes that change places -/

/-- A piece is written in tildes. -/
def IsTildes (item : Inline) : Prop :=
  isWritable item = true ∧ ∀ written, WrittenAs item written → ∀ c ∈ written, c = '~'

/-- The start of struck-out text is written in tildes. -/
theorem isTildes_opening : IsTildes (.opening .strikethrough) := by
  refine ⟨rfl, fun written writes => ?_⟩
  cases writes
  exact all_tildes

/-- The end of struck-out text is written in tildes. -/
theorem isTildes_closing : IsTildes (.closing .strikethrough) := by
  refine ⟨rfl, fun written writes => ?_⟩
  cases writes
  exact all_tildes

/-- A text of tildes is written in tildes. -/
theorem isTildes_text {chars : List Char} (all : ∀ c ∈ chars, c = '~') :
    IsTildes (.text chars) := by
  refine ⟨rfl, fun written writes => ?_⟩
  cases writes
  exact all

/-- Pieces that are each written in tildes are all written in tildes. -/
theorem Writes.eq_replicate (writes : Writes items source) (all : ∀ item ∈ items, IsTildes item) :
    source = List.replicate source.length '~' := by
  refine List.eq_replicate_iff.mpr ⟨rfl, ?_⟩
  induction writes with
  | nil => exact nofun
  | cons first _ hypothesis =>
    rw [List.forall_mem_cons] at all
    exact List.forall_mem_append.mpr ⟨all.1.2 _ first, hypothesis all.2⟩

/-- Among pieces that are written in tildes, the first may as well be the last. -/
theorem EndsWritten.rotate (ends : EndsWritten (before ++ (item :: between ++ after)) source)
    (isTildes : IsTildes item) (all : ∀ item ∈ between, IsTildes item) :
    EndsWritten (before ++ (between ++ [item] ++ after)) source := by
  refine ends.exchange ?_ fun written writes => ?_
  · exact List.forall_mem_cons.mpr ⟨isTildes.1, fun other member => (all other member).1⟩
  · have apart : Writes ([item] ++ between) written := writes
    obtain ⟨front, back, rfl, first, rest⟩ := writes_append_iff.mp apart
    have one := first.eq_replicate (by simpa using isTildes)
    have others := rest.eq_replicate all
    have turned : front ++ back = back ++ front := by
      rw [one, others, List.replicate_append_replicate, List.replicate_append_replicate,
        Nat.add_comm]
    rw [turned]
    exact writes_append_iff.mpr ⟨back, front, rfl, rest, first⟩

/-! ## Texts that are joined -/

/-- Joined texts are written as they were. -/
theorem Writes.joinTexts (writes : Writes items source) :
    Writes (Inline.joinTexts items) source := by
  induction writes with
  | nil => exact .nil
  | @cons item items written source first rest hypothesis =>
    rcases Inline.joinTexts_cons_cases item items with
      ⟨apart, -⟩ | ⟨a, b, others, rfl, joined, whole⟩
    · rw [apart]
      exact .cons first hypothesis
    · rw [joined] at hypothesis
      obtain _ | ⟨second, behind⟩ := hypothesis
      cases first
      cases second
      rw [whole, ← List.append_assoc]
      exact .cons (.text _) behind

/-- What stands behind the first piece stands behind it once texts are joined. -/
theorem joinTexts_cons_suffix (item : Inline) (items : List Inline) :
    ∃ first more, Inline.joinTexts (item :: items) = first :: more ∧
      more <:+ Inline.joinTexts items := by
  rcases Inline.joinTexts_cons_cases item items with ⟨apart, -⟩ | ⟨a, b, others, -, joined, whole⟩
  · exact ⟨item, _, apart, List.suffix_refl _⟩
  · exact ⟨_, others, whole, joined ▸ List.suffix_cons _ _⟩

/-- Joining texts keeps everything else. -/
theorem allWritable_of_joinTexts (writable : AllWritable (Inline.joinTexts items)) :
    AllWritable items := by
  induction items with
  | nil => exact nofun
  | cons item items hypothesis =>
    rcases Inline.joinTexts_cons_cases item items with
      ⟨apart, -⟩ | ⟨a, b, others, rfl, joined, whole⟩
    · rw [apart] at writable
      obtain ⟨first, later⟩ := List.forall_mem_cons.mp writable
      exact List.forall_mem_cons.mpr ⟨first, hypothesis later⟩
    · rw [whole] at writable
      refine List.forall_mem_cons.mpr ⟨rfl, hypothesis ?_⟩
      rw [joined]
      exact List.forall_mem_cons.mpr ⟨rfl, (List.forall_mem_cons.mp writable).2⟩

/-- The ends of a content are written as they were once texts are joined. -/
theorem EndsWritten.joinTexts (ends : EndsWritten items source) :
    EndsWritten (Inline.joinTexts items) source := by
  induction items with
  | nil => exact ends
  | cons item items hypothesis =>
    intro head tail whole writable
    cases head with
    | nil =>
      obtain rfl : Inline.joinTexts (item :: items) = tail := whole
      obtain ⟨front, back, rfl, writes⟩ :=
        ends [] (item :: items) rfl (allWritable_of_joinTexts writable)
      exact ⟨front, back, rfl, writes.joinTexts⟩
    | cons first head =>
      obtain ⟨first', more, joined, front, behind⟩ := joinTexts_cons_suffix item items
      obtain ⟨-, same⟩ := List.cons.inj (joined.symm.trans whole)
      have kept : EndsWritten ([] ++ item :: items) source := ends
      refine hypothesis kept.behind (front ++ head) tail ?_ writable
      rw [← behind, same, List.append_assoc]
      rfl

end FoldMark.Markdown
