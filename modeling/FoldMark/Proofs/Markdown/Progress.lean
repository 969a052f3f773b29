import FoldMark.Markdown.Block

/-!
# Reading goes on

Every block takes the line that it starts at (`lt_of_readBlock`), and so every view whose first line
is blank or belongs to its content is read past that line, at any depth (`advances_readWithin`).
-/

namespace FoldMark.Markdown

open FoldMark.Text

/-! ## What reading gives -/

section Returns

variable {α β : Type} {condition : α → Prop} {result : β → Prop}

/-- Reading gives what satisfies a condition. -/
def Returns (condition : α → Prop) (build : Build α) : Prop := ∀ draft, condition (build draft).1

/-- Reading nothing gives a value. -/
theorem returns_pure {value : α} (holds : condition value) :
    Returns condition (pure value : Build α) := fun _ => holds

/-- Of what reading gives, nothing needs to be known. -/
theorem returns_any (build : Build α) : Returns (fun _ => True) build := fun _ => trivial

/-- Reading on from what was given. -/
theorem Returns.bind {first : Build α} {next : α → Build β} (start : Returns condition first)
    (later : ∀ value, condition value → Returns result (next value)) :
    Returns result (first >>= next) :=
  fun draft => later (first draft).1 (start draft) (first draft).2

/-- A weaker condition. -/
theorem Returns.mono {weaker : α → Prop} {build : Build α} (returns : Returns condition build)
    (implies : ∀ value, condition value → weaker value) : Returns weaker build :=
  fun draft => implies _ (returns draft)

/-- Two ways of reading on are one if they agree on what is given. -/
theorem Returns.bind_congr {first : Build α} {next other : α → Build β}
    (returns : Returns condition first)
    (same : ∀ value, condition value → next value = other value) :
    first >>= next = first >>= other :=
  funext fun draft => congrFun (same (first draft).1 (returns draft)) (first draft).2

end Returns

/-! ## Views -/

namespace Scope

variable {scope : Scope} {n m : Nat} {line : Line}

/-- A line is blank or belongs to the content. -/
def Opens (scope : Scope) (n : Nat) : Prop :=
  scope.isBlank n = true ∨ scope.isOutdented n = false

/-- Other lines stay as they are where one is replaced. -/
theorem line_withLine_of_ne (other : m ≠ n) : (scope.withLine n line).line m = scope.line m := by
  simp [Scope.line, withLine, Array.getD_eq_getD_getElem?, Ne.symm other]

/-- A line is replaced, unless it is an empty one past the end. -/
theorem line_withLine_self (scope : Scope) (n : Nat) (line : Line) :
    (scope.withLine n line).line n = line ∨ (scope.withLine n line).isBlank n = true := by
  by_cases inside : n < scope.lines.size
  · left
    simp [Scope.line, withLine, Array.getD_eq_getD_getElem?, inside]
  · right
    simp [isBlank, Scope.line, withLine, Array.getD_eq_getD_getElem?, inside, Line.isBlank,
      Line.textStart]

/-- Blank lines are passed downwards. -/
theorem le_skipBlank (scope : Scope) (n : Nat) : n ≤ scope.skipBlank n := by
  have within : ∀ count n : Nat, n ≤ scope.skipBlankWithin count n := by
    intro count
    induction count with
    | zero => exact fun n => Nat.le_refl n
    | succ count hypothesis =>
      intro n
      rw [skipBlankWithin]
      split
      · exact Nat.le_of_succ_le (hypothesis (n + 1))
      · exact Nat.le_refl n
  exact within _ n

/-- A blank line is passed. -/
theorem lt_skipBlank (inside : n < scope.last) (blank : scope.isBlank n = true) :
    n < scope.skipBlank n := by
  have more : scope.last - n = (scope.last - (n + 1)) + 1 := by omega
  rw [skipBlank, more, skipBlankWithin, if_pos (by simp [inside, blank])]
  exact scope.le_skipBlank (n + 1)

end Scope

namespace Block

variable {read : Reader} {scope : Scope} {level n stop : Nat}

/-- A reader passes the first line of its view. -/
def Advances (read : Reader) : Prop :=
  ∀ (level : Nat) (scope : Scope) (n stop : Nat), n < stop → stop ≤ scope.last → scope.Opens n →
    Returns (fun position => n < position.line) (read level scope n stop)

/-! ## Extents of blocks -/

/-- An indented code block ends after the code. -/
theorem le_codeEnd (count : Nat) {last : Nat} (before : last ≤ n) :
    last ≤ codeEnd scope count n last := by
  induction count generalizing n last with
  | zero => exact Nat.le_refl last
  | succ count hypothesis =>
    rw [codeEnd]
    split
    · exact hypothesis (Nat.le_succ_of_le before)
    split
    · exact Nat.le_trans (Nat.le_succ_of_le before) (hypothesis (Nat.le_refl (n + 1)))
    · exact Nat.le_refl last

/-- Reading goes on after a fenced code block. -/
theorem le_fenceEnd (fence : Scope.Fence) (count n : Nat) :
    n ≤ (fenceEnd scope fence count n).2 := by
  induction count generalizing n with
  | zero => exact Nat.le_refl n
  | succ count hypothesis =>
    rw [fenceEnd]
    split
    · exact Nat.le_refl n
    split
    · exact Nat.le_refl n
    split
    · exact Nat.le_succ n
    · exact Nat.le_of_succ_le (hypothesis (n + 1))

/-- Reading goes on after a block of HTML. -/
theorem le_htmlEnd (block : HtmlBlock) (count n : Nat) : n ≤ htmlEnd scope block count n := by
  induction count generalizing n with
  | zero => exact Nat.le_refl n
  | succ count hypothesis =>
    rw [htmlEnd]
    split
    · exact Nat.le_refl n
    split
    · split
      · exact Nat.le_refl n
      · exact Nat.le_succ n
    · exact Nat.le_of_succ_le (hypothesis (n + 1))

/-- Reading goes on after the rows of a table. -/
theorem le_tableRows (columns count n : Nat) (filled : Int) :
    n ≤ (tableRows scope columns count n filled).1 := by
  induction count generalizing n filled with
  | zero => exact Nat.le_refl n
  | succ count hypothesis =>
    rw [tableRows]
    dsimp only
    split
    · exact Nat.le_refl n
    split
    · exact Nat.le_refl n
    · exact Nat.le_of_succ_le (hypothesis (n + 1) _)

/-- Reading goes on after a paragraph. -/
theorem le_paragraphEnd (count n : Nat) : n ≤ paragraphEnd scope count n := by
  induction count generalizing n with
  | zero => exact Nat.le_refl n
  | succ count hypothesis =>
    rw [paragraphEnd]
    split
    · exact Nat.le_refl n
    split
    · exact Nat.le_of_succ_le (hypothesis (n + 1))
    split
    · exact Nat.le_refl n
    · exact Nat.le_of_succ_le (hypothesis (n + 1))

/-- The underline of a heading stands below its text. -/
theorem le_of_underlineFrom? {count underline headingLevel : Nat}
    (found : underlineFrom? scope stop count n = some (underline, headingLevel)) :
    n ≤ underline := by
  induction count generalizing n with
  | zero => cases found
  | succ count hypothesis =>
    rw [underlineFrom?] at found
    split at found
    · cases found
    split at found
    · exact Nat.le_of_succ_le (hypothesis found)
    split at found
    · obtain ⟨rfl, -⟩ := Prod.mk.inj (Option.some.inj found)
      exact Nat.le_refl n
    split at found
    · exact Nat.le_of_succ_le (hypothesis found)
    split at found
    · cases found
    · exact Nat.le_of_succ_le (hypothesis found)

/-- A definition takes a line. -/
theorem pos_lines_of_atFront? {source : List Char} {definition : Definition}
    (found : Definition.atFront? source = some definition) : 0 < definition.lines := by
  have defined : ∀ {isEmpty : Bool} {key : List Char} {reference : Reference} {count : Nat},
      (if isEmpty = true then none else some ⟨key, reference, count + 1⟩) = some definition →
        0 < definition.lines := by
    intro isEmpty key reference count found
    cases isEmpty with
    | true => cases found
    | false =>
      obtain rfl := Option.some.inj found
      exact Nat.succ_pos count
  unfold Definition.atFront? at found
  split at found
  case h_2 => cases found
  obtain ⟨size, -, found⟩ := Option.bind_eq_some_iff.mp found
  dsimp only at found
  split at found
  case h_2 => cases found
  obtain ⟨⟨destination, size⟩, -, found⟩ := Option.bind_eq_some_iff.mp found
  dsimp only at found
  split at found
  · cases found
  split at found
  · exact defined found
  split at found
  · split at found
    · exact defined found
    split at found
    · cases found
    split at found
    · exact defined found
    · cases found
  · split at found
    · exact defined found
    · cases found

/-- So does one that a line starts. -/
theorem pos_lines_of_definition? {definition : Definition}
    (found : definition? scope n = some definition) : 0 < definition.lines := by
  rw [definition?] at found
  split at found
  · cases found
  · exact pos_lines_of_atFront? found

/-- The columns of spaces are counted on. -/
theorem le_spaceColumns (shift column : Nat) (text : List Char) :
    column ≤ spaceColumns shift column text := by
  induction text generalizing column with
  | nil => exact Nat.le_refl column
  | cons c rest hypothesis =>
    rw [spaceColumns]
    split
    · exact Nat.le_trans (Nat.le_add_right ..) (hypothesis _)
    split
    · exact Nat.le_of_succ_le (hypothesis (column + 1))
    · exact Nat.le_refl column

/-! ## Nested views -/

/-- A quotation keeps the lines before it and the column of its content, and goes on for lines of
the view. -/
theorem quotationScope_spec (scope : Scope) (stop count n : Nat) (isOpen : Bool) (inner : Scope) :
    let found := quotationScope scope stop count n isOpen inner
    n ≤ found.2 ∧ (n + count ≤ inner.last → found.2 ≤ found.1.last) ∧
      (∀ m < n, found.1.line m = inner.line m) ∧ found.1.blockIndent = inner.blockIndent := by
  induction count generalizing n isOpen inner with
  | zero => exact ⟨Nat.le_refl n, fun bound => bound, fun _ _ => rfl, rfl⟩
  | succ count hypothesis =>
    have ended : n ≤ n ∧ (n + (count + 1) ≤ inner.last → n ≤ inner.last) ∧
        (∀ m < n, inner.line m = inner.line m) ∧ inner.blockIndent = inner.blockIndent :=
      ⟨Nat.le_refl n, by omega, fun _ _ => rfl, rfl⟩
    have goesOn : ∀ (line : Line) (isOpen : Bool),
        let found := quotationScope scope stop count (n + 1) isOpen (inner.withLine n line)
        n ≤ found.2 ∧ (n + (count + 1) ≤ inner.last → found.2 ≤ found.1.last) ∧
          (∀ m < n, found.1.line m = inner.line m) ∧
          found.1.blockIndent = inner.blockIndent := by
      intro line isOpen
      obtain ⟨below, bounded, before, column⟩ := hypothesis (n + 1) isOpen (inner.withLine n line)
      refine ⟨Nat.le_of_succ_le below, fun bound => bounded ?_, fun m less => ?_, column⟩
      · change n + 1 + count ≤ inner.last
        omega
      · rw [before m (Nat.lt_succ_of_lt less), Scope.line_withLine_of_ne (Nat.ne_of_lt less)]
    rw [quotationScope]
    dsimp only
    split
    · exact ended
    split
    · exact goesOn _ _
    split
    · exact ended
    split
    · exact ⟨Nat.le_refl n, fun _ => Nat.le_refl n, fun _ _ => rfl, rfl⟩
    · exact goesOn _ _

/-- What stands after a quotation mark is indented, if at all, to the right. -/
theorem unquote_indent_nonneg (scope : Scope) (line : Line) : 0 ≤ (unquote scope line).indent := by
  simp only [unquote]
  exact Int.sub_nonneg.mpr (Int.ofNat_le.mpr (le_spaceColumns ..))

/-- A view with a line replaced opens there if the line is blank or belongs to the content. -/
theorem opens_of_line (scope : Scope) {inner : Scope} {line : Line}
    (first : inner.line n = (scope.withLine n line).line n)
    (fits : line.isBlank = true ∨ (inner.blockIndent : Int) ≤ line.indent) : inner.Opens n := by
  rcases Scope.line_withLine_self scope n line with same | blank
  · rcases fits with blank | indent
    · exact Or.inl (by rw [Scope.isBlank, first, same, blank])
    · refine Or.inr (decide_eq_false ?_)
      rw [first, same]
      exact Int.not_lt.mpr indent
  · exact Or.inl (by rw [Scope.isBlank, first]; exact blank)

/-- The first line of a list item is blank or belongs to its content. -/
theorem opens_itemScope (scope : Scope) (marker : Scope.Marker) (n : Nat) :
    (itemScope scope marker n).Opens n := by
  refine opens_of_line scope rfl ?_
  let line := scope.line n
  let after := line.textStart + marker.size
  let initial := line.indent.toNat + marker.size
  let space := (scope.slice after line.stop).takeWhile isSpaceOrTab
  let reached := spaceColumns line.offset initial space
  have counted : initial ≤ reached := le_spaceColumns ..
  by_cases isEmpty : after + space.length ≥ line.stop
  · refine Or.inl (decide_eq_true (Nat.le_trans isEmpty (Nat.le_of_eq ?_)))
    simp only [after, Line.textStart, Nat.add_assoc, line, space]
  · right
    have column : (itemScope scope marker n).blockIndent =
        initial + if reached - initial > 4 then 1 else reached - initial := by
      simp only [itemScope, line, after, initial, space, reached, isEmpty, decide_false,
        Bool.false_or, decide_eq_true_eq]
    rw [column]
    refine Int.ofNat_le.mpr ?_
    change _ ≤ reached
    split <;> omega

/-- The first line of a footnote belongs to its content. -/
theorem opens_footnoteScope (scope : Scope) (size n : Nat) :
    (footnoteScope scope size n).Opens n := by
  refine opens_of_line scope rfl (Or.inr (Int.ofNat_le.mpr ?_))
  have column : (footnoteScope scope size n).blockIndent = scope.blockIndent + 4 := rfl
  rw [column]
  split
  · exact Nat.le_add_left ..
  · omega

/-! ## Blocks -/

/-- A table takes its line. -/
theorem lt_of_readTable (alignments : List Alignment) (head : List (List Char)) :
    Returns (n < ·) (readTable scope alignments head n stop) := by
  have below : n < (tableRows scope alignments.length (stop - (n + 2)) (n + 2) 0).1 :=
    Nat.lt_of_succ_le (Nat.le_of_succ_le (le_tableRows ..))
  rw [readTable]
  dsimp only
  iterate 4 refine (returns_any _).bind fun _ _ => ?_
  split
  · iterate 4 refine (returns_any _).bind fun _ _ => ?_
    exact returns_pure below
  · exact (returns_any _).bind fun _ _ => returns_pure below

/-- A block of HTML takes its line. -/
theorem lt_of_readHtml (block : HtmlBlock) : Returns (n < ·) (readHtml scope block n stop) := by
  rw [readHtml]
  refine (returns_any _).bind fun _ _ => returns_pure ?_
  split
  · exact Nat.lt_succ_self n
  · exact le_htmlEnd ..

section Blocks

variable (advances : Advances read) (inside : n < stop) (bound : stop ≤ scope.last)

include advances inside bound

/-- A quotation takes its line. -/
theorem lt_of_readQuotation :
    Returns (n < ·) (readQuotation read level scope n stop) := by
  rw [readQuotation]
  dsimp only
  obtain ⟨below, bounded, before, column⟩ :=
    quotationScope_spec scope stop (stop - (n + 1)) (n + 1)
      (!(unquote scope (scope.line n)).isBlank)
      { scope.withLine n (unquote scope (scope.line n)) with blockIndent := 0 }
  refine (returns_any _).bind fun _ _ => ?_
  refine (advances _ _ _ _ below (bounded ?_) ?_).bind fun position lower => ?_
  · change n + 1 + (stop - (n + 1)) ≤ scope.last
    omega
  · refine opens_of_line scope (before n (Nat.lt_succ_self n)) (Or.inr ?_)
    rw [column]
    exact unquote_indent_nonneg ..
  · exact (returns_any _).bind fun _ _ => returns_pure lower

/-- A list item takes its line. -/
theorem lt_of_readItem (marker : Scope.Marker) (tight endsBlank : Bool) :
    Returns (fun state => n < state.line)
      (readItem read level scope marker stop ⟨n, tight, endsBlank⟩) := by
  rw [readItem]
  refine (returns_any _).bind fun _ _ => ?_
  have rest : ∀ position : Position, n < position.line → Returns (fun state => n < state.line)
      (do
        put (.stop .listItem)
        return {
          line := position.line
          tight := tight && position.tight && !endsBlank
          endsBlank := position.line > n + 1 && scope.isBlank (position.line - 1) : ListState }) :=
    fun position lower => (returns_any _).bind fun _ _ => returns_pure lower
  dsimp only
  split
  · refine (returns_pure ?_).bind rest
    exact Nat.lt_min.mpr ⟨by omega, inside⟩
  · have opens := opens_itemScope scope marker n
    exact (advances (level + 2) (itemScope scope marker n) n stop inside bound opens).bind rest

end Blocks

/-- A list goes on before the lines end. -/
theorem lt_of_nextMarker? {first marker : Scope.Marker}
    (found : nextMarker? scope first n stop = some marker) : n < stop := by
  refine Nat.lt_of_not_le fun below => ?_
  rw [nextMarker?, if_pos (by simp [below])] at found
  cases found

/-- The items of a list take their lines. -/
theorem lt_of_readItems (advances : Advances read) (bound : stop ≤ scope.last)
    (first marker : Scope.Marker) (count : Nat) (inside : n < stop) (tight endsBlank : Bool) :
    Returns (fun state => n < state.line)
      (readItems read level scope first stop (count + 1) marker ⟨n, tight, endsBlank⟩) := by
  induction count generalizing n marker tight endsBlank with
  | zero =>
    rw [readItems]
    refine (lt_of_readItem advances inside bound marker tight endsBlank).bind fun state lower => ?_
    split
    · exact returns_pure lower
    · exact returns_pure lower
  | succ count hypothesis =>
    rw [readItems]
    refine (lt_of_readItem advances inside bound marker tight endsBlank).bind fun state lower => ?_
    split
    · next marker found =>
      exact (hypothesis marker (lt_of_nextMarker? found) state.tight state.endsBlank).mono
        fun _ => Nat.lt_trans lower
    · exact returns_pure lower

section Blocks

variable (advances : Advances read) (inside : n < stop) (bound : stop ≤ scope.last)

include advances inside bound

/-- A list takes its line. -/
theorem lt_of_readList (marker : Scope.Marker) :
    Returns (n < ·) (readList read level scope marker n stop) := by
  obtain ⟨count, exact⟩ : ∃ count, stop - n = count + 1 := ⟨stop - n - 1, by omega⟩
  rw [readList, exact]
  refine (returns_any _).bind fun _ _ => (returns_any _).bind fun _ _ => ?_
  refine (lt_of_readItems advances bound marker marker count inside true false).bind
    fun state lower => (returns_any _).bind fun _ _ => ?_
  split
  · exact (returns_any _).bind fun _ _ => returns_pure lower
  · exact returns_pure lower

/-- A footnote takes its line. -/
theorem lt_of_readFootnote (label : List Char) (size : Nat) :
    Returns (n < ·) (readFootnote read level scope label size n stop) := by
  rw [readFootnote]
  refine (returns_any _).bind fun _ _ => (returns_any _).bind fun _ _ => ?_
  have content := advances (level + 1) (footnoteScope scope size n) n stop inside bound
    (opens_footnoteScope scope size n)
  exact content.bind fun position lower => (returns_any _).bind fun _ _ => returns_pure lower

/-- Every block takes the line that it starts at. -/
theorem lt_of_readBlock : Returns (n < ·) (readBlock read level scope n stop) := by
  rw [readBlock]
  split
  · exact lt_of_readTable _ _
  split
  · exact (returns_any _).bind fun _ _ => returns_pure (le_codeEnd _ (Nat.le_refl _))
  split
  · exact (returns_any _).bind fun _ _ => returns_pure (le_fenceEnd ..)
  split
  · exact lt_of_readQuotation advances inside bound
  split
  · exact (returns_any _).bind fun _ _ => returns_pure (Nat.lt_succ_self n)
  split
  · exact lt_of_readList advances inside bound _
  split
  · exact lt_of_readFootnote advances inside bound _ _
  split
  · next found =>
    exact (returns_any _).bind fun _ _ =>
      returns_pure (Nat.lt_add_of_pos_right (pos_lines_of_definition? found))
  split
  · exact lt_of_readHtml _
  split
  · exact (returns_any _).bind fun _ _ => returns_pure (Nat.lt_succ_self n)
  split
  · next found =>
    exact (returns_any _).bind fun _ _ =>
      returns_pure (Nat.lt_succ_of_lt (le_of_underlineFrom? found))
  · exact (returns_any _).bind fun _ _ => returns_pure (le_paragraphEnd ..)

end Blocks

/-! ## Rows of blocks -/

/-- Where reading blocks does not end, lines are left. -/
theorem lt_of_goesOn {outdented : Bool} (goesOn : ¬(decide (n ≥ stop) || outdented) = true) :
    n < stop := by
  simp only [Bool.or_eq_true, decide_eq_true_eq, not_or, Nat.not_le] at goesOn
  exact goesOn.1

section Rows

variable (advances : Advances read) (bound : stop ≤ scope.last)

include advances bound

/-- Reading blocks goes downwards, and passes a first line that is blank or belongs to the
content. -/
theorem passes_readBlocks (count : Nat) (sawBlank tight : Bool) :
    Returns (fun position => n ≤ position.line ∧
        (0 < count → n < stop → scope.Opens n → n < position.line))
      (readBlocks read level scope stop count n sawBlank tight) := by
  induction count generalizing n sawBlank tight with
  | zero => exact returns_pure ⟨Nat.le_refl n, nofun⟩
  | succ count hypothesis =>
    have skipped := scope.le_skipBlank n
    rw [readBlocks]
    dsimp only
    split
    · next outside =>
      exact returns_pure ⟨Nat.le_refl n, fun _ inside _ => absurd inside (Nat.not_lt.mpr outside)⟩
    split
    · next ends =>
      refine returns_pure ⟨skipped, fun _ inside opens => ?_⟩
      rcases opens with blank | content
      · exact Scope.lt_skipBlank (Nat.lt_of_lt_of_le inside bound) blank
      · refine Nat.lt_of_le_of_ne skipped fun (same : n = scope.skipBlank n) => ?_
        rw [← same, content, Bool.or_false, decide_eq_true_eq] at ends
        exact Nat.not_le.mpr inside ends
    · next goesOn =>
      have inside := lt_of_goesOn goesOn
      split
      · exact returns_pure ⟨Nat.le_trans skipped (Nat.le_of_lt inside), fun _ inside _ => inside⟩
      · refine (lt_of_readBlock advances inside bound).bind fun next lower => ?_
        refine Returns.mono (hypothesis _ _) fun position further => ?_
        have later : next ≤ position.line := by
          refine Nat.le_trans ?_ further.1
          split
          · exact Nat.le_succ next
          · exact Nat.le_refl next
        have below := Nat.lt_of_le_of_lt skipped (Nat.lt_of_lt_of_le lower later)
        exact ⟨Nat.le_of_lt below, fun _ _ _ => below⟩

/-- There are no more blocks than lines. -/
theorem readBlocks_succ (count : Nat) (sawBlank tight : Bool) (enough : stop ≤ n + count) :
    readBlocks read level scope stop (count + 1) n sawBlank tight =
      readBlocks read level scope stop count n sawBlank tight := by
  induction count generalizing n sawBlank tight with
  | zero =>
    have ended : n ≥ stop := enough
    rw [readBlocks, readBlocks, if_pos ended]
  | succ count hypothesis =>
    rw [readBlocks, readBlocks]
    dsimp only
    have skipped := scope.le_skipBlank n
    split
    · rfl
    split
    · rfl
    · next goesOn =>
      split
      · rfl
      refine (lt_of_readBlock advances (lt_of_goesOn goesOn) bound).bind_congr fun next lower => ?_
      refine hypothesis _ _ ?_
      split <;> omega

end Rows

/-- Reading goes on at any depth. -/
theorem advances_readWithin (depth : Nat) : Advances (readWithin depth) := by
  induction depth with
  | zero => exact fun _ _ _ _ inside _ _ => returns_pure inside
  | succ depth hypothesis =>
    intro level scope n stop inside bound opens
    exact Returns.mono (passes_readBlocks hypothesis bound _ _ _) fun position passed =>
      passed.2 (Nat.succ_pos _) inside opens

end Block

end FoldMark.Markdown
