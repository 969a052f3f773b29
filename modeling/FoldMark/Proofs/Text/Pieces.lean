import FoldMark.Text.Blank

/-!
# Pieces of a text

What the pieces between separators hold, where a text is cut and where its lines end, how its lines
by the widest rule are such pieces, and what trimming leaves of a line. A text that ends a line can
be cut off the front: `lines_append` says that the lines of both parts are the lines of the whole,
and `lines_eq_append` that every cut between lines is of this kind.
-/

namespace FoldMark.Text

variable {separates : Char → Bool} {text piece : List Char}

/-- A piece holds characters of the text that do not separate. -/
theorem mem_of_mem_splitAt (member : piece ∈ splitAt separates text) :
    ∀ c ∈ piece, c ∈ text ∧ separates c = false := by
  induction text generalizing piece with
  | nil =>
    obtain rfl : piece = [] := by simpa [splitAt] using member
    simp
  | cons first rest hypothesis =>
    have later : ∀ piece ∈ splitAt separates rest, ∀ c ∈ piece,
        c ∈ first :: rest ∧ separates c = false := fun piece member c inside =>
      ⟨List.mem_cons_of_mem _ (hypothesis member c inside).1, (hypothesis member c inside).2⟩
    rw [splitAt] at member
    split at member
    · rcases List.mem_cons.mp member with rfl | member
      · simp
      · exact later piece member
    · rename_i kept
      have here : first ∈ first :: rest ∧ separates first = false :=
        ⟨List.mem_cons_self, by simpa using kept⟩
      cases pieces : splitAt separates rest with
      | nil =>
        obtain rfl : piece = [first] := by simpa [pieces] using member
        intro c inside
        obtain rfl : c = first := by simpa using inside
        exact here
      | cons head others =>
        rw [pieces] at member later
        rcases List.mem_cons.mp member with rfl | member
        · intro c inside
          rcases List.mem_cons.mp inside with rfl | inside
          · exact here
          · exact later head List.mem_cons_self c inside
        · exact later piece (List.mem_cons_of_mem _ member)

/-- A text without separators is one piece. -/
theorem splitAt_of_forall (none : ∀ c ∈ text, separates c = false) :
    splitAt separates text = [text] := by
  induction text with
  | nil => rfl
  | cons first rest hypothesis =>
    have later := hypothesis fun c inside => none c (List.mem_cons_of_mem _ inside)
    simp [splitAt, none first List.mem_cons_self, later]

/-- There is always a piece. -/
theorem splitAt_ne_nil (separates : Char → Bool) (text : List Char) :
    splitAt separates text ≠ [] := by
  cases text with
  | nil => simp [splitAt]
  | cons c rest =>
    rw [splitAt]
    split
    · simp
    · split <;> simp

/-- The pieces around a separator are those of the text before it and those of the text after. -/
theorem splitAt_append {separator : Char} (isSeparator : separates separator = true)
    (front back : List Char) :
    splitAt separates (front ++ separator :: back) =
      splitAt separates front ++ splitAt separates back := by
  induction front with
  | nil => simp [splitAt, isSeparator]
  | cons first rest hypothesis =>
    rw [List.cons_append, splitAt, splitAt, hypothesis]
    split
    · rfl
    · cases pieces : splitAt separates rest with
      | nil => exact absurd pieces (splitAt_ne_nil separates rest)
      | cons head others => rfl

/-- A piece without separators is cut off at the separator behind it. -/
theorem splitAt_append_cons {separator : Char} (none : ∀ c ∈ piece, separates c = false)
    (isSeparator : separates separator = true) (rest : List Char) :
    splitAt separates (piece ++ separator :: rest) = piece :: splitAt separates rest := by
  rw [splitAt_append isSeparator, splitAt_of_forall none, List.singleton_append]

/-- Pieces without separators that are joined by one are cut apart again. -/
theorem splitAt_intercalate {separator : Char} {pieces : List (List Char)}
    (none : ∀ piece ∈ pieces, ∀ c ∈ piece, separates c = false)
    (isSeparator : separates separator = true) (nonempty : pieces ≠ []) :
    splitAt separates ([separator].intercalate pieces) = pieces := by
  induction pieces with
  | nil => exact absurd rfl nonempty
  | cons piece rest hypothesis =>
    have first := none piece List.mem_cons_self
    cases rest with
    | nil => simpa using splitAt_of_forall first
    | cons next others =>
      have later := hypothesis (fun piece member => none piece (List.mem_cons_of_mem _ member))
        (List.cons_ne_nil _ _)
      rw [List.intercalate_cons_cons, List.append_assoc, List.singleton_append,
        splitAt_append_cons first isSeparator, later]

/-- The pieces of a text that are joined again are the text. -/
theorem intercalate_splitAt (separator : Char) (text : List Char) :
    [separator].intercalate (splitAt (· == separator) text) = text := by
  induction text with
  | nil => rfl
  | cons first rest hypothesis =>
    obtain ⟨piece, pieces, cut⟩ := List.exists_cons_of_ne_nil (splitAt_ne_nil (· == separator) rest)
    rw [cut] at hypothesis
    rw [splitAt, cut]
    by_cases separates : first = separator
    · rw [if_pos (by simpa using separates), List.intercalate_cons_cons, hypothesis, separates]
      rfl
    · rw [if_neg (by simpa using separates)]
      cases pieces with
      | nil => simpa using hypothesis
      | cons next others =>
        rw [List.intercalate_cons_cons] at hypothesis ⊢
        rw [← hypothesis]
        rfl

/-- Pieces that are joined by a separator hold characters of the pieces and the separator. -/
theorem mem_of_mem_intercalate {separator c : Char} {pieces : List (List Char)}
    (member : c ∈ [separator].intercalate pieces) :
    c = separator ∨ ∃ piece ∈ pieces, c ∈ piece := by
  induction pieces with
  | nil => simp at member
  | cons piece rest hypothesis =>
    cases rest with
    | nil => exact Or.inr ⟨piece, by simp, by simpa using member⟩
    | cons next others =>
      rw [List.intercalate_cons_cons, List.append_assoc, List.singleton_append,
        List.mem_append, List.mem_cons] at member
      rcases member with first | rfl | later
      · exact Or.inr ⟨piece, List.mem_cons_self, first⟩
      · exact Or.inl rfl
      · exact (hypothesis later).imp_right fun ⟨other, listed, inside⟩ =>
          ⟨other, List.mem_cons_of_mem _ listed, inside⟩

/-! ## Cuts -/

/-- A text is cut at the first character that satisfies a test. -/
theorem cutAt_eq_some_iff {test : Char → Bool} {front back : List Char} :
    cutAt test text = some (front, back) ↔
      ∃ mark, text = front ++ mark :: back ∧ test mark = true ∧ ∀ c ∈ front, test c = false := by
  induction text generalizing front with
  | nil => simp [cutAt]
  | cons first rest hypothesis =>
    cases here : test first with
    | true =>
      rw [cutAt, if_pos here, Option.some.injEq, Prod.mk.injEq]
      constructor
      · rintro ⟨rfl, rfl⟩
        exact ⟨first, rfl, here, by simp⟩
      · rintro ⟨mark, whole, _, free⟩
        cases front with
        | nil => exact ⟨rfl, (List.cons.inj whole).2⟩
        | cons c front =>
          have passes := free c List.mem_cons_self
          rw [← (List.cons.inj whole).1, here] at passes
          cases passes
    | false =>
      simp only [cutAt, here, Bool.false_eq_true, if_false, Option.map_eq_some_iff, Prod.exists,
        Prod.mk.injEq]
      constructor
      · rintro ⟨before, _, cut, rfl, rfl⟩
        obtain ⟨mark, rfl, isMark, free⟩ := hypothesis.mp cut
        exact ⟨mark, rfl, isMark, List.forall_mem_cons.mpr ⟨here, free⟩⟩
      · rintro ⟨mark, whole, isMark, free⟩
        cases front with
        | nil =>
          rw [← (List.cons.inj whole).1, here] at isMark
          cases isMark
        | cons c front =>
          obtain ⟨rfl, rest_eq⟩ := List.cons.inj whole
          refine ⟨front, back, hypothesis.mpr ⟨mark, rest_eq, isMark, ?_⟩, rfl, rfl⟩
          exact (List.forall_mem_cons.mp free).2

/-- A text is not cut if none of its characters satisfies the test. -/
theorem cutAt_eq_none_iff {test : Char → Bool} :
    cutAt test text = none ↔ ∀ c ∈ text, test c = false := by
  induction text with
  | nil => simp [cutAt]
  | cons first rest hypothesis =>
    rw [cutAt, List.forall_mem_cons, ← hypothesis]
    cases test first <;> simp

/-! ## Lines -/

/-- A text is empty or ends with the end of a line. -/
def EndsLine (text : List Char) : Prop := text = [] ∨ ∃ front, text = front ++ ['\n']

/-- There is a line exactly if there is a character. -/
theorem lines_eq_nil_iff : lines text = [] ↔ text = [] := by
  constructor
  · intro none
    rw [← flatten_lines text, none, List.flatten_nil]
  · rintro rfl
    rfl

/-- A line feed ends the first line. -/
theorem lines_cons_newline (rest : List Char) : lines ('\n' :: rest) = ['\n'] :: lines rest := by
  simp [lines]

/-- Any other character belongs to the first line. -/
theorem lines_cons_of_ne {c : Char} {rest line : List Char} {others : List (List Char)}
    (inside : c ≠ '\n') (cut : lines rest = line :: others) :
    lines (c :: rest) = (c :: line) :: others := by
  rw [lines, if_neg inside, cut]

/-- Without a line feed the lines after a text are those after what ends it. -/
theorem lines_line {line : List Char} (inside : '\n' ∉ line) (rest : List Char) :
    lines (line ++ '\n' :: rest) = (line ++ ['\n']) :: lines rest := by
  induction line with
  | nil => exact lines_cons_newline rest
  | cons c line hypothesis =>
    have later := hypothesis fun member => inside (List.mem_cons_of_mem _ member)
    exact lines_cons_of_ne (fun newline => inside (newline ▸ List.mem_cons_self)) later

/-- A text without a line feed is one line. -/
theorem lines_last {line : List Char} (inside : '\n' ∉ line) (nonempty : line ≠ []) :
    lines line = [line] := by
  induction line with
  | nil => exact absurd rfl nonempty
  | cons c line hypothesis =>
    have notNewline : c ≠ '\n' := fun newline => inside (newline ▸ List.mem_cons_self)
    cases line with
    | nil => simp [lines, notNewline]
    | cons d rest =>
      have later := hypothesis (fun member => inside (List.mem_cons_of_mem _ member)) (by simp)
      exact lines_cons_of_ne notNewline later

/-- The first line ends with the only line feed in it, unless it is the last. -/
theorem lines_eq_cons {line : List Char} {others : List (List Char)}
    (cut : lines text = line :: others) :
    lines others.flatten = others ∧
      ((∃ front, line = front ++ ['\n'] ∧ '\n' ∉ front) ∨ (others = [] ∧ '\n' ∉ line)) := by
  induction text generalizing line others with
  | nil => simp [lines] at cut
  | cons c rest hypothesis =>
    by_cases newline : c = '\n'
    · subst newline
      obtain ⟨rfl, rfl⟩ : ['\n'] = line ∧ lines rest = others := by
        simpa [lines_cons_newline] using cut
      exact ⟨by rw [flatten_lines], Or.inl ⟨[], rfl, by simp⟩⟩
    · have notNewline : '\n' ≠ c := fun same => newline same.symm
      cases later : lines rest with
      | nil =>
        obtain ⟨rfl, rfl⟩ : [c] = line ∧ [] = others := by
          simpa [lines, newline, later] using cut
        exact ⟨rfl, Or.inr ⟨rfl, by simpa using notNewline⟩⟩
      | cons head tail =>
        obtain ⟨rfl, rfl⟩ : c :: head = line ∧ tail = others := by
          simpa [lines_cons_of_ne newline later] using cut
        obtain ⟨same, ended⟩ := hypothesis later
        refine ⟨same, ?_⟩
        rcases ended with ⟨front, rfl, inside⟩ | ⟨last, inside⟩
        · exact Or.inl ⟨c :: front, rfl, by simp [notNewline, inside]⟩
        · exact Or.inr ⟨last, by simp [notNewline, inside]⟩

/-- A text that ends a line can be cut off the front. -/
theorem lines_append {front : List Char} (ended : EndsLine front) (back : List Char) :
    lines (front ++ back) = lines front ++ lines back := by
  rcases ended with rfl | ⟨front, rfl⟩
  · rfl
  · induction front with
    | nil => simp [lines_cons_newline, lines]
    | cons c front hypothesis =>
      by_cases newline : c = '\n'
      · simpa [newline, lines_cons_newline] using hypothesis
      · obtain ⟨line, others, cut⟩ : ∃ line others, lines (front ++ ['\n']) = line :: others :=
          List.exists_cons_of_ne_nil fun none => by simpa using lines_eq_nil_iff.mp none
        rw [cut, List.cons_append] at hypothesis
        rw [List.cons_append, List.cons_append, lines_cons_of_ne newline hypothesis,
          lines_cons_of_ne newline cut, List.cons_append]

/-- Where a text is cut between lines, its parts have those lines, and the first ends a line. -/
theorem lines_eq_append {front back : List (List Char)} (cut : lines text = front ++ back) :
    lines front.flatten = front ∧ lines back.flatten = back ∧
      (back ≠ [] → EndsLine front.flatten) := by
  induction front generalizing text with
  | nil =>
    refine ⟨rfl, ?_, fun _ => Or.inl rfl⟩
    rw [show back = lines text by simpa using cut.symm, flatten_lines]
  | cons line front hypothesis =>
    obtain ⟨same, ended⟩ := lines_eq_cons cut
    obtain ⟨frontLines, backLines, frontEnds⟩ := hypothesis same
    rcases ended with ⟨start, rfl, inside⟩ | ⟨none, inside⟩
    · refine ⟨?_, backLines, fun more => Or.inr ?_⟩
      · rw [List.flatten_cons, List.append_assoc, List.singleton_append, lines_line inside,
          frontLines]
      · rcases frontEnds more with empty | ⟨later, ends⟩
        · exact ⟨start, by simp [empty]⟩
        · exact ⟨start ++ '\n' :: later, by simp [ends]⟩
    · obtain ⟨rfl, rfl⟩ := List.append_eq_nil_iff.mp none
      refine ⟨?_, rfl, fun more => absurd rfl more⟩
      have whole : line = text := by rw [← flatten_lines text, cut]; simp
      simpa [whole] using cut

/-- A text is blank exactly if its lines are. -/
theorem isBlankText_iff_lines :
    isBlankText text = true ↔ ∀ line ∈ lines text, isBlankText line = true := by
  conv => lhs; rw [← flatten_lines text]
  simp [isBlankText, List.all_flatten]

/-- Whether the first line is blank is told by the characters before the first line feed. -/
theorem isBlankText_headD_lines (text : List Char) :
    isBlankText ((lines text).headD []) = isBlankText (text.takeWhile (· != '\n')) := by
  induction text with
  | nil => rfl
  | cons c rest hypothesis =>
    by_cases newline : c = '\n'
    · subst newline
      rw [lines_cons_newline]
      rfl
    · have first : isBlankText (c :: rest.takeWhile (· != '\n')) =
          (isBlank c && isBlankText (rest.takeWhile (· != '\n'))) := List.all_cons
      rw [List.takeWhile_cons_of_pos (by simpa using newline), first, ← hypothesis]
      cases later : lines rest with
      | nil => simp [lines, newline, later, isBlankText]
      | cons line others => simp [lines_cons_of_ne newline later, isBlankText]

/-! ## Line boundaries -/

/-- A character that ends a line is blank. -/
theorem isBlank_of_isLineBoundary {c : Char} (boundary : isLineBoundary c = true) :
    isBlank c = true := by
  simp only [isLineBoundary, isBlank, Bool.or_eq_true, Bool.and_eq_true, decide_eq_true_eq,
    beq_iff_eq] at boundary ⊢
  omega

/-- The lines of a text that are not empty are its pieces between line boundaries that are not. -/
theorem filter_splitLines (text : List Char) :
    (splitLines text).filter (!·.isEmpty) =
      (splitAt isLineBoundary text).filter (!·.isEmpty) := by
  have heads : ∀ text : List Char, text ≠ [] → ∃ line others pieces,
      splitLines text = line :: others ∧ splitAt isLineBoundary text = line :: pieces ∧
        others.filter (!·.isEmpty) = pieces.filter (!·.isEmpty) := by
    intro text
    fun_induction splitLines text with
    | case1 => exact fun nonempty => absurd rfl nonempty
    | case2 rest hypothesis =>
      have carriageReturn : isLineBoundary '\r' = true := by decide
      have lineFeed : isLineBoundary '\n' = true := by decide
      refine fun _ => ⟨[], _, [] :: splitAt isLineBoundary rest, rfl, ?_, ?_⟩
      · simp [splitAt, carriageReturn, lineFeed]
      · by_cases last : rest = []
        · simp [last, splitLines, splitAt]
        · obtain ⟨line, others, pieces, cut, split, same⟩ := hypothesis last
          simp [cut, split, List.filter_cons, same]
    | case3 c rest _ boundary hypothesis =>
      refine fun _ => ⟨[], _, splitAt isLineBoundary rest, rfl, by simp [splitAt, boundary], ?_⟩
      by_cases last : rest = []
      · simp [last, splitLines, splitAt]
      · obtain ⟨line, others, pieces, cut, split, same⟩ := hypothesis last
        simp [cut, split, List.filter_cons, same]
    | case4 c boundary => exact fun _ => ⟨[c], [], [], rfl, by simp [splitAt, boundary], rfl⟩
    | case5 c rest _ boundary none more hypothesis =>
      obtain ⟨line, others, pieces, cut, -, -⟩ := hypothesis more
      rw [none] at cut
      cases cut
    | case6 c rest _ boundary line others found more hypothesis =>
      obtain ⟨_, _, pieces, cut, split, same⟩ := hypothesis more
      rw [found] at cut
      obtain ⟨rfl, rfl⟩ := List.cons.inj cut
      obtain ⟨d, later, rfl⟩ := List.exists_cons_of_ne_nil more
      exact fun _ => ⟨c :: line, others, pieces, by simp [found],
        by rw [splitAt, if_neg boundary, split], same⟩
  by_cases none : text = []
  · simp [none, splitLines, splitAt]
  · obtain ⟨line, others, pieces, cut, split, same⟩ := heads text none
    simp [cut, split, List.filter_cons, same]

/-! ## Trimming -/

variable {test : Char → Bool}

/-- A character at the front goes only with all that follows it. -/
theorem dropTrailing_cons (c : Char) (rest : List Char) :
    dropTrailing test (c :: rest) =
      if (dropTrailing test rest).isEmpty && test c then [] else c :: dropTrailing test rest := rfl

/-- A tail of characters that satisfy the test is dropped. -/
theorem dropTrailing_append {tail : List Char} (all : ∀ c ∈ tail, test c = true)
    (text : List Char) : dropTrailing test (text ++ tail) = dropTrailing test text := by
  induction text with
  | nil =>
    induction tail with
    | nil => rfl
    | cons c rest hypothesis =>
      have later := hypothesis fun d member => all d (List.mem_cons_of_mem _ member)
      rw [List.nil_append] at later ⊢
      rw [dropTrailing_cons, later, all c List.mem_cons_self]
      rfl
  | cons c rest hypothesis =>
    rw [List.cons_append, dropTrailing_cons, dropTrailing_cons, hypothesis]

/-- What is dropped is a tail of characters that satisfy the test. -/
theorem exists_dropTrailing_append (test : Char → Bool) (text : List Char) :
    ∃ tail, text = dropTrailing test text ++ tail ∧ ∀ c ∈ tail, test c = true := by
  induction text with
  | nil => exact ⟨[], rfl, by simp⟩
  | cons c rest hypothesis =>
    obtain ⟨tail, whole, all⟩ := hypothesis
    rw [dropTrailing_cons]
    split
    · rename_i dropped
      simp only [Bool.and_eq_true, List.isEmpty_iff] at dropped
      rw [dropped.1, List.nil_append] at whole
      refine ⟨c :: tail, by rw [whole]; rfl, ?_⟩
      intro d member
      rcases List.mem_cons.mp member with rfl | member
      · exact dropped.2
      · exact all d member
    · exact ⟨tail, by rw [List.cons_append, ← whole], all⟩

end FoldMark.Text
