import FoldMark.Proofs.FrontMatter.Fence

/-!
# The extent of front matter

The notations look for front matter in different ways: line by line, from fence to fence, or brace
by brace. Whatever is found takes characters from the front of the content, and its payload is a run
of them (`liesIn_of_find?`). So extraction cuts every document into what is passed over, the front
matter and the text, in all notations alike: `extract_partitions`.
-/

namespace FoldMark.FrontMatter

open Text

variable {kind : Kind} {document text : List Char} {found : Found} {front back : List (List Char)}

/-- What is found takes characters from the front of a text, and its payload is a run of them. -/
structure Found.LiesIn (found : Found) (text : List Char) : Prop where
  /-- It takes a character at least. -/
  pos : 0 < found.size
  /-- It takes no more than there are. -/
  le : found.size ≤ text.length
  /-- Its payload is a run of them. -/
  payload : found.payload <:+: text.take found.size

/-- A text that is passed over: a byte order mark or nothing, and blank lines. -/
def IsPassed (text : List Char) : Prop :=
  ∃ mark gap, text = mark ++ gap ∧ (mark = [] ∨ mark = ['\uFEFF']) ∧
    isBlankText gap = true ∧ EndsLine gap

/-! ## What is found in each way -/

/-- What takes whole lines from the front of a text, and has its payload among them. -/
theorem liesIn_of_lines (cut : lines text = front ++ back) (takes : found.size = size front)
    (nonempty : front.flatten ≠ []) (payload : found.payload <:+: front.flatten) :
    found.LiesIn text := by
  have whole : text = front.flatten ++ back.flatten := by
    rw [← flatten_lines text, cut, List.flatten_append]
  have taken : text.take found.size = front.flatten := by
    rw [takes, size, whole, List.take_left]
  refine ⟨?_, ?_, ?_⟩
  · rw [takes]
    exact List.length_pos_iff.mpr nonempty
  · rw [takes, size, whole, List.length_append]
    exact Nat.le_add_right _ _
  · rw [taken]
    exact payload

/-- Front matter between fences takes the lines of both and those between. -/
theorem liesIn_of_fenced? (present : fenced? kind (lines text) = .ok (some found)) :
    found.LiesIn text := by
  obtain ⟨opener, inner, closer, after, closers, cut, opens, -, -, rfl⟩ :=
    exists_of_fenced?_ok present
  have split : lines text = (opener :: inner ++ [closer]) ++ after := by simp [cut]
  have opener_ne_nil : opener ≠ [] := by
    rintro rfl
    obtain ⟨fence, member, trimmed, -⟩ := closers?_eq_some_iff.mp opens
    obtain ⟨c, rest, word, -⟩ := (fence_shape member).1
    rw [word] at trimmed
    cases trimmed
  exact liesIn_of_lines split rfl (by simp [opener_ne_nil]) ⟨opener, closer, by simp⟩

/-- Braces that close do so at a character of the text. -/
theorem closeAfter?_bounds {mode : ScanMode} {depth count : Nat}
    (closes : closeAfter? mode depth text = some count) : 0 < count ∧ count ≤ text.length := by
  induction text generalizing mode depth count with
  | nil => cases mode <;> cases closes
  | cons c rest hypothesis =>
    have later : ∀ {mode : ScanMode} {depth : Nat},
        (closeAfter? mode depth rest).map (· + 1) = some count →
          0 < count ∧ count ≤ (c :: rest).length := by
      intro mode depth found
      obtain ⟨before, inner, rfl⟩ := Option.map_eq_some_iff.mp found
      have within := (hypothesis inner).2
      rw [List.length_cons]
      omega
    cases mode with
    | escaped => exact later closes
    | quoted => exact later closes
    | plain =>
      rw [closeAfter?] at closes
      split at closes
      · obtain rfl := Option.some.inj closes
        simp
      · exact later closes

/-- The first line of a text is no longer than the text. -/
theorem length_headD_lines_le (text : List Char) :
    ((lines text).headD []).length ≤ text.length := by
  have total := congrArg List.length (flatten_lines text)
  cases cut : lines text with
  | nil => simp
  | cons line others =>
    rw [cut, List.flatten_cons, List.length_append] at total
    simp only [List.headD_cons]
    omega

/-- An object takes its characters and the rest of its last line. -/
theorem liesIn_of_object? (present : object? text = .ok (some found)) : found.LiesIn text := by
  unfold object? at present
  split at present
  · rename_i rest
    cases closes : closeAfter? .plain 0 ('\x7b' :: rest) with
    | none =>
      rw [closes] at present
      cases present
    | some count =>
      rw [closes] at present
      obtain ⟨-, same⟩ := Option.ite_none_right_eq_some.mp (Except.ok.inj present)
      obtain rfl := Option.some.inj same
      obtain ⟨pos, le⟩ := closeAfter?_bounds closes
      have lineEnd := length_headD_lines_le (('\x7b' :: rest).drop count)
      rw [List.length_drop] at lineEnd
      refine ⟨Nat.add_pos_left pos _, by dsimp only; omega, List.IsPrefix.isInfix ?_⟩
      exact List.take_prefix_take_left (Nat.le_add_right _ _)
  · cases present

/-- Without the blank lines at the end there are the lines before them. -/
theorem dropBlankTail_prefix (lines : List (List Char)) :
    definitions?.dropBlankTail lines <+: lines := by
  induction lines with
  | nil => exact List.prefix_refl []
  | cons line rest hypothesis =>
    rw [definitions?.dropBlankTail, List.foldr_cons]
    split
    · exact List.nil_prefix
    · exact List.cons_prefix_cons.mpr ⟨rfl, hypothesis⟩

/-- Definitions take their lines and the blank lines among and after them. -/
theorem liesIn_of_definitions? (present : definitions? (lines text) = some found) :
    found.LiesIn text := by
  rw [definitions?] at present
  obtain ⟨some, same⟩ := Option.ite_none_left_eq_some.mp present
  obtain rfl := Option.some.inj same
  obtain ⟨tail, whole⟩ := dropBlankTail_prefix
    ((lines text).takeWhile fun line => isBlankText line || isDefinition line)
  have payload := congrArg List.flatten whole
  rw [List.flatten_append] at payload
  refine liesIn_of_lines List.takeWhile_append_dropWhile.symm rfl ?_ ⟨[], tail.flatten, payload⟩
  intro none
  rw [none, List.append_eq_nil_iff] at payload
  exact some (List.isEmpty_iff.mpr payload.1)

/-- Whatever is found takes characters from the front, and its payload is a run of them. -/
theorem liesIn_of_find? (present : find? kind text = .ok (some found)) : found.LiesIn text := by
  cases kind with
  | refdef => exact liesIn_of_definitions? (Except.ok.inj present)
  | json =>
    cases fenced : fenced? .json (lines text) with
    | error error =>
      rw [find?_of_fenced?_error fenced] at present
      cases present
    | ok between =>
      cases between with
      | none =>
        simp only [find?, fenced] at present
        exact liesIn_of_object? present
      | some other =>
        rw [find?_of_fenced?_ok fenced] at present
        cases present
        exact liesIn_of_fenced? fenced
  | yaml => exact liesIn_of_fenced? present
  | toml => exact liesIn_of_fenced? present

/-! ## What extraction makes of it -/

/-- The front matter of a document is what is found in its content, with the gap behind it. -/
theorem locate?_eq_some_iff {front : FrontMatter} :
    locate? kind document = .ok (some front) ↔
      ∃ found, find? kind (document.drop (contentStart document)) = .ok (some found) ∧
        front = ⟨kind, found.payload, contentStart document, contentStart document + found.size +
          blankSize (document.drop (contentStart document + found.size))⟩ := by
  rw [locate?_eq]
  cases find? kind (document.drop (contentStart document)) with
  | error error => simp [bind, Except.bind]
  | ok found =>
    cases found with
    | none => simp [bind, Except.bind]
    | some found => simp [bind, Except.bind, eq_comm]

/-- What stands before the content of a document is passed over, if there is any content. -/
theorem isPassed_take (content : document.drop (contentStart document) ≠ []) :
    IsPassed (document.take (contentStart document)) := by
  obtain ⟨mark, gap, rest, whole, isMark, isGap, start⟩ := exists_front document
  have nonempty : rest ≠ [] := start ▸ content
  refine ⟨mark, gap, ?_, isMark, isGap.blank, isGap.ended.resolve_left nonempty⟩
  have parts := List.take_append_drop (contentStart document) document
  rw [start] at parts
  exact List.append_cancel_right (parts.trans whole)

/-- The blank lines in front of a text are part of it, and none is left behind them. -/
theorem blankSize_spec (text : List Char) :
    blankSize text ≤ text.length ∧ StartsSolid (text.drop (blankSize text)) := by
  obtain ⟨gap, rest, rfl, isGap, length⟩ := exists_gap text
  rw [← length, List.drop_left, List.length_append]
  exact ⟨Nat.le_add_right _ _, isGap.solid⟩

/-- What stands before a span, the span, and what stands behind it are the text. -/
theorem take_append_span {start stop : Nat} (ordered : start ≤ stop) (text : List Char) :
    text.take start ++ (text.take stop).drop start ++ text.drop stop = text := by
  have front := List.take_append_drop start (text.take stop)
  rw [List.take_take, Nat.min_eq_left ordered] at front
  rw [front, List.take_append_drop]

/-- The span of front matter is what was found and the gap behind it, of which its payload is a
run. -/
theorem isInfix_span {start behind : Nat} (lies : found.LiesIn (document.drop start)) :
    found.payload <:+: (document.take (start + found.size + behind)).drop start := by
  have spanned : (document.take (start + found.size + behind)).drop start =
      (document.drop start).take (found.size + behind) := by
    rw [List.drop_take, Nat.add_assoc, Nat.add_sub_cancel_left]
  rw [spanned]
  exact lies.payload.trans (List.take_prefix_take_left (Nat.le_add_right _ _)).isInfix

/-- A notation is looked for in every document as it says. -/
theorem extract_eq_ok_iff {found : Option FrontMatter × List Char} :
    extract (some kind) document = .ok found ↔
      ∃ front, locate? kind document = .ok front ∧ found = (front, body front document) := by
  rw [extract]
  cases locate? kind document with
  | error error => simp [bind, Except.bind]
  | ok front => simp [bind, Except.bind, pure, Except.pure, eq_comm]

/-- In every notation, sniffing gives what extraction does, and the document alone where extraction
refuses it. Where there is no front matter the text is the document. Where there is some, its span
is not empty and lies within the document, only a mark and blank lines stand before it, its payload
is a run of its characters, and the text is all that follows it and starts with no blank line. -/
theorem extract_partitions (kind : Kind) (document : List Char) :
    (∀ found, extract (some kind) document = .ok found → sniff (some kind) document = found) ∧
    (∀ error, extract (some kind) document = .error error →
      sniff (some kind) document = (none, document)) ∧
    (∀ text, extract (some kind) document = .ok (none, text) → text = document) ∧
    ∀ front text, extract (some kind) document = .ok (some front, text) →
      let span := (document.take front.stop).drop front.start
      front.kind = kind ∧ front.start < front.stop ∧ front.stop ≤ document.length ∧
        IsPassed (document.take front.start) ∧ front.payload <:+: span ∧
        text = document.drop front.stop ∧ StartsSolid text ∧
        document = document.take front.start ++ span ++ text := by
  refine ⟨fun found extracts => ?_, fun error refuses => ?_, fun text extracts => ?_,
    fun front text extracts => ?_⟩
  · rw [sniff, extracts]
  · rw [sniff, refuses]
  · obtain ⟨front, -, same⟩ := extract_eq_ok_iff.mp extracts
    obtain ⟨rfl, rfl⟩ := Prod.mk.inj same
    rfl
  · obtain ⟨_, located, same⟩ := extract_eq_ok_iff.mp extracts
    obtain ⟨rfl, rfl⟩ := Prod.mk.inj same
    obtain ⟨found, present, rfl⟩ := locate?_eq_some_iff.mp located
    have lies := liesIn_of_find? present
    have pos := lies.pos
    have le := lies.le
    rw [List.length_drop] at le
    have content : document.drop (contentStart document) ≠ [] := by
      rw [Ne, List.drop_eq_nil_iff]
      omega
    obtain ⟨fits, solid⟩ := blankSize_spec (document.drop (contentStart document + found.size))
    rw [List.length_drop] at fits
    rw [List.drop_drop] at solid
    refine ⟨rfl, ?_, ?_, isPassed_take content, isInfix_span lies, rfl, solid, ?_⟩
    · dsimp only
      omega
    · dsimp only
      omega
    · refine (take_append_span ?_ document).symm
      dsimp only
      omega

end FoldMark.FrontMatter
