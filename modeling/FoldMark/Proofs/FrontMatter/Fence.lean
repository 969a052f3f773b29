import FoldMark.Proofs.FrontMatter.Gap

/-!
# Fenced front matter

The documents that have front matter between fences, told by their parts: `Fenced` is a document
whose first line that is not blank is a fence which a later line closes, and `UnclosedFence` one
where no later line does. `extract_fenced_exact` proves that extraction gives exactly the parts of
the first kind, that whatever is found between fences comes from such a document, and that the
second kind is refused or passed over.
-/

namespace FoldMark.FrontMatter

open Text

/-! ## Documents by their parts -/

/-- The front of a document up to the end of the line with a fence. -/
structure Opening (kind : Kind) where
  /-- A byte order mark, or nothing. -/
  mark : List Char
  /-- Blank lines. -/
  before : List Char
  /-- The fence, and the fences that close it. -/
  fence : String × List String
  /-- What follows the fence on its line. -/
  padding : List Char
  /-- There is at most one byte order mark. -/
  isMark : mark = [] ∨ mark = ['\uFEFF']
  /-- The lines before the fence are blank. -/
  before_blank : isBlankText before = true
  /-- The fence starts a line. -/
  before_ends : EndsLine before
  /-- The fence is one of the notation. -/
  fence_mem : fence ∈ kind.fences
  /-- Only blank characters follow the fence. -/
  padding_blank : isBlankText padding = true
  /-- They are on its line. -/
  padding_line : '\n' ∉ padding

/-- A document with front matter between fences. -/
structure Fenced (kind : Kind) extends Opening kind where
  /-- What stands between the fences. -/
  payload : List Char
  /-- The fence that closes it. -/
  closer : String
  /-- What follows the closing fence on its line. -/
  closerPadding : List Char
  /-- Blank lines and the text after them, unless the line of the closing fence is the last. -/
  rest : Option (List Char × List Char)
  /-- The closing fence starts a line. -/
  payload_ends : EndsLine payload
  /-- No line before it closes the front matter. -/
  payload_open : ∀ line ∈ lines payload, trimRight line ∉ fence.2.map String.toList
  /-- It closes the fence before. -/
  closer_mem : closer ∈ fence.2
  /-- Only blank characters follow it. -/
  closerPadding_blank : isBlankText closerPadding = true
  /-- They are on its line. -/
  closerPadding_line : '\n' ∉ closerPadding
  /-- The text is what follows all blank lines. -/
  rest_gap : ∀ gap body, rest = some (gap, body) → IsGap gap body

/-- A document whose fence no later line closes. -/
structure UnclosedFence (kind : Kind) extends Opening kind where
  /-- The lines after the fence, unless its line is the last. -/
  later : Option (List Char)
  /-- No line closes the fence. -/
  later_open : ∀ text, later = some text →
    ∀ line ∈ lines text, trimRight line ∉ fence.2.map String.toList

namespace Opening

variable {kind : Kind}

/-- What stands before the fence. -/
def front (opening : Opening kind) : List Char := opening.mark ++ opening.before

/-- The line of the fence, without its end. -/
def line (opening : Opening kind) : List Char := opening.fence.1.toList ++ opening.padding

end Opening

namespace Fenced

variable {kind : Kind}

/-- The line of the closing fence, with its end if there is one. -/
def lastLine (fenced : Fenced kind) : List Char :=
  fenced.closer.toList ++ fenced.closerPadding ++ if fenced.rest.isSome then ['\n'] else []

/-- The blank lines after the front matter. -/
def gap (fenced : Fenced kind) : List Char := (fenced.rest.map Prod.fst).getD []

/-- The text after the front matter. -/
def body (fenced : Fenced kind) : List Char := (fenced.rest.map Prod.snd).getD []

/-- The characters from the fence to the text. -/
def block (fenced : Fenced kind) : List Char :=
  fenced.line ++ '\n' :: fenced.payload ++ fenced.lastLine ++ fenced.gap

/-- The document. -/
def text (fenced : Fenced kind) : List Char := fenced.front ++ fenced.block ++ fenced.body

/-- What is found between its fences. -/
def found (fenced : Fenced kind) : Found :=
  ⟨fenced.payload, (fenced.line ++ '\n' :: fenced.payload ++ fenced.lastLine).length⟩

/-- Its front matter, from the offset of the fence to that of the text. -/
def frontMatter (fenced : Fenced kind) : FrontMatter :=
  ⟨kind, fenced.payload, fenced.front.length, (fenced.front ++ fenced.block).length⟩

end Fenced

namespace UnclosedFence

variable {kind : Kind}

/-- The line of the fence, with its end if there is one. -/
def firstLine (unclosed : UnclosedFence kind) : List Char :=
  unclosed.line ++ if unclosed.later.isSome then ['\n'] else []

/-- The document. -/
def text (unclosed : UnclosedFence kind) : List Char :=
  unclosed.front ++ unclosed.firstLine ++ unclosed.later.getD []

end UnclosedFence

/-! ## Fences -/

variable {kind : Kind} {fence : String × List String} {line opener closer : List Char}
  {closers inner after later rest : List (List Char)}

/-- Fences do not end with blank characters. -/
theorem trimRight_of_mem_fences (member : fence ∈ kind.fences) :
    trimRight fence.1.toList = fence.1.toList ∧
      ∀ closer ∈ fence.2, trimRight closer.toList = closer.toList := by
  cases kind <;> simp only [Kind.fences, List.mem_cons, List.not_mem_nil, or_false] at member
  case json => rcases member with rfl | rfl <;> decide
  case yaml => subst member; decide
  case toml => rcases member with rfl | rfl <;> decide

/-- Fences start with a sign that is not blank, and stand on one line. -/
theorem fence_shape (member : fence ∈ kind.fences) :
    (∃ c rest, fence.1.toList = c :: rest ∧ isBlank c = false ∧ markSize [c] = 0) ∧
      '\n' ∉ fence.1.toList ∧ ∀ closer ∈ fence.2, closer.toList ≠ [] ∧ '\n' ∉ closer.toList := by
  cases kind <;> simp only [Kind.fences, List.mem_cons, List.not_mem_nil, or_false] at member
  case json =>
    rcases member with rfl | rfl <;> exact ⟨⟨_, _, rfl, by decide, by decide⟩, by decide, by decide⟩
  case yaml =>
    subst member
    exact ⟨⟨_, _, rfl, by decide, by decide⟩, by decide, by decide⟩
  case toml =>
    rcases member with rfl | rfl <;> exact ⟨⟨_, _, rfl, by decide, by decide⟩, by decide, by decide⟩

/-- The first fence of a notation that a line is, is the only one. -/
theorem find?_fences (member : fence ∈ kind.fences) :
    kind.fences.find? (fun other => other.1.toList == fence.1.toList) = some fence := by
  cases kind <;> simp only [Kind.fences, List.mem_cons, List.not_mem_nil, or_false] at member
  case json => rcases member with rfl | rfl <;> decide
  case yaml => subst member; decide
  case toml => rcases member with rfl | rfl <;> decide

/-- A line opens front matter exactly if a fence of the notation is left when it is trimmed. -/
theorem closers?_eq_some_iff :
    kind.closers? line = some closers ↔
      ∃ fence ∈ kind.fences, trimRight line = fence.1.toList ∧
        closers = fence.2.map String.toList := by
  constructor
  · intro opens
    obtain ⟨fence, found, same⟩ := Option.map_eq_some_iff.mp opens
    refine ⟨fence, List.mem_of_find?_eq_some found, ?_, same.symm⟩
    have equal := List.find?_some found
    exact (beq_iff_eq.mp equal).symm
  · rintro ⟨fence, member, trimmed, rfl⟩
    rw [Kind.closers?, trimmed, find?_fences member]
    rfl

/-- A line is trimmed to a word without blanks at its end if only blanks follow the word. -/
theorem trimRight_eq_iff {word : List Char} (kept : trimRight word = word) :
    trimRight line = word ↔ ∃ padding, line = word ++ padding ∧ isBlankText padding = true := by
  constructor
  · intro trimmed
    obtain ⟨padding, whole, blank⟩ := exists_dropTrailing_append isBlank line
    refine ⟨padding, ?_, List.all_eq_true.mpr blank⟩
    rw [← trimmed]
    exact whole
  · rintro ⟨padding, rfl, blank⟩
    have dropped := dropTrailing_append (List.all_eq_true.mp blank) word
    exact dropped.trans kept

/-- The end of a line does not matter to what is left when it is trimmed. -/
theorem trimRight_append_newline (line : List Char) :
    trimRight (line ++ ['\n']) = trimRight line :=
  dropTrailing_append (List.forall_mem_singleton.mpr rfl) line

/-! ## Front matter between fences -/

/-- Up to the first line that closes the fence, the lines are the payload. -/
theorem fenced?_closed (opens : kind.closers? opener = some closers)
    (inside : ∀ line ∈ inner, trimRight line ∉ closers) (closes : trimRight closer ∈ closers) :
    fenced? kind (opener :: (inner ++ closer :: after)) =
      .ok (some ⟨inner.flatten, size (opener :: inner ++ [closer])⟩) := by
  have taken : (inner ++ closer :: after).takeWhile
      (fun line => !closers.contains (trimRight line)) = inner := by
    rw [List.takeWhile_append_of_pos fun line member => by simpa using inside line member,
      List.takeWhile_cons_of_neg (by simpa using closes), List.append_nil]
  simp only [fenced?, opens, taken, List.drop_left]

/-- Without a line that closes the fence there is no front matter. -/
theorem fenced?_unclosed (opens : kind.closers? opener = some closers)
    (inside : ∀ line ∈ later, trimRight line ∉ closers) :
    fenced? kind (opener :: later) = .error (.fence kind opener) := by
  have taken : later.takeWhile (fun line => !closers.contains (trimRight line)) = later := by
    rw [← List.append_nil later, List.takeWhile_append_of_pos, List.takeWhile_nil]
    exact fun line member => by simpa using inside line member
  simp only [fenced?, opens, taken, List.drop_length]

/-- A first line that is no fence opens nothing. -/
theorem fenced?_of_closers?_eq_none (closed : kind.closers? opener = none) :
    fenced? kind (opener :: later) = .ok none := by
  rw [fenced?, closed]

/-- Any lines start with no fence, with one that no later line closes, or with one that the first
of some lines closes. -/
theorem fenced?_cases (kind : Kind) (all : List (List Char)) :
    fenced? kind all = .ok none ∨
      (∃ opener later closers, all = opener :: later ∧ kind.closers? opener = some closers ∧
        ∀ line ∈ later, trimRight line ∉ closers) ∨
      ∃ opener inner closer after closers, all = opener :: (inner ++ closer :: after) ∧
        kind.closers? opener = some closers ∧ (∀ line ∈ inner, trimRight line ∉ closers) ∧
        trimRight closer ∈ closers := by
  cases all with
  | nil => exact Or.inl rfl
  | cons opener later =>
    cases opens : kind.closers? opener with
    | none => exact Or.inl (fenced?_of_closers?_eq_none opens)
    | some closers =>
      right
      cases first : later.find? (fun line => closers.contains (trimRight line)) with
      | none =>
        have inside := List.find?_eq_none.mp first
        exact Or.inl ⟨opener, later, closers, rfl, opens, by simpa using inside⟩
      | some closer =>
        obtain ⟨closes, inner, after, rfl, inside⟩ := List.find?_eq_some_iff_append.mp first
        exact Or.inr ⟨opener, inner, closer, after, closers, rfl, opens, by simpa using inside,
          by simpa using closes⟩

/-- What is found between fences is the payload of lines that a fence closes. -/
theorem exists_of_fenced?_ok {all : List (List Char)} {found : Found}
    (present : fenced? kind all = .ok (some found)) :
    ∃ opener inner closer after closers, all = opener :: (inner ++ closer :: after) ∧
      kind.closers? opener = some closers ∧ (∀ line ∈ inner, trimRight line ∉ closers) ∧
      trimRight closer ∈ closers ∧
      found = ⟨inner.flatten, size (opener :: inner ++ [closer])⟩ := by
  rcases fenced?_cases kind all with none | ⟨opener, later, closers, cut, opens, inside⟩ |
    ⟨opener, inner, closer, after, closers, cut, opens, inside, closes⟩
  · rw [none] at present
    cases present
  · rw [cut, fenced?_unclosed opens inside] at present
    cases present
  · rw [cut, fenced?_closed opens inside closes] at present
    cases present
    exact ⟨opener, inner, closer, after, closers, cut, opens, inside, closes, rfl⟩

/-- Fences are looked for first, so what comes of them counts unless there are none. -/
theorem find?_eq_fenced? {text : List Char} (decided : fenced? kind (lines text) ≠ .ok none) :
    find? kind text = fenced? kind (lines text) := by
  cases kind
  case refdef =>
    rcases fenced?_cases .refdef (lines text) with none | ⟨_, _, _, _, opens, _⟩ |
      ⟨_, _, _, _, _, _, opens, _⟩
    · exact absurd none decided
    all_goals cases opens
  case json =>
    rw [find?]
    cases fenced : fenced? .json (lines text) with
    | error error => rfl
    | ok found =>
      cases found with
      | none => exact absurd fenced decided
      | some found => rfl
  case yaml => rfl
  case toml => rfl

/-- Front matter between fences is found. -/
theorem find?_of_fenced?_ok {text : List Char} {found : Found}
    (fenced : fenced? kind (lines text) = .ok (some found)) :
    find? kind text = .ok (some found) := by
  rw [find?_eq_fenced? (by simp [fenced]), fenced]

/-- Front matter without an end is found as little as any after it. -/
theorem find?_of_fenced?_error {text : List Char} {error : Unclosed}
    (fenced : fenced? kind (lines text) = .error error) : find? kind text = .error error := by
  rw [find?_eq_fenced? (by simp [fenced]), fenced]

/-! ## Openings -/

namespace Opening

variable (opening : Opening kind)

/-- The line of an opening is one line. -/
theorem newline_not_mem_line : '\n' ∉ opening.line := by
  have fence := (fence_shape opening.fence_mem).2.1
  simp [line, fence, opening.padding_line]

/-- It has characters. -/
theorem line_ne_nil : opening.line ≠ [] := by
  obtain ⟨c, rest, word, _⟩ := (fence_shape opening.fence_mem).1
  simp [line, word]

/-- It opens front matter. -/
theorem closers?_line :
    kind.closers? opening.line = some (opening.fence.2.map String.toList) := by
  have kept := (trimRight_of_mem_fences opening.fence_mem).1
  have trimmed := (trimRight_eq_iff kept).mpr ⟨opening.padding, rfl, opening.padding_blank⟩
  exact closers?_eq_some_iff.mpr ⟨opening.fence, opening.fence_mem, trimmed, rfl⟩

/-- The content of a document starts with its opening. -/
theorem contentStart_eq (tail : List Char) :
    contentStart (opening.front ++ (opening.line ++ tail)) = opening.front.length := by
  obtain ⟨c, rest, word, solid, noMark⟩ := (fence_shape opening.fence_mem).1
  rw [line, word]
  exact contentStart_append opening.isMark opening.before_blank opening.before_ends solid noMark

end Opening

/-- A fence at the start of the content of a document is its opening. -/
theorem exists_opening {document word tail : List Char}
    (content : document.drop (contentStart document) = word ++ tail) (inside : '\n' ∉ word)
    (opens : kind.closers? word = some closers) :
    ∃ opening : Opening kind, opening.line = word ∧
      opening.fence.2.map String.toList = closers ∧
      opening.front ++ (word ++ tail) = document := by
  obtain ⟨fence, member, trimmed, rfl⟩ := closers?_eq_some_iff.mp opens
  obtain ⟨padding, rfl, blank⟩ :=
    (trimRight_eq_iff (trimRight_of_mem_fences member).1).mp trimmed
  obtain ⟨mark, gap, rest, whole, isMark, isGap, start⟩ := exists_front document
  obtain rfl : rest = fence.1.toList ++ padding ++ tail := start.symm.trans content
  have nonempty : fence.1.toList ++ padding ++ tail ≠ [] := by
    obtain ⟨c, rest, word, _⟩ := (fence_shape member).1
    simp [word]
  have ended : EndsLine gap := isGap.ended.resolve_left nonempty
  simp only [List.mem_append, not_or] at inside
  exact ⟨⟨mark, gap, fence, padding, isMark, isGap.blank, ended, member, blank, inside.2⟩, rfl, rfl,
    whole.symm⟩

/-- The end of the line of a fence does not matter. -/
theorem closers?_append_newline : kind.closers? (line ++ ['\n']) = kind.closers? line := by
  rw [Kind.closers?, Kind.closers?, trimRight_append_newline]

/-! ## Documents with front matter between fences -/

namespace Fenced

variable (fenced : Fenced kind)

/-- The last line closes the front matter. -/
theorem closes_lastLine :
    trimRight fenced.lastLine ∈ fenced.fence.2.map String.toList := by
  have kept := (trimRight_of_mem_fences fenced.fence_mem).2 fenced.closer fenced.closer_mem
  have trimmed : trimRight fenced.lastLine = fenced.closer.toList := by
    refine (trimRight_eq_iff kept).mpr ⟨_, List.append_assoc .., ?_⟩
    have blank := fenced.closerPadding_blank
    rw [isBlankText] at blank ⊢
    rw [List.all_append, blank]
    split <;> decide
  rw [trimmed]
  exact List.mem_map_of_mem fenced.closer_mem

/-- It is one line, and what follows starts a new one. -/
theorem lines_lastLine_append :
    lines (fenced.lastLine ++ (fenced.gap ++ fenced.body)) =
      fenced.lastLine :: lines (fenced.gap ++ fenced.body) := by
  obtain ⟨nonempty, word⟩ := (fence_shape fenced.fence_mem).2.2 fenced.closer fenced.closer_mem
  have inside : '\n' ∉ fenced.closer.toList ++ fenced.closerPadding := by
    simp [word, fenced.closerPadding_line]
  rw [lastLine, gap, body]
  cases fenced.rest with
  | none => simpa [lines] using lines_last inside (by simp [nonempty])
  | some rest => simpa using lines_line inside (rest.1 ++ rest.2)

/-- The blank lines after the front matter are passed. -/
theorem blankSize_rest : blankSize (fenced.gap ++ fenced.body) = fenced.gap.length := by
  rw [gap, body]
  cases parts : fenced.rest with
  | none => rfl
  | some rest => exact blankSize_gap (fenced.rest_gap rest.1 rest.2 parts)

/-- The content, line after line. -/
theorem content_eq : fenced.block ++ fenced.body = fenced.line ++ '\n' ::
    (fenced.payload ++ (fenced.lastLine ++ (fenced.gap ++ fenced.body))) := by
  simp [block]

/-- The lines of the content are that of the fence, those of the payload, the last line and those
after it. -/
theorem lines_content :
    lines (fenced.block ++ fenced.body) = (fenced.line ++ ['\n']) ::
      (lines fenced.payload ++ fenced.lastLine :: lines (fenced.gap ++ fenced.body)) := by
  rw [content_eq, lines_line fenced.newline_not_mem_line, lines_append fenced.payload_ends,
    lines_lastLine_append]

/-- The content starts at the fence. -/
theorem contentStart_text : contentStart fenced.text = fenced.front.length := by
  rw [text, List.append_assoc, content_eq]
  exact fenced.toOpening.contentStart_eq _

/-- From there on the document is its content. -/
theorem drop_contentStart :
    fenced.text.drop (contentStart fenced.text) = fenced.block ++ fenced.body := by
  rw [contentStart_text, text, List.append_assoc, List.drop_left]

/-- What stands between the fences is found. -/
theorem fenced?_content :
    fenced? kind (lines (fenced.text.drop (contentStart fenced.text))) =
      .ok (some fenced.found) := by
  have opens := fenced.toOpening.closers?_line
  rw [← closers?_append_newline] at opens
  rw [fenced.drop_contentStart, lines_content,
    fenced?_closed opens fenced.payload_open fenced.closes_lastLine, flatten_lines]
  simp [found, size, flatten_lines]

/-- The text follows the gap after what is found. -/
theorem drop_found :
    fenced.text.drop (contentStart fenced.text + fenced.found.size) =
      fenced.gap ++ fenced.body := by
  rw [← List.drop_drop, drop_contentStart, content_eq, found]
  have parts : fenced.line ++ '\n' ::
      (fenced.payload ++ (fenced.lastLine ++ (fenced.gap ++ fenced.body))) =
        (fenced.line ++ '\n' :: fenced.payload ++ fenced.lastLine) ++
          (fenced.gap ++ fenced.body) := by simp
  rw [parts, List.drop_left]

/-- The front matter ends where the text starts. -/
theorem stop_eq :
    contentStart fenced.text + fenced.found.size + blankSize (fenced.gap ++ fenced.body) =
      (fenced.front ++ fenced.block).length := by
  rw [contentStart_text, blankSize_rest, found, block]
  simp only [List.length_append]
  omega

/-- Extraction gives the front matter and the text after it. -/
theorem extract_text :
    extract (some kind) fenced.text = .ok (some fenced.frontMatter, fenced.body) := by
  have located : locate? kind fenced.text = .ok (some fenced.frontMatter) := by
    rw [locate?_eq, find?_of_fenced?_ok fenced.fenced?_content]
    have front : (⟨kind, fenced.found.payload, contentStart fenced.text,
        contentStart fenced.text + fenced.found.size +
          blankSize (fenced.text.drop (contentStart fenced.text + fenced.found.size))⟩ :
            FrontMatter) = fenced.frontMatter := by
      rw [drop_found, stop_eq, contentStart_text]
      rfl
    exact congrArg (fun front => Except.ok (some front)) front
  have rest : FrontMatter.body (some fenced.frontMatter) fenced.text = fenced.body :=
    List.drop_left
  rw [extract, located, ← rest]
  rfl

end Fenced

/-- A line and those after it are a line without its end, and a gap and a text if it has an end. -/
theorem exists_rest
    (ended : (∃ front, closer = front ++ ['\n'] ∧ '\n' ∉ front) ∨ (after = [] ∧ '\n' ∉ closer)) :
    ∃ (word : List Char) (rest : Option (List Char × List Char)),
      '\n' ∉ word ∧ trimRight word = trimRight closer ∧
      closer = word ++ (if rest.isSome then ['\n'] else []) ∧
      after.flatten = (rest.map Prod.fst).getD [] ++ (rest.map Prod.snd).getD [] ∧
      ∀ gap body, rest = some (gap, body) → IsGap gap body := by
  rcases ended with ⟨front, rfl, oneLine⟩ | ⟨rfl, oneLine⟩
  · obtain ⟨gap, body, whole, isGap, _⟩ := exists_gap after.flatten
    refine ⟨front, some (gap, body), oneLine, (trimRight_append_newline front).symm, rfl, whole, ?_⟩
    rintro _ _ ⟨⟩
    exact isGap
  · exact ⟨closer, none, oneLine, rfl, (List.append_nil closer).symm, rfl, nofun⟩

/-- What is found between fences is between those of such a document. -/
theorem exists_fenced {document : List Char} {found : Found}
    (present : fenced? kind (lines (document.drop (contentStart document))) = .ok (some found)) :
    ∃ fenced : Fenced kind, fenced.text = document ∧ fenced.found = found := by
  obtain ⟨opener, inner, closer, after, closers, cut, opens, inside, closes, rfl⟩ :=
    exists_of_fenced?_ok present
  obtain ⟨same, ended⟩ := lines_eq_cons cut
  rcases ended with ⟨word, rfl, oneLine⟩ | ⟨none, _⟩
  case inr => simp at none
  rw [closers?_append_newline] at opens
  obtain ⟨innerLines, restLines, innerEnds⟩ := lines_eq_append same
  obtain ⟨afterLines, closerEnds⟩ := lines_eq_cons restLines
  have content : document.drop (contentStart document) =
      word ++ '\n' :: (inner ++ closer :: after).flatten := by
    rw [← flatten_lines (document.drop _), cut]
    simp
  obtain ⟨opening, rfl, rfl, whole⟩ := exists_opening content oneLine opens
  obtain ⟨last, rest, lastLine, same, rfl, afterText, isGap⟩ := exists_rest closerEnds
  obtain ⟨fence, member, trimmed⟩ := List.mem_map.mp closes
  obtain ⟨padding, rfl, blank⟩ := (trimRight_eq_iff
    ((trimRight_of_mem_fences opening.fence_mem).2 fence member)).mp (same.trans trimmed.symm)
  simp only [List.mem_append, not_or] at lastLine
  refine ⟨{ opening with
    payload := inner.flatten, closer := fence, closerPadding := padding, rest
    payload_ends := innerEnds (List.cons_ne_nil _ _), payload_open := by rwa [innerLines]
    closer_mem := member, closerPadding_blank := blank, closerPadding_line := lastLine.2
    rest_gap := isGap }, ?_, ?_⟩
  · rw [← whole, Fenced.text, List.append_assoc, Fenced.content_eq]
    simp [Fenced.lastLine, Fenced.gap, Fenced.body, afterText]
  · simp [Fenced.found, Fenced.lastLine, size]

/-! ## Documents with a fence that is not closed -/

namespace UnclosedFence

variable (unclosed : UnclosedFence kind)

/-- The content starts at the fence. -/
theorem drop_contentStart :
    unclosed.text.drop (contentStart unclosed.text) =
      unclosed.firstLine ++ unclosed.later.getD [] := by
  have parts : unclosed.firstLine ++ unclosed.later.getD [] = unclosed.line ++
      ((if unclosed.later.isSome then ['\n'] else []) ++ unclosed.later.getD []) :=
    List.append_assoc ..
  have start : contentStart unclosed.text = unclosed.front.length := by
    rw [text, List.append_assoc, parts]
    exact unclosed.toOpening.contentStart_eq _
  rw [start, text, List.append_assoc, List.drop_left]

/-- The fence is not closed. -/
theorem fenced?_content :
    fenced? kind (lines (unclosed.text.drop (contentStart unclosed.text))) =
      .error (.fence kind unclosed.firstLine) := by
  have opens := unclosed.toOpening.closers?_line
  rw [drop_contentStart, firstLine]
  cases present : unclosed.later with
  | none =>
    have cut := lines_last unclosed.newline_not_mem_line unclosed.line_ne_nil
    have alone : fenced? kind [unclosed.line] = .error (.fence kind unclosed.line) :=
      fenced?_unclosed opens nofun
    simpa [cut] using alone
  | some later =>
    rw [← closers?_append_newline] at opens
    have inside := unclosed.later_open later present
    simpa [lines_line unclosed.newline_not_mem_line] using fenced?_unclosed opens inside

/-- Extraction refuses the document. -/
theorem extract_text :
    extract (some kind) unclosed.text = .error (.fence kind unclosed.firstLine) := by
  rw [extract, locate?_eq, find?_of_fenced?_error unclosed.fenced?_content]
  rfl

end UnclosedFence

/-- A fence that is not closed is that of such a document. -/
theorem exists_unclosedFence {document : List Char} {error : Unclosed}
    (present : fenced? kind (lines (document.drop (contentStart document))) = .error error) :
    ∃ unclosed : UnclosedFence kind, unclosed.text = document ∧
      .fence kind unclosed.firstLine = error := by
  rcases fenced?_cases kind (lines (document.drop (contentStart document))) with
    none | ⟨opener, later, closers, cut, opens, inside⟩ |
      ⟨opener, inner, closer, after, closers, cut, opens, inside, closes⟩
  case inr.inr =>
    rw [cut, fenced?_closed opens inside closes] at present
    cases present
  · rw [none] at present
    cases present
  · rw [cut, fenced?_unclosed opens inside] at present
    cases present
    obtain ⟨same, ended⟩ := lines_eq_cons cut
    have content : document.drop (contentStart document) = opener ++ later.flatten := by
      rw [← flatten_lines (document.drop _), cut, List.flatten_cons]
    rcases ended with ⟨word, rfl, oneLine⟩ | ⟨rfl, oneLine⟩
    · rw [closers?_append_newline] at opens
      rw [List.append_assoc] at content
      obtain ⟨opening, rfl, rfl, whole⟩ := exists_opening content oneLine opens
      refine ⟨{ opening with later := some later.flatten, later_open := ?_ }, ?_, rfl⟩
      · rintro _ ⟨⟩
        rwa [same]
      · rw [← whole, UnclosedFence.text, List.append_assoc, UnclosedFence.firstLine]
        simp
    · obtain ⟨opening, rfl, rfl, whole⟩ := exists_opening content oneLine opens
      refine ⟨{ opening with later := none, later_open := nofun }, ?_, ?_⟩
      · rw [← whole, UnclosedFence.text, List.append_assoc, UnclosedFence.firstLine]
        simp
      · simp [UnclosedFence.firstLine]

/-! ## The law -/

/-- In every notation, a document made of an opening, a payload without a line that closes it, a
closing line, blank lines and a text is extracted to exactly that payload, those offsets and that
text; what is found between fences in any document is found in a document of this kind; and if no
line after the opening closes it, extraction refuses the document and sniffing passes over it. -/
theorem extract_fenced_exact (kind : Kind) :
    (∀ fenced : Fenced kind,
      extract (some kind) fenced.text = .ok (some fenced.frontMatter, fenced.body)) ∧
    (∀ document found,
      fenced? kind (lines (document.drop (contentStart document))) = .ok (some found) ↔
        ∃ fenced : Fenced kind, fenced.text = document ∧ fenced.found = found) ∧
    (∀ unclosed : UnclosedFence kind,
      extract (some kind) unclosed.text = .error (.fence kind unclosed.firstLine) ∧
      sniff (some kind) unclosed.text = (none, unclosed.text)) := by
  refine ⟨Fenced.extract_text, fun document found => ⟨exists_fenced, ?_⟩, fun unclosed => ?_⟩
  · rintro ⟨fenced, rfl, rfl⟩
    exact fenced.fenced?_content
  · have refused := unclosed.extract_text
    exact ⟨refused, by rw [sniff, refused]⟩

end FoldMark.FrontMatter
