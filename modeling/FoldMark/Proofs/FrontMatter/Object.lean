import FoldMark.Proofs.FrontMatter.Fence

/-!
# Objects as front matter

When an object at the start of a document has no end. The braces of a text are counted outside of
its strings, and the object ends where none is open any more: `closeAfter?_eq_none_iff`. With the
fences this tells which documents open front matter that they never close, and
`extract_eq_error_iff` proves that they are the ones that extraction refuses.
-/

namespace FoldMark.FrontMatter

open Text

/-! ## Braces -/

/-- What a character makes of what the reader is within and of the number of open braces. -/
def scanStep : ScanMode × Nat → Char → ScanMode × Nat
  | (.escaped, depth), _ => (.quoted, depth)
  | (.quoted, depth), c =>
    (if c = '\\' then .escaped else if c = '"' then .plain else .quoted, depth)
  | (.plain, depth), c =>
    (if c = '"' then .quoted else .plain,
      if c = '\x7b' then depth + 1 else if c = '\x7d' then depth - 1 else depth)

/-- No start of a text closes the braces that are open, of which there are `depth` already. -/
def StaysOpen (mode : ScanMode) (depth : Nat) (text : List Char) : Prop :=
  ∀ front back, text = front ++ back → front ≠ [] →
    front.foldl scanStep (mode, depth) ≠ (.plain, 0)

/-- A text stays open if its first character leaves it open and the others do. -/
theorem staysOpen_cons {mode : ScanMode} {depth : Nat} {c : Char} {rest : List Char} :
    StaysOpen mode depth (c :: rest) ↔
      scanStep (mode, depth) c ≠ (.plain, 0) ∧
        StaysOpen (scanStep (mode, depth) c).1 (scanStep (mode, depth) c).2 rest := by
  constructor
  · intro isOpen
    refine ⟨isOpen [c] rest rfl (List.cons_ne_nil c []), ?_⟩
    rintro front back rfl nonempty
    exact isOpen (c :: front) back rfl (List.cons_ne_nil c front)
  · rintro ⟨first, later⟩ front back whole nonempty
    cases front with
    | nil => exact absurd rfl nonempty
    | cons d front =>
      obtain ⟨rfl, rfl⟩ := List.cons.inj whole
      rw [List.foldl_cons]
      by_cases empty : front = []
      · simpa [empty] using first
      · exact later front back rfl empty

/-- The braces of a text close exactly if some start of it closes them. -/
theorem closeAfter?_eq_none_iff {mode : ScanMode} {depth : Nat} {text : List Char}
    (positive : 0 < depth) : closeAfter? mode depth text = none ↔ StaysOpen mode depth text := by
  induction text generalizing mode depth with
  | nil =>
    refine ⟨?_, fun _ => by cases mode <;> rfl⟩
    rintro - front back whole nonempty
    exact absurd (List.append_eq_nil_iff.mp whole.symm).1 nonempty
  | cons c rest hypothesis =>
    rw [staysOpen_cons]
    cases mode with
    | escaped => simp [closeAfter?, scanStep, hypothesis positive]
    | quoted =>
      have inside : scanStep (.quoted, depth) c ≠ (.plain, 0) := by
        intro closed
        have none : depth = 0 := congrArg Prod.snd closed
        omega
      simp [closeAfter?, inside, hypothesis positive]
      rfl
    | plain =>
      by_cases closes : c = '\x7d' ∧ depth ≤ 1
      · obtain ⟨rfl, last⟩ := closes
        obtain rfl : depth = 1 := by omega
        simp [closeAfter?, scanStep]
      · have more : 0 < (scanStep (.plain, depth) c).2 := by
          simp only [scanStep]
          by_cases brace : c = '\x7d'
          · have others : ¬depth ≤ 1 := fun last => closes ⟨brace, last⟩
            rw [brace, if_neg (by decide), if_pos rfl]
            omega
          · rw [if_neg brace]
            split <;> omega
        have inside : scanStep (.plain, depth) c ≠ (.plain, 0) := by
          intro closed
          rw [closed] at more
          exact absurd more (Nat.lt_irrefl 0)
        have step : closeAfter? .plain depth (c :: rest) =
            (closeAfter? (scanStep (.plain, depth) c).1 (scanStep (.plain, depth) c).2 rest).map
              (· + 1) := by
          simp [closeAfter?, scanStep, closes]
        rw [step, Option.map_eq_none_iff, hypothesis more]
        exact ⟨fun later => ⟨inside, later⟩, And.right⟩

/-! ## Documents with an object that is not closed -/

/-- A document whose content is an object without an end. -/
structure UnclosedObject where
  /-- A byte order mark, or nothing. -/
  mark : List Char
  /-- Blank lines. -/
  before : List Char
  /-- The object, after its brace. -/
  rest : List Char
  /-- There is at most one byte order mark. -/
  isMark : mark = [] ∨ mark = ['\uFEFF']
  /-- The lines before the object are blank. -/
  before_blank : isBlankText before = true
  /-- The object starts a line. -/
  before_ends : EndsLine before
  /-- No start of the object closes its brace. -/
  rest_open : StaysOpen .plain 1 rest

namespace UnclosedObject

/-- What stands before the object. -/
def front (unclosed : UnclosedObject) : List Char := unclosed.mark ++ unclosed.before

/-- The document. -/
def text (unclosed : UnclosedObject) : List Char := unclosed.front ++ '\x7b' :: unclosed.rest

variable (unclosed : UnclosedObject)

/-- The content starts at the object. -/
theorem drop_contentStart :
    unclosed.text.drop (contentStart unclosed.text) = '\x7b' :: unclosed.rest := by
  have start : contentStart unclosed.text = unclosed.front.length :=
    contentStart_append unclosed.isMark unclosed.before_blank unclosed.before_ends (by decide)
      (by decide)
  rw [start, text, List.drop_left]

end UnclosedObject

/-- Fences of a notation do not start with a brace. -/
theorem closers?_brace (kind : Kind) (line : List Char) :
    kind.closers? ('\x7b' :: line) = none := by
  have keeps : ∀ text : List Char, ∃ rest, trimRight ('\x7b' :: text) = '\x7b' :: rest := by
    intro text
    exact ⟨trimRight text, by rw [trimRight, dropTrailing_cons]; simp [isBlank]; rfl⟩
  obtain ⟨rest, trimmed⟩ := keeps line
  rw [Option.eq_none_iff_forall_ne_some]
  intro closers opens
  obtain ⟨fence, member, same, _⟩ := closers?_eq_some_iff.mp opens
  rw [trimmed] at same
  cases kind <;> simp [Kind.fences] at member
  case json => rcases member with rfl | rfl <;> simp at same
  case yaml => subst member; simp at same
  case toml => rcases member with rfl | rfl <;> simp at same

/-- Extraction refuses a document exactly if the search for front matter does. -/
theorem extract_eq_error_iff_find? {kind : Kind} {document : List Char} {error : Unclosed} :
    extract (some kind) document = .error error ↔
      find? kind (document.drop (contentStart document)) = .error error := by
  rw [extract, locate?_eq]
  cases find? kind (document.drop (contentStart document)) with
  | error other =>
    constructor
    all_goals
      rintro ⟨⟩
      rfl
  | ok found =>
    cases found
    all_goals
      constructor
      all_goals
        intro impossible
        cases impossible

/-- The search fails where a fence is not closed, or in JSON where no fence is but an object is not
closed. -/
theorem find?_eq_error_iff {kind : Kind} {text : List Char} {error : Unclosed} :
    find? kind text = .error error ↔ fenced? kind (lines text) = .error error ∨
      kind = .json ∧ fenced? .json (lines text) = .ok none ∧ object? text = .error error := by
  constructor
  · intro refused
    cases kind with
    | refdef => cases refused
    | json =>
      cases fenced : fenced? .json (lines text) with
      | error other =>
        rw [find?_of_fenced?_error fenced] at refused
        exact Or.inl refused
      | ok found =>
        cases found with
        | none =>
          simp only [find?, fenced] at refused
          exact Or.inr ⟨rfl, rfl, refused⟩
        | some found =>
          rw [find?_of_fenced?_ok fenced] at refused
          cases refused
    | yaml => exact Or.inl refused
    | toml => exact Or.inl refused
  · rintro (fenced | ⟨rfl, fenced, refused⟩)
    · exact find?_of_fenced?_error fenced
    · simp only [find?, fenced]
      exact refused

/-- A text that starts with a brace has no fence in its first line. -/
theorem fenced?_lines_brace (kind : Kind) (rest : List Char) :
    fenced? kind (lines ('\x7b' :: rest)) = .ok none := by
  cases later : lines rest with
  | nil =>
    rw [lines, if_neg (by decide), later]
    exact fenced?_of_closers?_eq_none (closers?_brace kind [])
  | cons line others =>
    rw [lines_cons_of_ne (by decide) later]
    exact fenced?_of_closers?_eq_none (closers?_brace kind line)

/-- An object is refused exactly if it never closes. -/
theorem object?_eq_error_iff {text : List Char} {error : Unclosed} :
    object? text = .error error ↔
      ∃ rest, text = '\x7b' :: rest ∧ StaysOpen .plain 1 rest ∧ error = .braces := by
  constructor
  · intro refused
    unfold object? at refused
    split at refused
    case h_2 => cases refused
    case h_1 rest =>
      cases endless : closeAfter? .plain 0 ('\x7b' :: rest) with
      | some count =>
        rw [endless] at refused
        cases refused
      | none =>
        rw [endless] at refused
        cases refused
        have later : closeAfter? .plain 1 rest = none := by simpa [closeAfter?] using endless
        exact ⟨rest, rfl, (closeAfter?_eq_none_iff (by decide)).mp later, rfl⟩
  · rintro ⟨rest, rfl, isOpen, rfl⟩
    have later := (closeAfter?_eq_none_iff (by decide)).mpr isOpen
    have endless : closeAfter? .plain 0 ('\x7b' :: rest) = none := by simp [closeAfter?, later]
    rw [object?, endless]

/-! ## Documents that are refused -/

/-- A document opens front matter of a notation and never closes it, which is the given error. -/
inductive NeverCloses : Kind → List Char → Unclosed → Prop where
  /-- No line after a fence closes it. -/
  | fence {kind : Kind} (unclosed : UnclosedFence kind) :
    NeverCloses kind unclosed.text (.fence kind unclosed.firstLine)
  /-- No brace closes an object. -/
  | object (unclosed : UnclosedObject) : NeverCloses .json unclosed.text .braces

/-- Extraction refuses exactly the documents that open front matter and never close it. -/
theorem extract_eq_error_iff {kind : Kind} {document : List Char} {error : Unclosed} :
    extract (some kind) document = .error error ↔ NeverCloses kind document error := by
  rw [extract_eq_error_iff_find?, find?_eq_error_iff]
  constructor
  · rintro (fenced | ⟨rfl, -, refused⟩)
    · obtain ⟨unclosed, rfl, rfl⟩ := exists_unclosedFence fenced
      exact .fence unclosed
    · obtain ⟨rest, content, isOpen, rfl⟩ := object?_eq_error_iff.mp refused
      obtain ⟨mark, gap, text, rfl, isMark, isGap, start⟩ := exists_front document
      obtain rfl : text = '\x7b' :: rest := start.symm.trans content
      have ended : EndsLine gap := isGap.ended.resolve_left (List.cons_ne_nil _ _)
      exact .object ⟨mark, gap, rest, isMark, isGap.blank, ended, isOpen⟩
  · rintro (unclosed | unclosed)
    · exact Or.inl unclosed.fenced?_content
    · rw [unclosed.drop_contentStart]
      refine Or.inr ⟨rfl, fenced?_lines_brace .json unclosed.rest, ?_⟩
      exact object?_eq_error_iff.mpr ⟨unclosed.rest, rfl, unclosed.rest_open, rfl⟩

end FoldMark.FrontMatter
