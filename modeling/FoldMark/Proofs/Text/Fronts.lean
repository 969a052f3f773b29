import FoldMark.Proofs.Text.Pieces
import Mathlib.Data.List.TakeWhile

/-!
# Fronts of a text

The longest front of a text whose characters satisfy a test, and what follows it. Where a text is
put together of such a front and of a part that does not go on with it, they are these parts.
Trimming a text keeps its characters that are not blank, and its words do not depend on what
separates them at its ends. The words around a separator are those of the texts on both sides.
-/

namespace FoldMark.Text

variable {test : Char → Bool} {front back : List Char}

/-- The longest front whose items satisfy a test ends where one does not. -/
theorem takeWhile_append_of_stops {α : Type} {test : α → Bool} {front back : List α}
    (all : ∀ item ∈ front, test item = true) (stops : ∀ item ∈ back.head?, test item = false) :
    (front ++ back).takeWhile test = front := by
  rw [List.takeWhile_append_of_pos all]
  cases back with
  | nil => rw [List.takeWhile_nil, List.append_nil]
  | cons item back =>
    rw [List.takeWhile_cons_of_neg (by simpa using stops item rfl), List.append_nil]

/-- What follows the longest front whose items satisfy a test. -/
theorem dropWhile_append_of_stops {α : Type} {test : α → Bool} {front back : List α}
    (all : ∀ item ∈ front, test item = true) (stops : ∀ item ∈ back.head?, test item = false) :
    (front ++ back).dropWhile test = back := by
  rw [List.dropWhile_append_of_pos all]
  cases back with
  | nil => rfl
  | cons item back => exact List.dropWhile_cons_of_neg (by simpa using stops item rfl)

/-- The longest end whose items satisfy a test, read from the last item on. -/
theorem takeWhile_reverse_append {α : Type} {test : α → Bool} {front back : List α}
    (all : ∀ item ∈ back, test item = true)
    (stops : ∀ item ∈ front.getLast?, test item = false) :
    (front ++ back).reverse.takeWhile test = back.reverse := by
  rw [List.reverse_append]
  exact takeWhile_append_of_stops (by simpa using all) (by rwa [List.head?_reverse])

/-- What stands before the longest end whose items satisfy a test, read from its last item on. -/
theorem dropWhile_reverse_append {α : Type} {test : α → Bool} {front back : List α}
    (all : ∀ item ∈ back, test item = true)
    (stops : ∀ item ∈ front.getLast?, test item = false) :
    (front ++ back).reverse.dropWhile test = front.reverse := by
  rw [List.reverse_append]
  exact dropWhile_append_of_stops (by simpa using all) (by rwa [List.head?_reverse])

/-- A list is a longest end whose items satisfy a test and what stands before it. -/
theorem exists_end {α : Type} (test : α → Bool) (items : List α) :
    ∃ front back, items = front ++ back ∧ (∀ item ∈ back, test item = true) ∧
      ∀ item ∈ front.getLast?, test item = false := by
  have whole := congrArg List.reverse
    (List.takeWhile_append_dropWhile (p := test) (l := items.reverse))
  rw [List.reverse_append, List.reverse_reverse] at whole
  refine ⟨_, _, whole.symm, fun item inside => ?_, fun item last => ?_⟩
  · exact List.mem_takeWhile_imp (List.mem_reverse.mp inside)
  · have fails := List.head?_dropWhile_not test items.reverse
    rw [List.getLast?_reverse] at last
    rw [Option.mem_def.mp last] at fails
    exact fails

/-- What follows the longest front whose characters satisfy a test does not go on with it. -/
theorem stops_of_drop (test : Char → Bool) (text : List Char) :
    ∀ c ∈ (text.drop (text.takeWhile test).length).head?, test c = false := by
  induction text with
  | nil => exact nofun
  | cons first text hypothesis =>
    cases here : test first with
    | true => simpa [here] using hypothesis
    | false => simp [here]

/-- There is one last character that fails a test. -/
theorem eq_of_last {other tail last : List Char} {c d : Char}
    (same : front ++ c :: tail = other ++ d :: last) (here : test c = false)
    (all : ∀ c ∈ tail, test c = true) (there : test d = false) (rest : ∀ c ∈ last, test c = true) :
    front = other ∧ c = d := by
  have dropped : ∀ {front tail : List Char} {c : Char}, test c = false →
      (∀ c ∈ tail, test c = true) →
      (front ++ c :: tail).reverse.dropWhile test = c :: front.reverse := by
    intro front tail c stops all
    have whole : (front ++ c :: tail).reverse = tail.reverse ++ c :: front.reverse := by simp
    rw [whole]
    exact dropWhile_append_of_stops (by simpa using all) (by simpa using stops)
  have mirrored : c :: front.reverse = d :: other.reverse := by
    rw [← dropped here all, same, dropped there rest]
  obtain ⟨own, fronts⟩ := List.cons.inj mirrored
  exact ⟨List.reverse_inj.mp fronts, own⟩

/-- A text that ends in what lacks a character has what stands behind that character at its end. -/
theorem exists_of_notMem {front back other behind : List Char} {mark : Char}
    (same : front ++ back = other ++ mark :: behind) (absent : mark ∉ back) :
    ∃ middle, front = other ++ mark :: middle ∧ behind = middle ++ back := by
  rcases List.append_eq_append_iff.mp same with ⟨middle, -, rfl⟩ | ⟨middle, rfl, apart⟩
  · exact absurd (List.mem_append_right middle List.mem_cons_self) absent
  · cases middle with
    | nil =>
      rw [List.nil_append] at apart
      exact absurd (apart ▸ List.mem_cons_self) absent
    | cons c middle =>
      obtain ⟨rfl, rfl⟩ := List.cons.inj apart
      exact ⟨middle, rfl, rfl⟩

/-- Trimming adds nothing. -/
theorem mem_of_mem_trimBy {text : List Char} {c : Char} (inside : c ∈ trimBy test text) :
    c ∈ text := by
  obtain ⟨tail, whole, -⟩ := exists_dropTrailing_append test (text.dropWhile test)
  exact (List.dropWhile_suffix test).subset (whole ▸ List.mem_append_left tail inside)

/-- Spaces and tabs are blank. -/
theorem isBlank_of_isSpaceOrTab {c : Char} (space : isSpaceOrTab c = true) : isBlank c = true := by
  rw [isSpaceOrTab, Bool.or_eq_true, beq_iff_eq, beq_iff_eq] at space
  rcases space with rfl | rfl <;> decide

/-! ## Trimming -/

/-- The characters of a text that are not blank. -/
def solid (text : List Char) : List Char := text.filter fun c => !isBlank c

/-- The characters of two texts. -/
theorem solid_append (first second : List Char) :
    solid (first ++ second) = solid first ++ solid second := List.filter_append ..

/-- A text has no characters but blanks. -/
theorem solid_eq_nil_iff : solid text = [] ↔ ∀ c ∈ text, isBlank c = true := by
  simp [solid, List.filter_eq_nil_iff]

/-- Trimming the end keeps what is not blank. -/
theorem solid_trimRight (text : List Char) : solid (trimRight text) = solid text := by
  obtain ⟨tail, whole, blank⟩ := exists_dropTrailing_append isBlank text
  rw [trimRight]
  conv => rhs; rw [whole, solid_append, solid_eq_nil_iff.mpr blank, List.append_nil]

/-- Trimming keeps what is not blank. -/
theorem solid_trim (text : List Char) : solid (trim text) = solid text := by
  have front : solid (text.takeWhile isBlank) = [] :=
    solid_eq_nil_iff.mpr fun c member => List.mem_takeWhile_imp member
  have back : solid (trim text) = solid (text.dropWhile isBlank) :=
    solid_trimRight (text.dropWhile isBlank)
  rw [back]
  conv =>
    rhs
    rw [← List.takeWhile_append_dropWhile (p := isBlank) (l := text), solid_append, front,
      List.nil_append]

/-- The end is trimmed to its last character that is not blank. -/
theorem trimRight_of_stops (stops : ∀ c ∈ text.getLast?, isBlank c = false) :
    trimRight text = text := by
  obtain ⟨tail, whole, blank⟩ := exists_dropTrailing_append isBlank text
  cases tail.eq_nil_or_concat with
  | inl none =>
    rw [none, List.append_nil] at whole
    exact whole.symm
  | inr some =>
    obtain ⟨front, last, rfl⟩ := some
    rw [List.concat_eq_append] at whole blank
    have isLast : last ∈ text.getLast? := by
      rw [whole]
      simp
    have stopped := stops last isLast
    rw [blank last (by simp)] at stopped
    cases stopped

/-- Trimming the end first changes nothing. -/
theorem trim_trimRight (text : List Char) : trim (trimRight text) = trim text := by
  obtain ⟨tail, whole, blank⟩ := exists_dropTrailing_append isBlank text
  have ended : dropTrailing isBlank (tail.dropWhile isBlank) = dropTrailing isBlank [] := by
    rw [List.dropWhile_eq_nil_iff.mpr blank]
  rw [trimRight]
  conv => rhs; rw [whole]
  simp only [trim, trimBy, List.dropWhile_append]
  split
  · rename_i empty
    rw [List.isEmpty_iff.mp empty, ended]
  · rw [dropTrailing_append blank]

/-! ## Words -/

variable {separates : Char → Bool}

/-- A text without separators is one run. -/
theorem splitRuns_of_forall {text : List Char} (nonempty : text ≠ [])
    (none : ∀ c ∈ text, separates c = false) : splitRuns separates text = [text] := by
  induction text with
  | nil => exact absurd rfl nonempty
  | cons c rest hypothesis =>
    rw [List.forall_mem_cons] at none
    rw [splitRuns.eq_def]
    cases rest with
    | nil => simp [none.1, splitRuns]
    | cons d rest =>
      have later := hypothesis (List.cons_ne_nil d rest) none.2
      have second := (List.forall_mem_cons.mp none.2).1
      simp [none.1, second, later]

/-- What separates words at the front is not seen. -/
theorem splitRuns_append_left (all : ∀ c ∈ front, separates c = true) (text : List Char) :
    splitRuns separates (front ++ text) = splitRuns separates text := by
  induction front with
  | nil => rfl
  | cons c front hypothesis =>
    rw [List.forall_mem_cons] at all
    rw [List.cons_append, splitRuns.eq_def]
    dsimp only
    rw [if_pos all.1, hypothesis all.2]

/-- What separates words at the end is not seen. -/
theorem splitRuns_append_right (all : ∀ c ∈ back, separates c = true) (text : List Char) :
    splitRuns separates (text ++ back) = splitRuns separates text := by
  have none : splitRuns separates back = [] := by
    have same := splitRuns_append_left all []
    rwa [List.append_nil] at same
  induction text with
  | nil => exact none
  | cons c text hypothesis =>
    rw [List.cons_append, splitRuns.eq_def separates (c :: (text ++ back)),
      splitRuns.eq_def separates (c :: text)]
    dsimp only
    rw [hypothesis]
    cases text with
    | nil => cases back <;> rfl
    | cons d text => cases splitRuns separates (d :: text) <;> rfl

/-- A text that starts with a word has one. -/
theorem splitRuns_cons_ne_nil {c : Char} (inside : separates c = false) (rest : List Char) :
    splitRuns separates (c :: rest) ≠ [] := by
  rw [splitRuns.eq_def]
  dsimp only
  rw [if_neg (by simp [inside])]
  split
  · split <;> simp
  · simp

/-- The words around a separator are those before it and those behind it. -/
theorem splitRuns_append {separator : Char} (isSeparator : separates separator = true)
    (front back : List Char) :
    splitRuns separates (front ++ separator :: back) =
      splitRuns separates front ++ splitRuns separates back := by
  induction front with
  | nil => exact splitRuns_append_left (List.forall_mem_singleton.mpr isSeparator) back
  | cons c front hypothesis =>
    rw [List.cons_append, splitRuns.eq_def separates (c :: (front ++ separator :: back)),
      splitRuns.eq_def separates (c :: front)]
    dsimp only
    split
    · exact hypothesis
    · rw [hypothesis]
      cases front with
      | nil => cases splitRuns separates back <;> simp [splitRuns, isSeparator]
      | cons d front =>
        cases runs : splitRuns separates (d :: front) with
        | nil =>
          cases ends : separates d with
          | true => cases splitRuns separates back <;> simp [ends]
          | false => exact absurd runs (splitRuns_cons_ne_nil ends front)
        | cons word words =>
          simp only [List.cons_append]
          split <;> rfl

/-- Trimming keeps the words of a text if all that it drops separates words. -/
theorem splitRuns_trimBy (text : List Char) (all : ∀ c ∈ text, test c = true → separates c = true) :
    splitRuns separates (trimBy test text) = splitRuns separates text := by
  obtain ⟨tail, whole, dropped⟩ := exists_dropTrailing_append test (text.dropWhile test)
  have parts := List.takeWhile_append_dropWhile (p := test) (l := text)
  have frontDropped : ∀ c ∈ text.takeWhile test, separates c = true := fun c inside =>
    all c (List.takeWhile_prefix test |>.subset inside) (List.mem_takeWhile_imp inside)
  have tailDropped : ∀ c ∈ tail, separates c = true := fun c inside =>
    all c (List.dropWhile_suffix test |>.subset (whole ▸ List.mem_append_right _ inside))
      (dropped c inside)
  conv => rhs; rw [← parts, splitRuns_append_left frontDropped, whole,
    splitRuns_append_right tailDropped]
  rfl

end FoldMark.Text
