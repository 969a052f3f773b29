import FoldMark.Markdown.Document
import FoldMark.Proofs.Markdown.Reading
import FoldMark.Proofs.Text.LineEnds

/-!
# Blank lines before a text

The language does not see the lines before a text that hold nothing but spaces and tabs: they move
its view down (`lowered_ofSource`), are passed before the first block (`readBlocks_front`), and
leave the tokens as they are (`parse_append`). Other blank characters are text to it.
-/

namespace FoldMark.Markdown

open Text

variable {front back : List Char}

/-! ## Sources -/

/-- The source ends a line where the text did. -/
theorem endsLine_normalizeSource (ended : EndsLine front) : EndsLine (normalizeSource front) := by
  rcases endsLine_normalizeNewlines ended with none | ⟨before, same⟩
  · exact Or.inl (by rw [normalizeSource, none]; rfl)
  · refine Or.inr ⟨before.map fun c => if c == '\x00' then '\uFFFD' else c, ?_⟩
    rw [normalizeSource, same, List.map_append]
    rfl

/-- After the end of a line, the source is written on its own. -/
theorem normalizeSource_append (ended : EndsLine front) (back : List Char) :
    normalizeSource (front ++ back) = normalizeSource front ++ normalizeSource back := by
  rw [normalizeSource, normalizeNewlines_append ended, List.map_append]
  rfl

/-- Of a text of spaces, tabs and line ends, spaces, tabs and line feeds are left. -/
theorem mem_normalizeSource {text : List Char} (void : isVoid text = true) :
    ∀ c ∈ normalizeSource text, isSpaceOrTab c = true ∨ c = '\n' := by
  intro c member
  obtain ⟨d, inside, same⟩ := List.mem_map.mp member
  have kind : isSpaceOrTab d = true ∨ d = '\n' := by
    rcases mem_normalizeNewlines inside with newline | ⟨listed, kept⟩
    · exact Or.inr newline
    · have one := List.all_eq_true.mp void d listed
      simpa [kept] using one
  have written : c = d := by
    rw [← same, if_neg]
    rcases kind with space | rfl
    · rintro null
      rw [beq_iff_eq.mp null] at space
      exact absurd space (by decide)
    · decide
  rwa [written]

/-! ## Lines -/

namespace Line

/-- Lines of a longer source are moved. -/
theorem ofTexts_add (size start : Nat) (texts : List (List Char)) :
    ofTexts (start + size) texts = (ofTexts start texts).map (Line.moved size) := by
  induction texts generalizing start with
  | nil => rfl
  | cons text rest hypothesis =>
    simp only [ofTexts, Nat.add_right_comm start size, hypothesis]
    split
    · rfl
    · rfl

/-- A line of spaces and tabs. -/
def IsBlankRow (text : List Char) : Prop :=
  ∃ space, text = space ++ ['\n'] ∧ ∀ c ∈ space, isSpaceOrTab c = true

/-- Such a line is a blank line, whatever follows. -/
theorem ofTexts_cons {row : List Char} (blank : IsBlankRow row) (start : Nat)
    (texts : List (List Char)) :
    ∃ line : Line, line.isBlank = true ∧
      ofTexts start (row :: texts) = line :: ofTexts (start + row.length) texts := by
  obtain ⟨space, rfl, spaces⟩ := blank
  have taken : (space ++ ['\n']).takeWhile isSpaceOrTab = space := by
    rw [List.takeWhile_append_of_pos spaces, List.takeWhile_cons_of_neg (by decide),
      List.append_nil]
  simp only [ofTexts, taken]
  rw [if_neg (by simp)]
  exact ⟨_, by simp [isBlank, textStart], rfl⟩

/-- Such lines are blank lines, whatever follows. -/
theorem ofTexts_append {rows : List (List Char)} (blank : ∀ row ∈ rows, IsBlankRow row)
    (start : Nat) (texts : List (List Char)) :
    ∃ front : List Line, front.length = rows.length ∧ (∀ line ∈ front, line.isBlank = true) ∧
      ofTexts start (rows ++ texts) = front ++ ofTexts (start + rows.flatten.length) texts := by
  induction rows generalizing start with
  | nil => exact ⟨[], rfl, nofun, rfl⟩
  | cons row rows hypothesis =>
    obtain ⟨line, isBlank, first⟩ :=
      ofTexts_cons (blank row List.mem_cons_self) start (rows ++ texts)
    obtain ⟨front, length, blanks, rest⟩ := hypothesis
      (fun row member => blank row (List.mem_cons_of_mem _ member)) (start + row.length)
    refine ⟨line :: front, congrArg (· + 1) length, List.forall_mem_cons.mpr ⟨isBlank, blanks⟩, ?_⟩
    rw [List.cons_append, first, rest, List.flatten_cons, List.length_append, Nat.add_assoc,
      List.cons_append]

end Line

/-! ## Views -/

/-- A text of spaces, tabs and line feeds, up to the end of a line. -/
structure IsFront (front : List Char) : Prop where
  /-- It holds no other characters. -/
  blank : ∀ c ∈ front, isSpaceOrTab c = true ∨ c = '\n'
  /-- It ends with a line. -/
  ended : EndsLine front

/-- Its lines are blank. -/
theorem IsFront.rows (isFront : IsFront front) : ∀ row ∈ lines front, Line.IsBlankRow row := by
  obtain ⟨blank, ended⟩ := isFront
  induction front with
  | nil => exact nofun
  | cons c rest hypothesis =>
    have later := hypothesis (fun d member => blank d (List.mem_cons_of_mem _ member))
      (endsLine_tail ended)
    by_cases newline : c = '\n'
    · subst newline
      rw [lines_cons_newline]
      exact List.forall_mem_cons.mpr ⟨⟨[], rfl, nofun⟩, later⟩
    · have space : isSpaceOrTab c = true :=
        (blank c List.mem_cons_self).resolve_right newline
      cases cut : lines rest with
      | nil =>
        rw [lines_eq_nil_iff.mp cut] at ended
        rcases ended with none | ⟨front, same⟩
        · cases none
        · have last := congrArg List.getLast? same
          simp only [List.getLast?_singleton, List.getLast?_append] at last
          exact absurd (Option.some.inj last) newline
      | cons line others =>
        rw [cut] at later
        obtain ⟨⟨spaces, rfl, all⟩, others⟩ := List.forall_mem_cons.mp later
        rw [lines_cons_of_ne newline cut]
        exact List.forall_mem_cons.mpr
          ⟨⟨c :: spaces, rfl, List.forall_mem_cons.mpr ⟨space, all⟩⟩, others⟩

/-- The view of a text after such a front is lowered. -/
theorem lowered_ofSource (features : Features) (isFront : IsFront front) (back : List Char) :
    let scope := Scope.ofSource features (front ++ back)
    Lowered (lines front).length front.length (Scope.ofSource features back) scope ∧
      ∀ n < (lines front).length, scope.isBlank n = true := by
  obtain ⟨blanks, length, blank, cut⟩ := Line.ofTexts_append isFront.rows 0 (lines back)
  rw [flatten_lines, Line.ofTexts_add, ← Text.lines_append isFront.ended] at cut
  refine ⟨⟨?_, ?_, fun n => ?_, ?_, rfl, rfl, rfl⟩, fun n inside => ?_⟩
  · simp [Scope.ofSource]
  · simp [Scope.ofSource]
  · simp [Scope.ofSource, cut, ← length, Nat.add_comm n, List.getElem?_append_right]
  · simp [Scope.ofSource, cut, length, Nat.add_comm]
  · rw [← length] at inside
    have first : (blanks ++ (Line.ofTexts 0 (lines back)).map (Line.moved front.length))[n]? =
        some blanks[n] := by
      rw [List.getElem?_append_left inside, List.getElem?_eq_getElem inside]
    have line : (Scope.ofSource features (front ++ back)).line n = blanks[n] := by
      simp only [Scope.line, Scope.ofSource, Array.getD_eq_getD_getElem?, List.getElem?_toArray,
        cut, first, Option.getD_some]
    rw [Scope.isBlank, line]
    exact blank _ (List.getElem_mem inside)

/-! ## Reading -/

namespace Block

variable {read : Reader} {scope : Scope} {level n : Nat}

/-- A blank line is passed before a block. -/
theorem readBlocks_blank (count : Nat) (sawBlank tight : Bool) (inside : n < scope.last)
    (blank : scope.isBlank n = true) :
    readBlocks read level scope scope.last (count + 1) n sawBlank tight =
      readBlocks read level scope scope.last (count + 1) (n + 1) sawBlank tight := by
  have passed : scope.skipBlank n = scope.skipBlank (n + 1) := by
    have more : scope.last - n = (scope.last - (n + 1)) + 1 := by omega
    rw [Scope.skipBlank, more, Scope.skipBlankWithin, if_pos (by simp [inside, blank])]
    rfl
  rw [readBlocks, readBlocks, if_neg (Nat.not_le.mpr inside), passed]
  by_cases ended : n + 1 ≥ scope.last
  · have last : scope.skipBlank (n + 1) = n + 1 := by
      rw [Scope.skipBlank, Nat.sub_eq_zero_of_le ended, Scope.skipBlankWithin]
    simp only [last, ended, decide_true, Bool.true_or, if_true]
  · rw [if_neg ended]

/-- Blank lines are passed before a block. -/
theorem readBlocks_front (rows count : Nat) (sawBlank tight : Bool) (inside : rows ≤ scope.last)
    (blank : ∀ n < rows, scope.isBlank n = true) :
    readBlocks read level scope scope.last (count + 1) 0 sawBlank tight =
      readBlocks read level scope scope.last (count + 1) rows sawBlank tight := by
  induction rows with
  | zero => rfl
  | succ rows hypothesis =>
    rw [hypothesis (Nat.le_of_succ_le inside) fun n below => blank n (Nat.lt_succ_of_lt below),
      readBlocks_blank count sawBlank tight inside (blank rows (Nat.lt_succ_self rows))]

/-- Where there are no more lines, there are no more blocks. -/
theorem readBlocks_add (advances : Advances read) {stop : Nat} (bound : stop ≤ scope.last)
    (count more : Nat) (sawBlank tight : Bool) (enough : stop ≤ n + count) :
    readBlocks read level scope stop (count + more) n sawBlank tight =
      readBlocks read level scope stop count n sawBlank tight := by
  induction more with
  | zero => rfl
  | succ more hypothesis =>
    rw [← hypothesis]
    exact readBlocks_succ advances bound (count + more) sawBlank tight (by omega)

end Block

open Block

/-- Reading passes the lines above a view if they are blank. -/
theorem readWithin_lowered {rows size : Nat} {top scope : Scope}
    (lowered : Lowered rows size top scope) (blank : ∀ n < rows, scope.isBlank n = true)
    (depth level : Nat) :
    readWithin (depth + 1) level scope 0 scope.last =
      Position.moved rows <$> readWithin (depth + 1) level top 0 top.last := by
  have last := lowered.last
  have advances := advances_readWithin depth
  calc
    readWithin (depth + 1) level scope 0 scope.last
    _ = readBlocks (readWithin depth) level scope scope.last (scope.last + 1) rows false true :=
      readBlocks_front rows scope.last false true (by omega) blank
    _ = readBlocks (readWithin depth) level scope scope.last (top.last + 1) rows false true := by
      have count : scope.last + 1 = top.last + 1 + rows := by omega
      rw [count]
      exact readBlocks_add advances (Nat.le_refl _) (top.last + 1) rows false true (by omega)
    _ = Position.moved rows <$> readWithin (depth + 1) level top 0 top.last := by
      have row : readBlocks (readWithin depth) level scope (top.last + rows) (top.last + 1)
          (0 + rows) false true = _ :=
        lowered.readBlocks_eq (followsDown_readWithin depth) advances (Nat.le_refl _) ..
      rw [Nat.zero_add, ← last] at row
      exact row

/-- A text after such a front is read as it is. -/
theorem readDraft_append (features : Features) (references : References)
    (isFront : IsFront front) (back : List Char) :
    readDraft features references (front ++ back) = readDraft features references back := by
  obtain ⟨lowered, blank⟩ := lowered_ofSource features isFront back
  simp only [readDraft, readWithin_lowered lowered blank]
  rfl

/-- Spaces and tabs without the end of a line are no line. -/
theorem readDraft_spaces (features : Features) (references : References) {text : List Char}
    (spaces : ∀ c ∈ text, isSpaceOrTab c = true) :
    readDraft features references text = readDraft features references [] := by
  have none : Line.ofTexts 0 (lines text) = [] := by
    by_cases empty : text = []
    · rw [empty]
      rfl
    · have oneLine : '\n' ∉ text := fun member => absurd (spaces _ member) (by decide)
      have taken : text.takeWhile isSpaceOrTab = text := by
        have all : (text ++ []).takeWhile isSpaceOrTab = text ++ [].takeWhile isSpaceOrTab :=
          List.takeWhile_append_of_pos spaces
        simpa using all
      rw [lines_last oneLine empty, Line.ofTexts]
      simp only [taken]
      rfl
  simp only [readDraft, Scope.ofSource, none]
  rfl

/-- Whatever holds no text is read as nothing is. -/
theorem readDraft_blank (features : Features) (references : References) {text : List Char}
    (blank : ∀ c ∈ text, isSpaceOrTab c = true ∨ c = '\n') :
    readDraft features references text = readDraft features references [] := by
  obtain ⟨front, tail, rfl, ended, oneLine⟩ := exists_lastLine text
  simp only [List.mem_append] at blank
  have isFront : IsFront front := ⟨fun c member => blank c (Or.inl member), ended⟩
  rw [readDraft_append features references isFront]
  refine readDraft_spaces features references fun c member => ?_
  refine (blank c (Or.inr member)).resolve_right ?_
  rintro rfl
  exact oneLine member

/-- What holds no text before a text, up to the end of a line, leaves its tokens as they are. -/
theorem parse_append (features : Features) (references : References) (void : isVoid front = true)
    (ended : back = [] ∨ EndsLine front) :
    parse features references (front ++ back) = parse features references back := by
  have blank := mem_normalizeSource void
  have draft : readDraft features references (normalizeSource (front ++ back)) =
      readDraft features references (normalizeSource back) := by
    rcases ended with rfl | ended
    · rw [List.append_nil]
      exact readDraft_blank features references blank
    · rw [normalizeSource_append ended]
      exact readDraft_append features references ⟨blank, endsLine_normalizeSource ended⟩ _
  simp only [parse, draft]

end FoldMark.Markdown
