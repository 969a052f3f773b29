import FoldMark.Proofs.Text.Pieces

/-!
# Line ends

Where the last line of a text starts, and how line ends are written in one way. Behind the end of a
line they are written on their own: `normalizeNewlines_append`.
-/

namespace FoldMark.Text

variable {front : List Char}

/-- Holds of a text of spaces, tabs and line ends. -/
def isVoid (text : List Char) : Bool := text.all fun c => isSpaceOrTab c || c == '\r' || c == '\n'

/-- A text that ends a line does so without its first character. -/
theorem endsLine_tail {c : Char} {rest : List Char} (ended : EndsLine (c :: rest)) :
    EndsLine rest := by
  obtain none | ⟨front, same⟩ := ended
  · cases none
  · cases front with
    | nil => exact Or.inl (List.cons.inj same).2
    | cons d front => exact Or.inr ⟨front, (List.cons.inj same).2⟩

/-- A text is cut before its last line, if that has no end. -/
theorem exists_lastLine (text : List Char) :
    ∃ front tail, text = front ++ tail ∧ EndsLine front ∧ '\n' ∉ tail := by
  induction text with
  | nil => exact ⟨[], [], rfl, Or.inl rfl, List.not_mem_nil⟩
  | cons c text hypothesis =>
    obtain ⟨front, tail, rfl, none | ⟨before, rfl⟩, oneLine⟩ := hypothesis
    · by_cases newline : c = '\n'
      · exact ⟨['\n'], tail, by rw [none, newline]; rfl, Or.inr ⟨[], rfl⟩, oneLine⟩
      · refine ⟨[], c :: tail, by rw [none]; rfl, Or.inl rfl, ?_⟩
        exact List.not_mem_cons_of_ne_of_not_mem (Ne.symm newline) oneLine
    · exact ⟨c :: (before ++ ['\n']), tail, rfl, Or.inr ⟨c :: before, rfl⟩, oneLine⟩

/-! ## Written line ends -/

/-- A character that starts no pair is written on its own. -/
theorem normalizeNewlines_cons {c : Char} {rest : List Char}
    (alone : c = '\r' → ∀ later, rest ≠ '\n' :: later) :
    normalizeNewlines (c :: rest) = (if c = '\r' then '\n' else c) :: normalizeNewlines rest := by
  rw [normalizeNewlines]
  exact fun later isReturn pair => alone isReturn later pair

/-- What stands after a line feed is written on its own. -/
theorem exists_normalizeNewlines (front : List Char) :
    ∃ before, ∀ back, normalizeNewlines (front ++ '\n' :: back) =
      before ++ '\n' :: normalizeNewlines back := by
  fun_induction normalizeNewlines front with
  | case1 => exact ⟨[], fun back => normalizeNewlines_cons fun same => absurd same (by decide)⟩
  | case2 rest hypothesis =>
    obtain ⟨before, same⟩ := hypothesis
    exact ⟨'\n' :: before, fun back => congrArg ('\n' :: ·) (same back)⟩
  | case3 c rest alone hypothesis =>
    obtain ⟨before, same⟩ := hypothesis
    by_cases pair : c = '\r' ∧ rest = []
    · obtain ⟨rfl, rfl⟩ := pair
      exact ⟨[], fun back => rfl⟩
    · refine ⟨(if c = '\r' then '\n' else c) :: before, fun back => ?_⟩
      rw [List.cons_append, normalizeNewlines_cons, same, List.cons_append]
      intro isReturn later first
      cases rest with
      | nil => exact pair ⟨isReturn, rfl⟩
      | cons d rest => exact alone rest isReturn (by rw [(List.cons.inj first).1])

/-- Written line ends end a line where the text did. -/
theorem endsLine_normalizeNewlines (ended : EndsLine front) :
    EndsLine (normalizeNewlines front) := by
  rcases ended with rfl | ⟨front, rfl⟩
  · exact Or.inl rfl
  · obtain ⟨before, same⟩ := exists_normalizeNewlines front
    exact Or.inr ⟨before, same []⟩

/-- After the end of a line, line ends are written on their own. -/
theorem normalizeNewlines_append (ended : EndsLine front) (back : List Char) :
    normalizeNewlines (front ++ back) = normalizeNewlines front ++ normalizeNewlines back := by
  rcases ended with rfl | ⟨front, rfl⟩
  · rfl
  · obtain ⟨before, same⟩ := exists_normalizeNewlines front
    rw [List.append_assoc, List.singleton_append, same, same]
    exact (List.append_assoc before ['\n'] _).symm

/-- No carriage return is left, and no other character is new. -/
theorem mem_normalizeNewlines {text : List Char} {c : Char}
    (member : c ∈ normalizeNewlines text) : c = '\n' ∨ (c ∈ text ∧ c ≠ '\r') := by
  fun_induction normalizeNewlines text with
  | case1 => exact absurd member List.not_mem_nil
  | case2 rest hypothesis =>
    rcases List.mem_cons.mp member with rfl | member
    · exact Or.inl rfl
    · exact (hypothesis member).imp_right fun inside => ⟨by simp [inside.1], inside.2⟩
  | case3 d rest alone hypothesis =>
    rcases List.mem_cons.mp member with rfl | member
    · split
      · exact Or.inl rfl
      · next kept => exact Or.inr ⟨List.mem_cons_self, kept⟩
    · exact (hypothesis member).imp_right fun inside =>
        ⟨List.mem_cons_of_mem d inside.1, inside.2⟩

end FoldMark.Text
