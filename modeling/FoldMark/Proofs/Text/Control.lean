import FoldMark.Text.Control
import Mathlib.Logic.Basic

/-!
# Control sequences and lines

No control sequence goes on over the end of a line, so a line feed may be added before the sequences
are left out or afterwards (`withoutControls_concat`).
-/

namespace FoldMark.Text

/-- Only an escape and a bracket start a control sequence. -/
theorem afterControl?_of_ne {first second : Char} (other : first ≠ '\x1b' ∨ second ≠ '[')
    (rest : List Char) : afterControl? (first :: second :: rest) = none := by
  rw [afterControl?]
  rintro after ⟨⟩
  simp at other

/-- A line feed after a text follows the control sequence at its front with the rest of it. It is no
parameter, so it ends what stands between the bracket and the letter. -/
theorem afterControl?_concat (text : List Char) :
    afterControl? (text ++ ['\n']) = (afterControl? text).map (· ++ ['\n']) := by
  rcases text with _ | ⟨first, _ | ⟨second, rest⟩⟩
  · rfl
  · have other : '\n' ≠ '[' := by decide
    rw [List.singleton_append, afterControl?_of_ne (.inr other)]
    simp [afterControl?]
  by_cases starts : first = '\x1b' ∧ second = '['
  · obtain ⟨rfl, rfl⟩ := starts
    have stops : (['\n'] : List Char).dropWhile isControlParameter = ['\n'] := by decide
    simp only [List.cons_append, afterControl?, List.dropWhile_append]
    cases found : rest.dropWhile isControlParameter with
    | nil => simp [stops]
    | cons c after => cases letter : c.isAlpha <;> simp [letter]
  · have other : first ≠ '\x1b' ∨ second ≠ '[' := not_and_or.mp starts
    rw [List.cons_append, List.cons_append, afterControl?_of_ne other, afterControl?_of_ne other]
    rfl

/-- Nothing is left out of nothing. -/
theorem withoutControls_nil : withoutControls [] = [] := by
  rw [withoutControls]
  rfl

/-- A control sequence at the front is left out. -/
theorem withoutControls_of_some {text after : List Char}
    (follows : afterControl? text = some after) :
    withoutControls text = withoutControls after := by
  rw [withoutControls]
  split
  · rename_i other same
    rw [Option.some.inj (follows.symm.trans same)]
  · rename_i same
    simp [follows] at same

/-- A character that starts no control sequence is kept. -/
theorem withoutControls_of_none {c : Char} {rest : List Char}
    (stays : afterControl? (c :: rest) = none) :
    withoutControls (c :: rest) = c :: withoutControls rest := by
  rw [withoutControls]
  split
  · rename_i after same
    simp [stays] at same
  · rfl

/-- Control sequences are left out before a line feed is added or afterwards. -/
theorem withoutControls_concat (text : List Char) :
    withoutControls (text ++ ['\n']) = withoutControls text ++ ['\n'] := by
  have added := afterControl?_concat text
  fun_induction withoutControls text with
  | case1 text after follows hypothesis =>
    rw [follows] at added
    rw [withoutControls_of_some added, hypothesis (afterControl?_concat after)]
  | case2 follows =>
    have alone : afterControl? ['\n'] = none := rfl
    rw [List.nil_append, withoutControls_of_none alone, withoutControls_nil]
  | case3 c rest follows hypothesis =>
    rw [follows, List.cons_append] at added
    rw [List.cons_append, withoutControls_of_none added, hypothesis (afterControl?_concat rest),
      List.cons_append]

end FoldMark.Text
