/-!
# Control sequences

A terminal takes an escape character, a bracket, numbers and a letter for an order about colours or
its cursor. Where a text is not written to a terminal, such sequences are left out of it.
-/

namespace FoldMark.Text

/-- Whether a character may stand between the bracket of a control sequence and its letter. -/
def isControlParameter (c : Char) : Bool := c == ';' || c == '?' || c.isDigit

/-- What follows a control sequence at the front of a text. -/
def afterControl? : List Char → Option (List Char)
  | '\x1b' :: '[' :: rest =>
    match rest.dropWhile isControlParameter with
    | c :: after => if c.isAlpha then some after else none
    | [] => none
  | _ => none

/-- Less of a text follows a control sequence. -/
theorem length_lt_of_afterControl? {text after : List Char}
    (follows : afterControl? text = some after) : after.length < text.length := by
  unfold afterControl? at follows
  split at follows
  · rename_i rest
    have shorter := (List.dropWhile_suffix isControlParameter (l := rest)).length_le
    split at follows
    · rename_i c found ends
      rw [ends] at shorter
      obtain ⟨-, same⟩ := Option.ite_none_right_eq_some.mp follows
      obtain rfl := Option.some.inj same
      simp only [List.length_cons] at shorter ⊢
      omega
    · cases follows
  · cases follows

/-- A text without its control sequences. -/
def withoutControls (text : List Char) : List Char :=
  match _ : afterControl? text with
  | some after => withoutControls after
  | none =>
    match text with
    | [] => []
    | c :: rest => c :: withoutControls rest
termination_by text.length
decreasing_by
  · exact length_lt_of_afterControl? ‹_›
  · exact Nat.lt_succ_self _

end FoldMark.Text
