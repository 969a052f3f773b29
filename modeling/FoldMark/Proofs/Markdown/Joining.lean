import FoldMark.Markdown.Inline.Delimiter
import Mathlib.Data.List.Chain

/-!
# Joining of texts

Where texts stand side by side they become one. No two do so afterwards (`isChain_joinTexts`), a
content in which none do is left as it is, and joining two of them first changes nothing in the end.
-/

namespace FoldMark.Markdown.Inline

variable {content front back : List Inline} {item : Inline}

/-- Whether a piece of content is text that was written as such. -/
def isText : Inline → Bool
  | .text _ => true
  | _ => false

/-- A text is text. -/
theorem exists_of_isText (text : isText item = true) : ∃ chars, item = .text chars := by
  cases item with
  | text chars => exact ⟨chars, rfl⟩
  | _ => cases text

/-- Two pieces are not both text. -/
def Apart (first second : Inline) : Prop := isText first = true → isText second = false

/-- A piece that is no text stays what it is. -/
theorem joinTexts_cons_of_not_isText (other : isText item = false) (rest : List Inline) :
    joinTexts (item :: rest) = item :: joinTexts rest := by
  cases item with
  | text chars => cases other
  | _ => rfl

/-- A text before one that starts what is joined is joined to it. -/
theorem joinTexts_cons_text {a b : List Char} {rest others : List Inline}
    (joined : joinTexts rest = .text b :: others) :
    joinTexts (.text a :: rest) = .text (a ++ b) :: others := by
  simp only [joinTexts, joined]

/-- A text before anything else stays what it is. -/
theorem joinTexts_cons_text_of_apart {a : List Char} {rest : List Inline}
    (other : ∀ next ∈ (joinTexts rest).head?, isText next = false) :
    joinTexts (.text a :: rest) = .text a :: joinTexts rest := by
  cases joined : joinTexts rest with
  | nil => simp only [joinTexts, joined]
  | cons next others =>
    rw [joined] at other
    cases next with
    | text b => cases other _ rfl
    | _ => simp only [joinTexts, joined]

/-- A piece before what is joined stays what it is, or is a text before a text. -/
theorem joinTexts_cons_cases (item : Inline) (rest : List Inline) :
    (joinTexts (item :: rest) = item :: joinTexts rest ∧
        ∀ next ∈ (joinTexts rest).head?, Apart item next) ∨
      ∃ a b others, item = .text a ∧ joinTexts rest = .text b :: others ∧
        joinTexts (item :: rest) = .text (a ++ b) :: others := by
  cases text : isText item with
  | false =>
    refine Or.inl ⟨joinTexts_cons_of_not_isText text rest, fun _ _ isText => ?_⟩
    exact absurd isText (by simp [text])
  | true =>
    obtain ⟨a, rfl⟩ := exists_of_isText text
    by_cases other : ∀ next ∈ (joinTexts rest).head?, isText next = false
    · exact Or.inl ⟨joinTexts_cons_text_of_apart other, fun next first _ => other next first⟩
    · push Not at other
      obtain ⟨next, first, isText⟩ := other
      obtain ⟨b, rfl⟩ := exists_of_isText (eq_true_of_ne_false isText)
      obtain ⟨others, joined⟩ := List.head?_eq_some_iff.mp first
      exact Or.inr ⟨a, b, others, rfl, joined, joinTexts_cons_text joined⟩

/-- No two texts stand side by side once they are joined. -/
theorem isChain_joinTexts (content : List Inline) : (joinTexts content).IsChain Apart := by
  induction content with
  | nil => exact List.isChain_nil
  | cons item rest hypothesis =>
    rcases joinTexts_cons_cases item rest with ⟨whole, apart⟩ | ⟨a, b, others, rfl, joined, whole⟩
    · rw [whole, List.isChain_cons]
      exact ⟨apart, hypothesis⟩
    · rw [joined, List.isChain_cons] at hypothesis
      rw [whole, List.isChain_cons]
      exact ⟨fun next first _ => hypothesis.1 next first rfl, hypothesis.2⟩

/-- A content in which no two texts stand side by side is left as it is. -/
theorem joinTexts_of_isChain (apart : content.IsChain Apart) : joinTexts content = content := by
  induction content with
  | nil => rfl
  | cons item rest hypothesis =>
    rw [List.isChain_cons] at apart
    have later := hypothesis apart.2
    cases text : isText item with
    | false => rw [joinTexts_cons_of_not_isText text, later]
    | true =>
      obtain ⟨chars, rfl⟩ := exists_of_isText text
      have other : ∀ next ∈ (joinTexts rest).head?, isText next = false := by
        rw [later]
        exact fun next first => apart.1 next first rfl
      rw [joinTexts_cons_text_of_apart other, later]

/-- What is joined behind a piece is joined behind it with others in front. -/
theorem joinTexts_append_congr {other : List Inline} (same : joinTexts back = joinTexts other)
    (front : List Inline) : joinTexts (front ++ back) = joinTexts (front ++ other) := by
  induction front with
  | nil => exact same
  | cons item front hypothesis => simp only [List.cons_append, joinTexts, hypothesis]

/-- Two texts that stand side by side can be joined first. -/
theorem joinTexts_append_text_text (front : List Inline) (a b : List Char) (back : List Inline) :
    joinTexts (front ++ .text a :: .text b :: back) =
      joinTexts (front ++ .text (a ++ b) :: back) := by
  refine joinTexts_append_congr ?_ front
  cases joined : joinTexts back with
  | nil => simp [joinTexts, joined]
  | cons next others =>
    cases next with
    | text c => simp [joinTexts, joined]
    | _ => simp [joinTexts, joined]

/-- Joining leaves something of something. -/
theorem joinTexts_ne_nil (item : Inline) (rest : List Inline) : joinTexts (item :: rest) ≠ [] := by
  cases item with
  | text a =>
    cases joined : joinTexts rest with
    | nil => simp [joinTexts, joined]
    | cons next others => cases next <;> simp [joinTexts, joined]
  | _ => simp [joinTexts]

/-- Up to a piece that is no text, and behind it, texts are joined apart. -/
theorem joinTexts_append_cons (other : isText item = false) (front back : List Inline) :
    joinTexts (front ++ item :: back) = joinTexts (front ++ [item]) ++ joinTexts back := by
  induction front with
  | nil =>
    rw [List.nil_append, List.nil_append, joinTexts_cons_of_not_isText other,
      joinTexts_cons_of_not_isText other]
    rfl
  | cons first front hypothesis =>
    have nonempty : joinTexts (front ++ [item]) ≠ [] := by
      cases front <;> exact joinTexts_ne_nil _ _
    obtain ⟨next, others, joined⟩ := List.exists_cons_of_ne_nil nonempty
    have whole : joinTexts (front ++ item :: back) = next :: (others ++ joinTexts back) := by
      rw [hypothesis, joined, List.cons_append]
    cases first with
    | text a =>
      cases next with
      | text b =>
        rw [List.cons_append, List.cons_append, joinTexts_cons_text whole,
          joinTexts_cons_text joined, List.cons_append]
      | _ => simp only [List.cons_append, joinTexts, whole, joined]
    | _ => simp only [List.cons_append, joinTexts, whole, joined]

/-- An empty text at the end is lost in a text before it, or stays on its own. -/
theorem joinTexts_append_empty (content : List Inline) :
    joinTexts (content ++ [.text []]) = joinTexts content ∨
      joinTexts (content ++ [.text []]) = joinTexts content ++ [.text []] := by
  rcases List.eq_nil_or_concat content with rfl | ⟨front, last, rfl⟩
  · exact Or.inr rfl
  · rw [List.concat_eq_append, List.append_assoc, List.singleton_append]
    cases text : isText last with
    | false => exact Or.inr (joinTexts_append_cons text front _)
    | true =>
      obtain ⟨chars, rfl⟩ := exists_of_isText text
      left
      rw [joinTexts_append_text_text, List.append_nil]

end FoldMark.Markdown.Inline
