import FoldMark.Markdown.Entity
import FoldMark.Proofs.Text.Pieces

/-!
# Character references in running text

A reference is an ampersand, a body and a semicolon (`atFront?_eq_some_iff`), so that it is read the
same whatever stands behind it. It stands for one character, or for two of which none is a brace
and of which both or none are blank (`isCharacterOrPair_of_atFront?`).
-/

namespace FoldMark.Markdown.Entity

open Text

variable {text body meaning : List Char} {size : Nat}

/-- A character of a reference's body. -/
def isBodyChar (c : Char) : Bool := isAsciiAlphanumeric c || c == '#'

/-- A reference has a body of less than thirty-four characters between an ampersand and a
semicolon. -/
theorem body?_eq_some_iff :
    body? text = some body ↔ ∃ rest, text = '&' :: (body ++ ';' :: rest) ∧
      (∀ c ∈ body, isBodyChar c = true) ∧ body.length < 34 := by
  constructor
  · intro found
    rw [body?.eq_def] at found
    split at found
    · rename_i text
      split at found
      · rename_i body' back cut
        split at found
        · rename_i closed
          obtain rfl := Option.some.inj found
          obtain ⟨mark, front, -, inside⟩ := cutAt_eq_some_iff.mp cut
          have whole : text = body' ++ mark :: (back ++ text.drop 34) := by
            rw [← List.cons_append, ← List.append_assoc, ← front, List.take_append_drop]
          rw [whole, List.drop_left, List.head?_cons, beq_iff_eq] at closed
          obtain rfl := Option.some.inj closed
          refine ⟨_, by rw [whole], fun c member => ?_, ?_⟩
          · have kept := inside c member
            rw [Bool.not_eq_false'] at kept
            exact kept
          · have short := congrArg List.length front
            rw [List.length_take, List.length_append, List.length_cons] at short
            omega
        · cases found
      · cases found
    · cases found
  · rintro ⟨rest, rfl, inside, short⟩
    have cut : cutAt (fun c => !(isAsciiAlphanumeric c || c == '#'))
        ((body ++ ';' :: rest).take 34) = some (body, rest.take (33 - body.length)) := by
      have more : 34 - body.length = (33 - body.length) + 1 := by omega
      refine cutAt_eq_some_iff.mpr ⟨';', ?_, by decide, fun c member => ?_⟩
      · rw [List.take_append, List.take_of_length_le (Nat.le_of_lt short), more,
          List.take_succ_cons]
      · rw [Bool.not_eq_false']
        exact inside c member
    rw [body?, cut]
    simp

/-- What the body of a reference stands for. -/
def meaning? (body : List Char) : Option (List Char) :=
  if body.head? = some '#' then (numeric? body).map fun c => [c] else named? body

/-- A reference is an ampersand, a body that stands for something, and a semicolon. -/
theorem atFront?_eq_some_iff :
    atFront? text = some (meaning, size) ↔ ∃ body, body? text = some body ∧
      meaning? body = some meaning ∧ size = body.length + 2 := by
  have direct : atFront? text = (body? text).bind fun body =>
      (meaning? body).map fun meaning => (meaning, body.length + 2) := by
    rw [atFront?]
    refine congrArg _ (funext fun body => ?_)
    dsimp only
    split
    · rename_i digits
      rw [meaning?, if_pos List.head?_cons]
      generalize numeric? ('#' :: digits) = stands
      cases stands <;> rfl
    · rename_i name
      have noSign : body.head? ≠ some '#' := fun starts => by
        obtain ⟨digits, rfl⟩ := List.head?_eq_some_iff.mp starts
        exact name digits rfl
      rw [meaning?, if_neg noSign]
      generalize named? body = stands
      cases stands <;> rfl
  rw [direct]
  constructor
  · intro found
    obtain ⟨body, isBody, found⟩ := Option.bind_eq_some_iff.mp found
    obtain ⟨meaning', stands, same⟩ := Option.map_eq_some_iff.mp found
    obtain ⟨rfl, rfl⟩ := Prod.mk.inj same
    exact ⟨body, isBody, stands, rfl⟩
  · rintro ⟨body, isBody, stands, rfl⟩
    rw [isBody, Option.bind_some, stands]
    rfl

/-- A reference is read the same if nothing stands behind it. -/
theorem atFront?_take (found : atFront? text = some (meaning, size)) :
    (text.take size).length = size ∧ atFront? (text.take size) = some (meaning, size) := by
  obtain ⟨body, isBody, stands, rfl⟩ := atFront?_eq_some_iff.mp found
  obtain ⟨rest, rfl, inside, short⟩ := body?_eq_some_iff.mp isBody
  have written :
      ('&' :: (body ++ ';' :: rest)).take (body.length + 2) = '&' :: (body ++ [';']) := by
    rw [List.take_succ_cons, List.take_append, List.take_of_length_le (Nat.le_succ _)]
    simp
  rw [written]
  refine ⟨by simp, atFront?_eq_some_iff.mpr ⟨body, ?_, stands, rfl⟩⟩
  exact body?_eq_some_iff.mpr ⟨[], rfl, inside, short⟩

/-- A text that is a reference as a whole. -/
theorem exists_body (found : atFront? text = some (meaning, text.length)) :
    ∃ body, text = '&' :: (body ++ [';']) ∧ ∀ c ∈ body, isBodyChar c = true := by
  obtain ⟨body, isBody, -, length⟩ := atFront?_eq_some_iff.mp found
  obtain ⟨rest, rfl, inside, -⟩ := body?_eq_some_iff.mp isBody
  have none : rest.length = 0 := by
    simp only [List.length_cons, List.length_append] at length
    omega
  rw [List.length_eq_zero_iff.mp none]
  exact ⟨body, rfl, inside⟩

/-- No brace stands in a reference. -/
theorem ne_brace_of_atFront? (found : atFront? text = some (meaning, text.length)) :
    ∀ c ∈ text, c ≠ '\x7b' ∧ c ≠ '\x7d' := by
  obtain ⟨body, rfl, inside⟩ := exists_body found
  have free : ∀ c ∈ body, c ≠ '\x7b' ∧ c ≠ '\x7d' := by
    intro c member
    have isBody := inside c member
    constructor <;> (rintro rfl; cases isBody)
  refine List.forall_mem_cons.mpr ⟨by decide, List.forall_mem_append.mpr ⟨free, ?_⟩⟩
  exact List.forall_mem_singleton.mpr (by decide)

/-- One character, or two of which none is a brace and both or none are blank. -/
inductive IsCharacterOrPair : List Char → Prop where
  /-- One character. -/
  | character (c : Char) : IsCharacterOrPair [c]
  /-- Two characters. -/
  | pair {a b : Char} (free : ∀ c ∈ [a, b], c ≠ '\x7b' ∧ c ≠ '\x7d')
      (alike : isBlank a = isBlank b) : IsCharacterOrPair [a, b]

/-- The pairs of the table are alike. -/
theorem isCharacterOrPair_of_mem {name : String} {first second : Nat}
    (member : (name, first, second) ∈ entityPairs) :
    IsCharacterOrPair [Char.ofNat first, Char.ofNat second] := by
  have all : ∀ entry ∈ entityPairs,
      (Char.ofNat entry.2.1 ≠ '\x7b' ∧ Char.ofNat entry.2.1 ≠ '\x7d') ∧
      (Char.ofNat entry.2.2 ≠ '\x7b' ∧ Char.ofNat entry.2.2 ≠ '\x7d') ∧
      isBlank (Char.ofNat entry.2.1) = isBlank (Char.ofNat entry.2.2) := by decide +kernel
  obtain ⟨first, second, alike⟩ := all _ member
  exact .pair (List.forall_mem_cons.mpr ⟨first, List.forall_mem_singleton.mpr second⟩) alike

/-- A reference stands for one character, or for two that are alike. -/
theorem isCharacterOrPair_of_atFront? (found : atFront? text = some (meaning, size)) :
    IsCharacterOrPair meaning := by
  obtain ⟨body, -, stands, -⟩ := atFront?_eq_some_iff.mp found
  rw [meaning?] at stands
  split at stands
  · obtain ⟨c, -, rfl⟩ := Option.map_eq_some_iff.mp stands
    exact .character c
  · obtain ⟨front, back, whole, -⟩ := List.lookup_eq_some_iff.mp stands
    have member : (body, meaning) ∈ named := by
      rw [whole]
      exact List.mem_append_right front List.mem_cons_self
    rw [named, List.mem_append] at member
    rcases member with single | pair
    · obtain ⟨⟨name', c⟩, -, same⟩ := List.mem_map.mp single
      obtain ⟨-, rfl⟩ := Prod.mk.inj same
      exact .character c
    · obtain ⟨⟨name', first, second⟩, listed, same⟩ := List.mem_map.mp pair
      obtain ⟨-, rfl⟩ := Prod.mk.inj same
      exact isCharacterOrPair_of_mem listed

end FoldMark.Markdown.Entity
