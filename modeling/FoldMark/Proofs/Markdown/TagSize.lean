import FoldMark.Markdown.HtmlTag
import FoldMark.Proofs.Text.Pieces

/-!
# The size of a tag

Whatever is dropped from the front of a text as a tag, a comment or the like is not empty
(`inlineSize?_pos`).
-/

namespace FoldMark.Markdown.HtmlTag

open Text

variable {text rest front mark : List Char}

/-- A part that is dropped from the front of a text leaves a shorter one. -/
def Shortens (drop : List Char → Option (List Char)) : Prop :=
  ∀ text rest, drop text = some rest → rest.length < text.length

/-- A front that is dropped is what the text is shorter by. -/
theorem length_of_dropFront? (dropped : dropFront? front text = some rest) :
    rest.length + front.length = text.length := by
  rw [dropFront?] at dropped
  split at dropped
  · rename_i starts
    obtain ⟨back, rfl⟩ := List.isPrefixOf_iff_prefix.mp starts
    obtain rfl := Option.some.inj dropped
    simp only [List.drop_left, List.length_append]
    omega
  · cases dropped

/-- What stands behind the first occurrence of a text is no longer than the whole. -/
theorem length_le_of_cutAtText {before : List Char}
    (cut : cutAtText mark text = some (before, rest)) :
    rest.length ≤ text.length := by
  induction text generalizing before with
  | nil =>
    rw [cutAtText] at cut
    split at cut
    · obtain ⟨rfl, rfl⟩ := Prod.mk.inj (Option.some.inj cut)
      exact Nat.le_refl 0
    · cases cut
  | cons c text hypothesis =>
    rw [cutAtText] at cut
    split at cut
    · obtain ⟨rfl, rfl⟩ := Prod.mk.inj (Option.some.inj cut)
      rw [List.length_drop]
      exact Nat.sub_le ..
    · obtain ⟨⟨before, after⟩, found, same⟩ := Option.map_eq_some_iff.mp cut
      obtain ⟨-, rfl⟩ := Prod.mk.inj same
      exact Nat.le_succ_of_le (hypothesis found)

/-- What stands behind a character is shorter than the whole. -/
theorem length_lt_of_cutAt {test : Char → Bool} {before : List Char}
    (cut : cutAt test text = some (before, rest)) : rest.length < text.length := by
  obtain ⟨mark, rfl, -, -⟩ := cutAt_eq_some_iff.mp cut
  simp only [List.length_append, List.length_cons]
  omega

/-- Blanks in front are what a text is longer by. -/
theorem length_trimLeft_le (text : List Char) : (trimLeft text).length ≤ text.length :=
  (List.dropWhile_suffix _).length_le

/-- A name is not empty that starts with a character that satisfies a test and goes on with those
that satisfy another. -/
theorem shortens_of_name {starts goesOn : Char → Bool} {drop : List Char → Option (List Char)}
    (nothing : drop [] = none)
    (name : ∀ c text, drop (c :: text) = if starts c then some (text.dropWhile goesOn) else none) :
    Shortens drop := by
  intro text rest dropped
  cases text with
  | nil => cases nothing.symm.trans dropped
  | cons c text =>
    rw [name] at dropped
    split at dropped
    · obtain rfl := Option.some.inj dropped
      exact Nat.lt_succ_of_le ((List.dropWhile_suffix _).length_le)
    · cases dropped

/-- The name of a tag is not empty. -/
theorem shortens_dropTagName? : Shortens dropTagName? := shortens_of_name rfl fun _ _ => rfl

/-- The name of an attribute is not empty. -/
theorem shortens_dropAttributeName? : Shortens dropAttributeName? :=
  shortens_of_name rfl fun _ _ => rfl

/-- Blanks that are dropped make no text longer. -/
theorem length_le_of_mem_dropBlanks (member : rest ∈ dropBlanks text) :
    rest.length ≤ text.length := by
  induction text with
  | nil =>
    obtain rfl := List.mem_singleton.mp member
    exact Nat.le_refl 0
  | cons c text hypothesis =>
    rw [dropBlanks] at member
    rcases List.mem_cons.mp member with rfl | later
    · exact Nat.le_refl _
    · split at later
      · exact Nat.le_succ_of_le (hypothesis later)
      · cases later

/-- A value without quotes that is dropped makes no text longer. -/
theorem length_le_of_mem_afterBare (member : rest ∈ afterBare text) :
    rest.length ≤ text.length := by
  induction text with
  | nil =>
    obtain rfl := List.mem_singleton.mp member
    exact Nat.le_refl 0
  | cons c text hypothesis =>
    rw [afterBare] at member
    split at member
    · obtain rfl := List.mem_singleton.mp member
      exact Nat.le_refl _
    split at member
    · rcases List.mem_cons.mp member with rfl | later
      · exact Nat.le_refl _
      · exact Nat.le_succ_of_le (hypothesis later)
    · exact Nat.le_succ_of_le (hypothesis member)

/-- A value that is dropped makes no text longer. -/
theorem length_le_of_mem_afterValue (member : rest ∈ afterValue text) :
    rest.length ≤ text.length := by
  cases text with
  | nil => cases member
  | cons c text =>
    rw [afterValue] at member
    split at member
    · split at member
      · rename_i before after cut
        obtain rfl := List.mem_singleton.mp member
        exact Nat.le_succ_of_le (Nat.le_of_lt (length_lt_of_cutAt cut))
      · cases member
    split at member
    · exact Nat.le_succ_of_le (length_le_of_mem_afterBare (List.mem_reverse.mp member))
    · cases member

/-- The end of a tag is not empty. -/
theorem shortens_dropTagEnd? : Shortens dropTagEnd? := by
  intro text rest dropped
  have blank := length_trimLeft_le text
  rw [dropTagEnd?] at dropped
  split at dropped
  · rename_i rest whole
    obtain rfl := Option.some.inj dropped
    rw [whole] at blank
    exact blank
  · rename_i rest whole
    obtain rfl := Option.some.inj dropped
    rw [whole] at blank
    exact Nat.le_of_succ_le blank
  · cases dropped

/-- Attributes and the end of a tag are not empty. -/
theorem shortens_dropAttributes? (fuel : Nat) : Shortens (dropAttributes? fuel) := by
  induction fuel with
  | zero => exact shortens_dropTagEnd?
  | succ fuel hypothesis =>
    intro text rest dropped
    rw [dropAttributes?] at dropped
    dsimp only at dropped
    split at dropped
    · exact shortens_dropTagEnd? text rest dropped
    · rename_i named found
      have shorter : named.length < text.length := by
        split at found
        · exact Nat.lt_trans (shortens_dropAttributeName? _ _ found) ‹_›
        · cases found
      rcases Option.or_eq_some_iff.mp dropped with valued | ⟨-, plain⟩
      · split at valued
        · rename_i after whole
          obtain ⟨value, inside, found⟩ := List.exists_of_findSome?_eq_some valued
          obtain ⟨back, behind, found⟩ := List.exists_of_findSome?_eq_some found
          have ended := hypothesis back rest found
          have valueEnd := length_le_of_mem_afterValue behind
          have blanks := length_le_of_mem_dropBlanks (List.mem_reverse.mp inside)
          have equals := length_trimLeft_le named
          rw [whole, List.length_cons] at equals
          omega
        · cases valued
      · exact Nat.lt_trans (hypothesis named rest plain) shorter

/-- An opening tag is not empty. -/
theorem shortens_dropOpening? : Shortens dropOpening? := by
  intro text rest dropped
  rw [dropOpening?.eq_def] at dropped
  split at dropped
  · rename_i inner
    obtain ⟨named, found, dropped⟩ := Option.bind_eq_some_iff.mp dropped
    have name := shortens_dropTagName? _ _ found
    have ended := shortens_dropAttributes? _ _ _ dropped
    rw [List.length_cons]
    omega
  · cases dropped

/-- A closing tag is not empty. -/
theorem shortens_dropClosing? : Shortens dropClosing? := by
  intro text rest dropped
  rw [dropClosing?.eq_def] at dropped
  split at dropped
  · rename_i inner
    obtain ⟨named, found, dropped⟩ := Option.bind_eq_some_iff.mp dropped
    have name := shortens_dropTagName? _ _ found
    have blank := length_trimLeft_le named
    split at dropped
    · rename_i rest whole
      obtain rfl := Option.some.inj dropped
      rw [whole, List.length_cons] at blank
      simp only [List.length_cons]
      omega
    · cases dropped
  · cases dropped

/-- The rest of a comment is not empty. -/
theorem shortens_dropCommentBody? : Shortens dropCommentBody? := by
  intro text rest dropped
  fun_induction dropCommentBody? text with
  | case1 => cases dropped
  | case2 body =>
    obtain rfl := Option.some.inj dropped
    simp only [List.length_cons]
    omega
  | case3 c body other hypothesis =>
    have later := hypothesis dropped
    simp only [List.length_cons]
    omega
  | case4 c body other others hypothesis =>
    have later := hypothesis dropped
    simp only [List.length_cons]
    omega
  | case5 => cases dropped
  | case6 c body _ _ _ _ hypothesis =>
    have later := hypothesis dropped
    rw [List.length_cons]
    omega

/-- A comment is not empty. -/
theorem shortens_dropComment? : Shortens dropComment? := by
  intro text rest dropped
  rw [dropComment?] at dropped
  rcases Option.or_eq_some_iff.mp dropped with found | ⟨-, dropped⟩
  · have length := length_of_dropFront? found
    have size : "<!-->".toList.length = 5 := rfl
    omega
  rcases Option.or_eq_some_iff.mp dropped with found | ⟨-, dropped⟩
  · have length := length_of_dropFront? found
    have size : "<!--->".toList.length = 6 := rfl
    omega
  · obtain ⟨body, found, dropped⟩ := Option.bind_eq_some_iff.mp dropped
    have length := length_of_dropFront? found
    have ended := shortens_dropCommentBody? _ _ dropped
    omega

/-- What stands between two marks is not empty, with the marks. -/
theorem shortens_dropBetween? {start : String} (stop : String) (nonempty : start.toList ≠ []) :
    Shortens (dropBetween? start stop) := by
  intro text rest dropped
  rw [dropBetween?] at dropped
  obtain ⟨inner, found, dropped⟩ := Option.bind_eq_some_iff.mp dropped
  obtain ⟨⟨before, after⟩, cut, same⟩ := Option.bind_eq_some_iff.mp dropped
  obtain rfl := Option.some.inj same
  have length := length_of_dropFront? found
  have ended := length_le_of_cutAtText cut
  have mark := List.length_pos_iff.mpr nonempty
  omega

/-- A declaration is not empty. -/
theorem shortens_dropDeclaration? : Shortens dropDeclaration? := by
  intro text rest dropped
  rw [dropDeclaration?.eq_def] at dropped
  split at dropped
  · split at dropped
    · obtain ⟨⟨before, after⟩, cut, rfl⟩ := Option.map_eq_some_iff.mp dropped
      have ended := length_lt_of_cutAt cut
      simp only [List.length_cons]
      omega
    · cases dropped
  · cases dropped

/-- A tag, a comment or the like has a size. -/
theorem inlineSize?_pos {size : Nat} (found : inlineSize? text = some size) : 0 < size := by
  rw [inlineSize?] at found
  obtain ⟨rest, first, rfl⟩ := Option.map_eq_some_iff.mp found
  obtain ⟨drop, member, dropped⟩ := List.exists_of_findSome?_eq_some first
  have shortens : Shortens drop := by
    simp only [List.mem_cons, List.not_mem_nil, or_false] at member
    rcases member with rfl | rfl | rfl | rfl | rfl | rfl
    · exact shortens_dropOpening?
    · exact shortens_dropClosing?
    · exact shortens_dropComment?
    · exact shortens_dropBetween? _ (by decide)
    · exact shortens_dropDeclaration?
    · exact shortens_dropBetween? _ (by decide)
  have shorter := shortens text rest dropped
  omega

end FoldMark.Markdown.HtmlTag
